import AgentPulse.Shell.Builtin.Folders
import AgentPulse.Shell.Builtin.Names
import AgentPulse.Shell.Condition
import AgentPulse.Shell.Program.Folders

/-!
# Programs about names and the system

Programs that take paths apart, say where and who one is, and answer questions.
-/

namespace AgentPulse.Shell.Program

/-! ## Paths -/

/-- A path without slashes at its end. -/
def withoutEndSlashes (path : Raw) : Raw := (path.reverse.dropWhile (· == '/')).reverse

/-- The last name of a path that may not be there. -/
def baseOf (path : Raw) : Raw :=
  let bare := withoutEndSlashes path
  if bare.isEmpty then path.take 1 else (bare.reverse.takeWhile (· != '/')).reverse

/-- A path without its last name. -/
def folderOf (path : Raw) : Raw :=
  let bare := withoutEndSlashes path
  if bare.isEmpty then if path.isEmpty then ['.'] else ['/']
  else
    let front := bare.reverse.dropWhile (· != '/')
    let outer := withoutEndSlashes front.reverse
    if front.isEmpty then ['.'] else if outer.isEmpty then ['/'] else outer

/-- A name without an ending, unless that is all of it. -/
def withoutEnding (ending name : Raw) : Raw :=
  if ending.isSuffixOf name ∧ ending ≠ name then name.take (name.length - ending.length) else name

/-- Show the last names of paths. -/
def basename (args : List Raw) : Act Nat :=
  let flags := Flags.of "as:z" [("multiple", 'a'), ("suffix", 's'), ("zero", 'z')] false
  working "basename" flags args fun a => do
    let isMany := a.has 'a' || a.has 's'
    let close : Char := if a.has 'z' then '\x00' else '\n'
    let write (ending path : Raw) : Act Unit :=
      Act.out (withoutEnding ending (baseOf path) ++ [close])
    match a.operands with
    | [] => misused "basename" "missing operand"
    | paths =>
      if isMany then
        paths.forM (write ((a.value? 's').getD []))
        return 0
      else match paths with
        | _ :: _ :: extra :: _ => misused "basename" ("extra operand " ++ quoted extra)
        | paths =>
          write (paths[1]?.getD []) (paths.headD [])
          return 0

/-- Show paths without their last names. -/
def dirname (args : List Raw) : Act Nat :=
  working "dirname" (Flags.of "z" [("zero", 'z')]) args fun a => do
    if a.operands.isEmpty then misused "dirname" "missing operand"
    else
      let close : Char := if a.has 'z' then '\x00' else '\n'
      a.operands.forM fun (path : Raw) => Act.out (folderOf path ++ [close])
      return 0

/-- Show the folder. -/
def pwd (args : List Raw) : Act Nat :=
  working "pwd" (Flags.of "LP" [("logical", 'L'), ("physical", 'P')]) args fun a => do
    let s ← get
    let place := Builtin.pathOf s.folder
    let route := (s.valueOf? (raw "PWD")).getD place
    let isRight : Bool := match Files.folderAt s.tree s.folder route.toBytes with
      | .ok p => p == s.folder && route.head? == some '/'
      | .error _ => false
    Act.outLine (if a.last? ['L', 'P'] = some 'L' && isRight then route else place)
    return 0

/-- Show the paths of programs. -/
def which (args : List Raw) : Act Nat := do
  let (options, names) := (args.takeWhile fun arg => arg.head? = some '-',
    args.dropWhile fun arg => arg.head? = some '-')
  let s ← get
  let isProgram (path : Raw) : Bool :=
    (Condition.file? s path).any fun f => f.mode &&& 0o111 != 0
  let isFine ← forAll names fun (name : Raw) => do
    let paths := if name.contains '/' then [name]
      else (Builtin.searchFolders s).map fun f => (if f.isEmpty then ['.'] else f) ++ '/' :: name
    let found := paths.filter isProgram
    let shown := if options.contains ['-', 'a'] then found else found.take 1
    shown.forM fun (path : Raw) => Act.outLine path
    return !found.isEmpty
  return code (isFine && !names.isEmpty)

/-! ## Questions -/

/-- Ask a question. -/
def askFor (name : String) (args : List Raw) : Act Nat := do
  match Condition.holds (← get) args (args.length + 2) with
  | .ok r => return code r
  | .error (.illegalNumber text) => failed (name ++ ": invalid integer " ++ quoted text) 2
  | .error (.missing operator) => failed (name ++ ": missing argument after " ++ quoted operator) 2
  | .error (.unexpected text) => failed (name ++ ": extra argument " ++ quoted text) 2
  | .error .unclosed => failed (name ++ ": ')' expected") 2

/-- Ask a question. -/
def test (args : List Raw) : Act Nat := askFor "test" args

/-- Ask a question in brackets. -/
def bracketTest (args : List Raw) : Act Nat :=
  if args.getLast? = some [']'] then askFor "[" args.dropLast else failed "[: missing ']'" 2

/-! ## The system -/

/-- Show the variables that programs get to see. -/
def printenv (args : List Raw) : Act Nat :=
  workingOr 2 "printenv" (Flags.of "0" [("null", '0')] false) args fun a => do
    let close : Char := if a.has '0' then '\x00' else '\n'
    let all := (← get).environment
    match a.operands with
    | [] =>
      all.forM fun (e : Raw × Raw) => Act.out (e.1 ++ '=' :: e.2 ++ [close])
      return 0
    | names =>
      let isFine ← forAll names fun (name : Raw) => do
        match all.lookup name with
        | some value =>
          Act.out (value ++ [close])
          return true
        | none => return false
      return code isFine

/-- Show who one is. -/
def id (args : List Raw) : Act Nat :=
  let names := [("user", 'u'), ("group", 'g'), ("groups", 'G'), ("name", 'n'), ("real", 'r')]
  working "id" (Flags.of "ugGnrz" names) args fun a => do
    let isPart := a.has 'u' || a.has 'g' || a.has 'G'
    let all : String := "uid=0(root) gid=0(root) groups=0(root)"
    if !isPart && (a.has 'n' || a.has 'r') then
      failed "id: printing only names or real IDs requires -u, -g, or -G"
    else
      Act.outLine (raw (if !isPart then all else if a.has 'n' then "root" else "0"))
      return 0

/-- Show the name of the one who gives commands. -/
def whoami (args : List Raw) : Act Nat :=
  working "whoami" (Flags.of "") args fun a => do
    match a.operands with
    | [] =>
      Act.outLine (raw "root")
      return 0
    | extra :: _ => misused "whoami" ("extra operand " ++ quoted extra)

/-- What is known about the system, by option. -/
def systemFacts : List (Char × String) := [
  ('s', "Linux"), ('n', "localhost"), ('r', "5.15.0"), ('v', "#1 SMP"), ('m', "x86_64"),
  ('o', "GNU/Linux")]

/-- Show what is known about the system. -/
def uname (args : List Raw) : Act Nat :=
  let names := [("all", 'a'), ("kernel-name", 's'), ("nodename", 'n'), ("kernel-release", 'r'),
    ("kernel-version", 'v'), ("machine", 'm'), ("operating-system", 'o')]
  working "uname" (Flags.of "asnrvmpio" names) args fun a => do
    match a.operands with
    | extra :: _ => misused "uname" ("extra operand " ++ quoted extra)
    | [] =>
      let shown := systemFacts.filter fun f =>
        a.has 'a' || a.has f.1 || (a.options.isEmpty && f.1 == 's')
      let rest : List String := if shown.isEmpty then ["unknown"] else []
      Act.outLine (raw (String.intercalate " " (shown.map (·.2) ++ rest)))
      return 0

/-- Say which terminal the input comes from. There is none. -/
def tty (args : List Raw) : Act Nat :=
  workingOr 2 "tty" (Flags.of "s" [("silent", 's'), ("quiet", 's')]) args fun a => do
    if !a.has 's' then Act.outLine (raw "not a tty")
    return 1

/-- Show one line that is always the same. -/
def showing (line : String) (_args : List Raw) : Act Nat := do
  Act.outLine (raw line)
  return 0

/-- Do nothing, and end in a given way. -/
def ending (status : Nat) (_args : List Raw) : Act Nat := return status

end AgentPulse.Shell.Program
