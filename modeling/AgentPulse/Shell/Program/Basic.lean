import AgentPulse.Shell.Opening

/-!
# Programs

A program works on its arguments and on the descriptors it was started with, and ends with a number.
Some programs start others.
-/

namespace AgentPulse.Shell

/-- Start the program that the first argument names. -/
abbrev Launch := List Raw → Act (Except Files.Fault Ending)

/-- A program. It gets the arguments behind its name. -/
inductive Program where
  | plain (work : List Raw → Act Nat)
  | starting (work : Launch → List Raw → Act Ending)

namespace Act

/-- Do something in a process of its own. What belongs to the shell alone is as before
afterwards. -/
def apart {α : Type} (change : State → State) (body : Act α) : Act α := do
  let outer := (← get).toInterpreter
  modify fun s => change { s with processes := s.processes + 1 }
  let r ← body
  modify fun s => { s with toInterpreter := outer }
  return r

/-- Say how a process was killed, if anything is said about that. -/
def mourn (e : Ending) : Act Unit :=
  match e with
  | .exit _ => return
  | .killed n =>
    match Signal.epitaph? n with
    | some message => say message
    | none => return

end Act

namespace Program

/-- The number that stands for success or failure. -/
def code (isFine : Bool) (failure : Nat := 1) : Nat := if isFine then 0 else failure

/-- Say why a program fails. -/
def failed (message : String) (status : Nat := 1) : Act Nat := do
  Act.say message
  return status

/-- What is said about wrong use of a program. -/
def tryHelp (name : String) : String := "Try '" ++ name ++ " --help' for more information."

/-- Wrong use of a program. -/
def misused (name message : String) (status : Nat := 1) : Act Nat :=
  failed (name ++ ": " ++ message ++ "\n" ++ tryHelp name) status

/-! ## Names in messages -/

/-- A character in single quotes. Those that cannot be shown stand in quotes of another kind. -/
def quotedChar (c : Char) : Raw :=
  if c = '\'' then raw "'\\''"
  else if c = '\n' then raw "'$'\\n''"
  else if c = '\t' then raw "'$'\\t''"
  else if c < ' ' ∨ '~' < c then
    let ds := Nat.toDigits 8 c.toNat
    raw "'$'\\" ++ List.replicate (3 - ds.length) '0' ++ ds ++ raw "''"
  else [c]

/-- A name in quotes. -/
def quoted (name : Raw) : String :=
  let isHard (c : Char) : Bool := "\"$`\\!".contains c || c < ' ' || '~' < c
  if name.contains '\'' && !name.any isHard then "\"" ++ name.shown ++ "\""
  else "'" ++ Raw.shown (name.flatMap quotedChar) ++ "'"

/-- Whether a character in a name makes quotes necessary. -/
def needsQuotes (c : Char) : Bool :=
  " !\"$&()*;<=>[^`|'\\?".contains c || c < ' ' || '~' < c

/-- A name, in quotes where that is necessary. -/
def named (name : Raw) : String :=
  if name.isEmpty || name.any needsQuotes || name.head? == some '#' || name.head? == some '~' then
    quoted name
  else name.shown

/-! ## Options -/

/-- An option: its letter, and whether an argument follows. -/
structure Flag where
  letter : Char
  hasArgument : Bool := false
  deriving Repr, Inhabited

/-- The options that a program knows: by letter, and by longer names for letters. -/
structure Flags where
  letters : List Flag
  names : List (String × Char) := []
  /-- Whether options may stand behind other arguments. -/
  isAnywhere : Bool := true
  deriving Repr, Inhabited

/-- Options from a text in which a colon stands behind the letters of those that have an
argument. -/
def Flags.read : List Char → List Flag
  | c :: ':' :: rest => ⟨c, true⟩ :: Flags.read rest
  | c :: rest => ⟨c, false⟩ :: Flags.read rest
  | [] => []

/-- Options by their letters and names. -/
def Flags.of (letters : String) (names : List (String × Char) := []) (isAnywhere : Bool := true) :
    Flags := { letters := Flags.read letters.toList, names, isAnywhere }

/-- The options that a program was given, in order, and its other arguments. -/
structure Arguments where
  options : List (Char × Raw) := []
  operands : List Raw := []
  deriving Repr, Inhabited

namespace Arguments

/-- Whether an option was given. -/
def has (a : Arguments) (c : Char) : Bool := a.options.any fun o => o.1 == c

/-- The argument of an option, the last one if it was given several times. -/
def value? (a : Arguments) (c : Char) : Option Raw :=
  (a.options.reverse.find? fun o => o.1 == c).map (·.2)

/-- The last of some options that was given. -/
def last? (a : Arguments) (cs : List Char) : Option Char :=
  (a.options.reverse.find? fun o => cs.contains o.1).map (·.1)

/-- One more option. -/
def withOption (a : Arguments) (c : Char) (value : Raw) : Arguments :=
  { a with options := (c, value) :: a.options }

end Arguments

/-- The options in one argument, and the last one if its argument is still to come. -/
def Flags.cluster (known : List Flag) :
    Raw → Except String (List (Char × Raw) × Option Char)
  | [] => .ok ([], none)
  | c :: cs =>
    match known.find? fun f => f.letter == c with
    | none => .error ("invalid option -- '" ++ String.singleton c ++ "'")
    | some f =>
      if !f.hasArgument then do
        let (options, last) ← Flags.cluster known cs
        return ((c, []) :: options, last)
      else if cs.isEmpty then .ok ([], some c)
      else .ok ([(c, cs)], none)

/-- The option of a longer name, which may be cut short as long as it is the only one. -/
def Flags.named (flags : Flags) (name : Raw) : Except String (String × Flag) := do
  let text := String.ofList name
  let exact := flags.names.filter fun n => n.1 == text
  let found := if exact.isEmpty then flags.names.filter fun n => text.isPrefixOf n.1 else exact
  match found with
  | [(long, c)] =>
    return (long, (flags.letters.find? fun f => f.letter == c).getD { letter := c })
  | [] => .error ("unrecognized option '--" ++ name.shown ++ "'")
  | several =>
    let all := several.map fun n => " '--" ++ n.1 ++ "'"
    .error ("option '--" ++ name.shown ++ "' is ambiguous; possibilities:" ++ String.join all)

/-- Tell options from other arguments. -/
def Flags.arguments (flags : Flags) : List Raw → Except String Arguments
  | [] => .ok {}
  | ['-', '-'] :: rest => .ok { operands := rest }
  | ('-' :: '-' :: c :: cs) :: rest => do
    let name := (c :: cs).takeWhile (· != '=')
    let assigned : Option Raw :=
      if name.length < cs.length + 1 then some ((c :: cs).drop (name.length + 1)) else none
    let (long, f) ← flags.named name
    match f.hasArgument, assigned, rest with
    | false, some _, _ => .error ("option '--" ++ long ++ "' doesn't allow an argument")
    | false, none, rest => return (← flags.arguments rest).withOption f.letter []
    | true, some value, rest => return (← flags.arguments rest).withOption f.letter value
    | true, none, value :: rest => return (← flags.arguments rest).withOption f.letter value
    | true, none, [] => .error ("option '--" ++ long ++ "' requires an argument")
  | ('-' :: c :: cs) :: rest => do
    let (options, last) ← Flags.cluster flags.letters (c :: cs)
    match last, rest with
    | none, rest =>
      let a ← flags.arguments rest
      return { a with options := options ++ a.options }
    | some d, value :: rest =>
      let a ← flags.arguments rest
      return { a with options := options ++ (d, value) :: a.options }
    | some d, [] => .error ("option requires an argument -- '" ++ String.singleton d ++ "'")
  | a :: rest =>
    if !flags.isAnywhere then .ok { operands := a :: rest }
    else do
      let more ← flags.arguments rest
      return { more with operands := a :: more.operands }

/-- Work on arguments that have been told apart. Wrong use leads to the given number. -/
def workingOr (failure : Nat) (name : String) (flags : Flags) (args : List Raw)
    (work : Arguments → Act Nat) : Act Nat :=
  match flags.arguments args with
  | .ok a => work a
  | .error message => misused name message failure

/-- Work on arguments that have been told apart. -/
def working (name : String) (flags : Flags) (args : List Raw) (work : Arguments → Act Nat) :
    Act Nat := workingOr 1 name flags args work

/-! ## Reading -/

/-- The lines of a text, the last one first, behind those found already. `here` is the line that has
been reached, its last character first. -/
def linesInto (found : List Raw) (here : Raw) : Raw → List Raw
  | [] => if here.isEmpty then found else here.reverse :: found
  | '\n' :: rest => linesInto (here.reverse :: found) [] rest
  | c :: rest => linesInto found (c :: here) rest

/-- The lines of a text without their breaks. -/
def linesOf (text : Raw) : List Raw := (linesInto [] [] text).reverse

/-- Lines with a break behind each. -/
def unlines (ls : List Raw) : Raw := ls.flatMap (· ++ ['\n'])

/-- The parts of a text between separators. -/
def partsOf (separator : Char) (cs : Raw) : List Raw :=
  cs.foldr (fun c parts =>
    match parts with
    | [] => if c = separator then [[], []] else [[c]]
    | part :: rest => if c = separator then [] :: part :: rest else (c :: part) :: rest) [[]]

/-- Read a file, or the input where the name is a dash. -/
def readNamed (path : Raw) : Act (Except Files.Fault Raw) :=
  if path = ['-'] then Act.readAll 0 else Act.readPath path

/-- Read the files that are named, or the input where none is, and complain about those that cannot
be read. -/
def gather (paths : List Raw) (complaint : Raw → Files.Fault → String) :
    Act (List (Raw × Raw) × Bool) := do
  let paths := if paths.isEmpty then [['-']] else paths
  let (texts, isFine) ← paths.foldlM (fun (texts, isFine) (path : Raw) => do
    match ← readNamed path with
    | .ok text => return ((path, text) :: texts, isFine)
    | .error f =>
      Act.say (complaint path f)
      return (texts, false)) (([] : List (Raw × Raw)), true)
  return (texts.reverse, isFine)

/-- The complaint about a file that names the file and what is wrong. -/
def usualComplaint (program : String) (path : Raw) (f : Files.Fault) : String :=
  program ++ ": " ++ named path ++ ": " ++ f.words

/-! ## Changing files -/

/-- Change the tree, or say why that cannot be done. -/
def change (f : State → Except Files.Fault Files.Tree) : Act (Option Files.Fault) := do
  let s ← get
  match f s with
  | .ok tree =>
    set { s with tree }
    return none
  | .error fault => return some fault

/-- Do something for each of some paths: whether all of it succeeded. -/
def forAll (paths : List Raw) (work : Raw → Act Bool) : Act Bool :=
  paths.foldlM (fun isFine path => do
    let isDone ← work path
    return isFine && isDone) true

/-- Whether there is a folder at a path. -/
def isFolder (path : Raw) : Act Bool := do
  let s ← get
  return Files.isFolder s.tree s.folder path.toBytes

/-- The last name of a path. -/
def lastName (path : Raw) : Raw := Raw.ofBytes ((Files.names path.toBytes).getLast?.getD [])

/-- A name behind the path of a folder. -/
def below (folder name : Raw) : Raw :=
  if folder.getLast? = some '/' then folder ++ name else folder ++ '/' :: name

end Program

end AgentPulse.Shell
