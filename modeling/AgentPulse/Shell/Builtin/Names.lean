import AgentPulse.Shell.Builtin.Folders
import AgentPulse.Shell.Builtin.Variables
import AgentPulse.Shell.Grammar
import AgentPulse.Shell.System

/-!
# What a name stands for

A name that is given as a command may be a keyword, an alias, a function, a builtin, or a program in
one of several folders.
-/

namespace AgentPulse.Shell.Builtin

/-- The builtins whose failure does not end the shell. -/
def ordinaryBuiltins : List String := [
  "[", "alias", "bg", "cd", "chdir", "command", "echo", "false", "fg", "getopts", "hash", "jobs",
  "kill", "printf", "pwd", "read", "test", "true", "type", "ulimit", "umask", "unalias", "wait"]

/-- The builtins of which arguments may be assignments. -/
def assigningBuiltins : List String := ["alias", "export", "local", "readonly"]

/-- Whether there is a builtin of a name. -/
def isBuiltin (name : String) : Bool :=
  specialBuiltins.contains name || ordinaryBuiltins.contains name

/-- The folders that programs are looked up in. -/
def searchFolders (s : State) : List Raw := colonParts ((s.valueOf? (raw "PATH")).getD [])

/-- The first path to a file of a name in some folders. -/
def inFolders (s : State) (name : Raw) (fault : Files.Fault) : List Raw → Except Files.Fault Raw
  | [] => .error fault
  | folder :: rest =>
    let path := if folder.isEmpty then name else folder ++ '/' :: name
    match Files.entryAt s.tree s.folder path.toBytes with
    | .ok (_, .file _) => .ok path
    | .ok _ => inFolders s name .noAccess rest
    | .error .missing | .error .notAFolder => inFolders s name fault rest
    | .error f => inFolders s name f rest

/-- The path to the program of a name. -/
def programPath (s : State) (name : Raw) (folders : List Raw) : Except Files.Fault Raw :=
  inFolders s name .missing folders

/-- Why a command cannot be carried out. -/
def whyNot (f : Files.Fault) : String :=
  match f with
  | .missing | .notAFolder => "not found"
  | f => f.words

/-! ## Aliases -/

/-- An alias as it can be read again. -/
def aliasText (name : String) (text : Raw) : Raw := name.toList ++ '=' :: quoted text

/-- The place of a name among aliases that are shown: names are spread over a number of lists. -/
def aliasRank (name : String) : Nat :=
  let first := (name.toList.head?.map Char.toNat).getD 0
  name.toList.foldl (fun n c => n + c.toNat) (first * 16) % 39

/-- Make aliases, or show them. -/
def makeAliases : Builtin := fun args => do
  if args.isEmpty then
    let all := (← get).aliases.entries.mergeSort fun a b =>
      decide (aliasRank a.1 ≤ aliasRank b.1)
    all.forM fun e => Act.outLine (aliasText e.1 e.2)
    return 0
  else
    args.foldlM (fun status (arg : Raw) => do
      let name := arg.take 1 ++ (arg.drop 1).takeWhile (· != '=')
      if name.length < arg.length then
        modify fun s =>
          { s with aliases := s.aliases.insert (String.ofList name) (arg.drop (name.length + 1)) }
        return status
      else match (← get).aliases.find? (String.ofList name) with
        | some text =>
          Act.outLine (aliasText (String.ofList name) text)
          return status
        | none =>
          Act.say ("alias: " ++ Raw.shown name ++ " not found")
          return 1) 0

/-- Take away aliases. -/
def dropAliases : Builtin := fun args => do
  let (options, names) ← Course.options [('a', false)] args
  if !options.isEmpty then
    modify fun s => { s with aliases := Dict.empty }
    return 0
  else
    names.foldlM (fun status (name : Raw) => do
      let key := String.ofList name
      if (← get).aliases.contains key then
        modify fun s => { s with aliases := s.aliases.erase key }
        return status
      else
        Act.say ("unalias: " ++ name.shown ++ " not found")
        return 1) 0

/-! ## Descriptions -/

/-- Say what a name stands for, in a sentence or in short. -/
def describe (name : Raw) (isLong : Bool) (folders : List Raw) : Course Nat := do
  let s ← get
  let text := String.ofList name
  let told (what : String) : Course Nat := do
    Act.outLine (if isLong then name ++ raw what else name)
    return 0
  if keywords.contains text then told " is a shell keyword"
  else match s.aliases.find? text with
    | some value =>
      if isLong then Act.outLine (name ++ raw " is an alias for " ++ value)
      else Act.outLine (raw "alias " ++ aliasText text value)
      return 0
    | none =>
      let missing : Course Nat := do
        if isLong then Act.out (name ++ raw ": not found\n")
        return 127
      let program (path : Raw) (tracked : Bool) : Course Nat := do
        let lead := if tracked then " is a tracked alias for " else " is "
        Act.outLine (if isLong then name ++ raw lead ++ path else path)
        return 0
      if s.functions.contains text then told " is a shell function"
      else if specialBuiltins.contains text then told " is a special shell builtin"
      else if isBuiltin text then told " is a shell builtin"
      else if name.contains '/' then
        match Files.entryAt s.tree s.folder name.toBytes with
        | .ok _ => program name false
        | .error _ => missing
      else match programPath s name folders with
        | .ok path => program path (s.found.contains name)
        | .error _ => missing

/-- Say what names stand for. -/
def describeAll : Builtin := fun args => do
  let folders := searchFolders (← get)
  args.foldlM (fun status (name : Raw) => do
    let r ← describe name true folders
    return status ||| r) 0

/-- Show the programs that have been found, find some, or forget all. -/
def rememberPrograms : Builtin := fun args => do
  let (options, names) ← Course.options [('r', false)] args
  let s ← get
  if !options.isEmpty then
    set { s with found := [] }
    return 0
  else if names.isEmpty then
    s.found.reverse.forM fun (name : Raw) =>
      match programPath s name (searchFolders s) with
      | .ok path => Act.outLine path
      | .error _ => pure ()
    return 0
  else
    names.foldlM (fun status (name : Raw) => do
      let s ← get
      let text := String.ofList name
      if isBuiltin text || s.functions.contains text || name.contains '/' then return status
      else match programPath s name (searchFolders s) with
        | .ok _ =>
          modify fun s => { s with found := name :: s.found.filter (· != name) }
          return status
        | .error f =>
          Act.complain (name.shown ++ ": " ++ whyNot f)
          return 1) 0

end AgentPulse.Shell.Builtin
