import AgentPulse.Shell.Course
import AgentPulse.Shell.Permission

/-!
# The folder of the shell

A shell knows its folder by the path on which it came there, so that `..` leads back through a link.
-/

namespace AgentPulse.Shell.Builtin

/-- Names as a path from the outermost folder. -/
def absolute (names : List Raw) : Raw := '/' :: List.intercalate ['/'] names

/-- The names of a path. -/
def namesOf (path : Raw) : List Raw := (Files.names path.toBytes).map Raw.ofBytes

/-- The path of a place. -/
def pathOf (p : Files.Place) : Raw := absolute (p.map Raw.ofBytes)

/-- Where a path leads from a route, by its names alone. -/
def routeTo (route path : Raw) : Raw :=
  let start := if path.head? = some '/' then [] else namesOf route
  absolute ((namesOf path).foldl (fun names n =>
    if n = ['.'] then names else if n = ['.', '.'] then names.dropLast else names ++ [n]) start)

/-- Let a variable have a value that programs get to see. -/
def assignExported (name value : Raw) : Course Unit := do
  Course.assign name value
  modify fun s => s.putVariable name ((s.varOf? name).map fun v => { v with isExported := true })

/-- Go to a folder, if there is one at a path. -/
def enter (path : Raw) (isPhysical : Bool) : Course Bool := do
  let s ← get
  let target := if isPhysical then path else routeTo s.route path
  match Files.folderAt s.tree s.folder target.toBytes with
  | .error _ => return false
  | .ok p =>
    assignExported (raw "OLDPWD") s.route
    let route := if isPhysical then pathOf p else target
    modify fun s => { s with folder := p, route }
    assignExported (raw "PWD") route
    return true

/-- The parts of a list with colons between them. -/
def colonParts (cs : Raw) : List Raw :=
  cs.foldr (fun c parts =>
    match parts with
    | [] => if c = ':' then [[], []] else [[c]]
    | part :: rest => if c = ':' then [] :: part :: rest else (c :: part) :: rest) [[]]

/-- Whether a path starts with a slash, or with a dot or two as a name. -/
def isDirect (path : Raw) : Bool :=
  match path with
  | '/' :: _ | ['.'] | '.' :: '/' :: _ | ['.', '.'] | '.' :: '.' :: '/' :: _ => true
  | _ => false

/-- Go to another folder. It may be looked up in several others. -/
def changeFolder : Builtin := fun args => do
  let (options, args) ← Course.options [('L', false), ('P', false)] args
  let isPhysical := (options.getLast?.map (·.1)) = some 'P'
  let s ← get
  let path := match args with
    | [] => (s.valueOf? (raw "HOME")).getD []
    | ['-'] :: _ => (s.valueOf? (raw "OLDPWD")).getD []
    | path :: _ => path
  let isBack := args.head? = some ['-']
  let search := if isDirect path then none else s.valueOf? (raw "CDPATH")
  let dest := if path.isEmpty then ['.'] else path
  let places := (search.map colonParts).getD []
  let found := places.find? fun outer =>
    let path : Raw := if outer.isEmpty then dest else outer ++ '/' :: dest
    Files.isFolder s.tree s.folder path.toBytes
  let target := match found with
    | some (c :: outer) => c :: outer ++ '/' :: dest
    | _ => dest
  if ← enter target isPhysical then
    if isBack || (found.any fun outer => !outer.isEmpty) then Act.outLine (← get).route
    return 0
  else Course.fail ("can't cd to " ++ path.shown)

/-- Show the folder. -/
def showFolder : Builtin := fun args => do
  let (options, _) ← Course.options [('L', false), ('P', false)] args
  let s ← get
  Act.outLine (if (options.getLast?.map (·.1)) = some 'P' then pathOf s.folder else s.route)
  return 0

/-- Show or change the permissions that new files do not get. -/
def changeMask : Builtin := fun args => do
  let (options, args) ← Course.options [('S', false)] args
  let s ← get
  match args with
  | [] =>
    Act.outLine (if options.isEmpty then Permission.octal 4 s.mask
      else Permission.symbolic (0o777 - s.mask))
    return 0
  | arg :: _ =>
    match Permission.read? arg with
    | some (.exactly mode) =>
      modify fun s => { s with mask := mode &&& 0o777 }
      return 0
    | some r =>
      let mode := r.apply 0 .file (0o777 - s.mask)
      modify fun s => { s with mask := 0o777 - (mode &&& 0o777) }
      return 0
    | none =>
      if arg.head?.any Char.isDigit then Course.fail ("Illegal number: " ++ arg.shown)
      else Course.fail ("Illegal mode: " ++ arg.shown)

end AgentPulse.Shell.Builtin
