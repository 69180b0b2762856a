import AgentPulse.Shell.Builtin.Names
import AgentPulse.Shell.Builtin.Signals
import AgentPulse.Shell.Plan
import AgentPulse.Shell.Program.Basic

/-!
# Processes

What a process starts with: the state of a shell inside another, of a shell of its own, and of the
first shell of all; and what a file is to the one who executes it.
-/

namespace AgentPulse.Shell

namespace State

/-- Whether anything is to be done when signals arrive, or at the end. -/
def hasTraps (s : State) : Bool := s.traps.any fun t => !t.2.isEmpty

/-- The same state in a shell inside. What is to be done on signals is not done there, and it has
nothing in the background. -/
def inner (s : State) : State :=
  { s with isInner := true, traps := s.traps.filter fun t => t.2.isEmpty, jobs := [] }

/-- Put a command into the background. It reads from the given channel. -/
def putBehind (s : State) (body : Command) (input : Nat) : State :=
  let number := s.processes + 1
  let task : Task :=
    { number, shell := (s.inner.connect 0 input).toInterpreter, body, start := s.tree.now }
  { s with
    processes := number
    tasks := s.tasks ++ [task]
    jobs := number :: s.jobs
    lastJob := some number }

/-- Remember that a program has been found. -/
def remember (s : State) (name : Raw) : State :=
  if s.found.contains name then s else { s with found := name :: s.found }

/-- Whether a pipe had no room for something. -/
def isCutAt (s : State) (number : Nat) : Bool :=
  match s.channels[number]? with
  | some (.pipe p) => p.isCut
  | _ => false

/-- Whether the reader of a pipe asked for more than it got. -/
def isShortAt (s : State) (number : Nat) : Bool :=
  match s.channels[number]? with
  | some (.pipe p) => p.isShort
  | _ => false

/-- The variables of a shell that has just started: those that programs get to see, and its own. One
of those is the number of the process that started it. -/
def firstValues (environment : List (Raw × Raw)) (route : Raw) (parent : Nat) : Dict Variable :=
  let own : List (String × Raw) :=
    [("PATH", System.searchPath), ("PS1", raw "# "), ("PS2", raw "> "), ("PS4", raw "+ ")]
  let put (d : Dict Variable) (name : String) (value : Raw) (isExported : Bool) : Dict Variable :=
    d.insert name { value := some value, isExported }
  let d := own.foldl (fun d e => put d e.1 e.2 false) Dict.empty
  let d := environment.foldl (fun d e => put d (String.ofList e.1) e.2 true) d
  let d := put d "IFS" usualSeparators false
  let d := put d "OPTIND" ['1'] false
  let d := put d "PPID" (Text.Decimal.digits parent) false
  put d "PWD" route true

/-- A shell that starts in this state as a process of its own. -/
def fresh (s : State) (name : Raw) (parameters : List Raw) (options : List Char) : Interpreter :=
  { folder := s.folder
    route := s.route
    values := firstValues (s.environment.filter fun e => isName e.1) s.route s.number
    descriptors := s.descriptors
    name
    parameters
    number := s.processes
    traps := s.traps.filter fun t => t.2.isEmpty
    options
    mask := s.mask
    calls := s.calls + 1 }

/-- The number that the first shell goes by. -/
def firstNumber : Nat := 4000

/-- The state that a first shell starts in: nothing to read, and two pipes to write to. -/
def start (t : Files.Tree) (here : Files.Place) : State :=
  let route := Builtin.pathOf here
  let environment := [(raw "HOME", System.home), (raw "PATH", System.searchPath)]
  { tree := t
    channels := #[.pipe {}, .pipe {}, .null]
    processes := firstNumber
    folder := here
    route
    values := firstValues environment route (firstNumber - 1)
    descriptors := [(0, 2), (1, 0), (2, 1)]
    number := firstNumber
    looked := t.now }

end State

/-! ## Courses -/

/-- How a shell goes on that ends as a process did. -/
def Ending.flow : Ending → Flow
  | .exit n => .exit n
  | .killed n => .killed n

/-- Whether the shell ends that way. -/
def Flow.isFinal : Flow → Bool
  | .exit _ | .failed | .killed _ => true
  | .leave _ | .again _ | .back => false

/-- How it goes on outside of a loop that is left. -/
def Flow.outward (status : Nat) (f : Flow) : Course Nat := do
  match f with
  | .leave n =>
    Course.finish status
    if n ≤ 1 then return status else throw (.leave (n - 1))
  | .again n =>
    Course.finish status
    throw (.again (n - 1))
  | f => throw f

/-- Do something as part of a loop. -/
def inLoop {α : Type} (body : Course α) : Course α := do
  modify fun s => { s with loops := s.loops + 1 }
  Course.followed body (modify fun s => { s with loops := s.loops - 1 })

/-- Do an assignment in front of a command, and give it as text. One that is not to stay is undone
later. -/
def assignFor (output : OutputOf) (fuel : Nat) (p : Plan) (isLocal : Bool) (a : Raw × Word) :
    Course Raw := do
  let value ← valueFor output fuel a.2
  if isLocal then Builtin.keepValue a.1
  Course.assign a.1 value
  let isExec := p.deed matches .builtin "exec"
  if isLocal || (isExec && 1 < p.args.length) then
    modify fun s =>
      s.putVariable a.1 ((s.varOf? a.1).map fun v => { v with isExported := true })
  return a.1 ++ '=' :: value

/-- Show a command before it is carried out, if that is asked for, where errors went before its
redirections. -/
def showTrace (before : State) (assignments args : List Raw) : Act Unit := do
  let s ← get
  if s.hasOption 'x' then
    let lead := (s.valueOf? (raw "PS4")).getD []
    let text := lead ++ List.intercalate [' '] (assignments ++ args) ++ ['\n']
    match before.channelNumber? 2 with
    | some n => Act.writeTo n text
    | none => return

/-- Carry out a builtin under its name: it may fail without an end to the shell, unless it is a
special one. -/
def asBuiltin (isSpecial : Bool) (name : String) (work : Course Nat) : Course Unit := do
  let outer := (← get).command
  modify fun s => { s with command := some name.toList }
  let r ← Course.attempt work
  let unwritten ← Act.takeUnwritten
  let wasRefused := unwritten = some .refused
  if wasRefused then Act.complain (name ++ ": I/O error")
  modify fun s => { s with command := outer }
  if unwritten = some .noReader then throw (.killed Signal.brokenPipe)
  match r with
  | .ok n => Course.finish (if wasRefused then n ||| 1 else n)
  | .error .failed => if isSpecial then throw .failed
  | .error f => throw f

/-- The script at a path, or in one of the folders that programs are looked up in. Complaints name
its path from then on. -/
def readScript (path : Raw) : Course Raw := do
  let s ← get
  let found := if path.contains '/' then some path
    else (Builtin.searchFolders s).findSome? fun folder =>
      let path := if folder.isEmpty then path else folder ++ '/' :: path
      match Files.entryAt s.tree s.folder path.toBytes with
      | .ok (_, .file _) => some path
      | _ => none
  match found with
  | none => Course.fail (path.shown ++ ": not found")
  | some path =>
    let n ← openFor .readFrom path
    modify fun s => { s with command := some path }
    match ← Act.lookAt n with
    | .ok text => return text
    | .error _ => return []

/-! ## Executing files -/

/-- Whether there is nothing that could be executed, rather than something that may not be. -/
def isAbsence (f : Files.Fault) : Bool :=
  f matches .missing | .notAFolder | .tooManyLinks | .nameTooLong

/-- What a file is to the one who executes it. -/
inductive Executable where
  /-- A program of the system. -/
  | program (name : String)
  /-- Text for a program, and the argument that the program gets first. -/
  | interpreted (interpreter : Raw) (given : List Raw)
  /-- Text for the shell. -/
  | script (text : Raw)

/-- What is at a path to the one who executes it. The first line may name a program. -/
def executable (s : State) (path : Raw) : Except Files.Fault Executable := do
  match ← Files.entryAt s.tree s.folder path.toBytes with
  | (_, .file id) =>
    let f := s.tree.file id
    if f.mode &&& 0o111 = 0 then .error .noAccess
    match System.programIn? f.content with
    | some name => return .program name
    | none =>
      let text := Raw.ofBytes f.content
      match text with
      | '#' :: '!' :: rest =>
        let isBlank (c : Char) : Bool := c == ' ' || c == '\t'
        let line := (rest.takeWhile (· != '\n')).dropWhile isBlank
        let name := line.takeWhile fun c => !isBlank c
        let given := ((line.drop name.length).dropWhile isBlank).reverse.dropWhile isBlank
        if name.isEmpty then return .script text
        else return .interpreted name (if given.isEmpty then [] else [given.reverse])
      | text => return .script text
  | _ => .error .noAccess

/-! ## Shells as programs -/

/-- Where a shell gets its commands from. -/
inductive Work where
  | command (text : Raw)
  | script (path text : Raw)
  | input

/-- How a shell is started. -/
structure Invocation where
  work : Work
  name : Raw
  parameters : List Raw
  options : List Char

/-- Read the options that a shell is started with: whether a command is given, the letters that are
switched on, and the other arguments. -/
def readInvocation (isCommand : Bool) (on : List Char) :
    List Raw → Except String (Bool × List Char × List Raw)
  | ['-', '-'] :: rest | ['-'] :: rest => .ok (isCommand, on, rest)
  | (sign :: c :: cs) :: rest => do
    if sign ≠ '-' ∧ sign ≠ '+' then return (isCommand, on, (sign :: c :: cs) :: rest)
    let letters := c :: cs
    let known := letters.filter fun c => c != 'c' && c != 'o' && c != 'l'
    match known.find? fun c => !Builtin.optionNames.any fun o => o.2 == c with
    | some c => .error ("Illegal option -" ++ String.singleton c)
    | none =>
      let on := if sign = '-' then known ++ on else on.filter fun c => !known.contains c
      let isCommand := isCommand || letters.contains 'c'
      match letters.contains 'o', rest with
      | true, name :: rest =>
        match Builtin.optionNames.lookup (String.ofList name) with
        | none => .error ("Illegal option -o " ++ name.shown)
        | some c =>
          readInvocation isCommand (if sign = '-' then c :: on else on.filter (· != c)) rest
      | _, rest => readInvocation isCommand on rest
  | rest => .ok (isCommand, on, rest)

/-- How a shell is started by its arguments, or the number that it ends with at once. -/
def invocation (own : Raw) (args : List Raw) : Act (Except Nat Invocation) := do
  let refused (message : String) : Act (Except Nat Invocation) := do
    Act.say (own.shown ++ ": 0: " ++ message)
    return .error misuse
  match readInvocation false [] args with
  | .error message => refused message
  | .ok (true, _, []) => refused "-c requires an argument"
  | .ok (true, options, text :: rest) =>
    return .ok { work := .command text, name := rest.headD own, parameters := rest.drop 1, options }
  | .ok (false, options, rest) =>
    if rest.isEmpty || options.contains 's' then
      return .ok { work := .input, name := own, parameters := rest, options }
    else
      let path := rest.headD []
      match ← Act.openToRead path with
      | .error f => refused ("cannot open " ++ path.shown ++ ": " ++ whyNotOpen false f)
      | .ok n =>
        let text := match ← Act.lookAt n with
          | .ok text => text
          | .error _ => []
        return .ok { work := .script path text, name := path, parameters := rest.drop 1, options }

/-- How much a pipe has room for. -/
def rooms : List Nat := [1 <<< 16, 1 <<< 20, 1 <<< 22]

end AgentPulse.Shell
