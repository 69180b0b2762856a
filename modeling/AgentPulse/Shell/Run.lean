import AgentPulse.Shell.Builtin.Table
import AgentPulse.Shell.Outcome
import AgentPulse.Shell.Plan
import AgentPulse.Shell.Process
import AgentPulse.Shell.Program.Table

/-!
# Running commands

`runCommand` carries out a script and says what it wrote and how it ended. The functions take fuel,
which a script uses up by nesting and by repeating.

Only one process is carried out at a time. The stages of a pipeline come one after the other, and a
command in the background waits until somebody waits for it, or until the time has come at which it
would have ended.
-/

namespace AgentPulse.Shell

/-- In what circumstances a command is carried out. -/
structure Manner where
  /-- Whether something depends on how it ends. -/
  isTested : Bool := false
  /-- Whether the shell is at its end after it. -/
  isLast : Bool := false

namespace Course

/-- End the shell after a failure on which nothing depends, if that is asked for. -/
def checked (m : Manner) : Course Unit := do
  let s ← get
  if s.hasOption 'e' && !m.isTested && s.status != 0 then throw (.exit s.status)

/-- The process is killed if the time has come for that. -/
def checkDeath : Course Unit := do
  let s ← get
  match s.death with
  | some (time, signal) => if time ≤ s.tree.now then throw (.killed signal)
  | none => pure ()

/-- Go on after a process has come to its end. A shell that is at its end too ends the same way. -/
def conclude (m : Manner) (e : Ending) : Course Unit := do
  checkDeath
  if m.isLast && !(← get).hasTraps then throw e.flow
  else
    Act.mourn e
    finish e.status

/-- The shell cannot go on for lack of fuel. -/
def exhausted {α : Type} : Course α := throw (.killed 11)

end Course

/-- How deep functions may be inside others. -/
def maxCalls : Nat := 1000

mutual
/-- What commands write, without the line breaks at its end. -/
def outputOf (fuel : Nat) (c : Command) : Course Raw :=
  match fuel, c with
  | 0, _ => Course.exhausted
  | _, .nothing => return []
  | fuel + 1, c => do
    let before := (← get).processes
    let n ← Act.newChannel (.pipe {})
    let e ← inside fuel { isLast := true } c fun s => s.connect 1 n
    settle fuel before none (fun _ => false)
    let text := (← get).pipeContent n
    modify fun s => (s.setChannel n .null : State)
    Course.checkDeath
    Act.mourn e
    modify fun s => { s with innerStatus := e.status }
    let text := text.filter (· != '\x00')
    return (text.reverse.dropWhile (· == '\n')).reverse

/-- Carry out a command in a shell inside this one. -/
def inside (fuel : Nat) (m : Manner) (c : Command) (change : State → State) : Act Ending :=
  match fuel with
  | 0 => return .killed 11
  | fuel + 1 => Act.apart (fun s => change s.inner) (toEnd fuel (run fuel m c))

/-- Carry out a shell to its end, with what is to be done then. -/
def toEnd (fuel : Nat) (body : Course Unit) : Act Ending :=
  match fuel with
  | 0 => return .killed 11
  | fuel + 1 => do
    let r ← body.run
    match r with
    | .error (.killed n) => return .killed n
    | r =>
      match r with
      | .error (.exit n) => modify fun s => { s with status := n }
      | _ => pure ()
      let s ← get
      match s.trap? 0 with
      | none => return .exit (s.status % 256)
      | some action =>
        set ({ s with statusBefore := some s.status }.setTrap 0 none : State)
        let r ← (runText fuel {} { rest := action } 0).run
        match r with
        | .error (.killed n) => return .killed n
        | .error (.exit n) => return .exit (n % 256)
        | .error .failed => return .exit misuse
        | _ => return .exit (s.status % 256)

/-- Do what is to be done about the signals that have arrived. -/
def heed (fuel : Nat) : Course Unit :=
  match fuel with
  | 0 => Course.exhausted
  | fuel + 1 => do
    let s ← get
    match s.signals.min? with
    | none => return
    | some n =>
      if s.isInner then return
      else
        set { s with signals := s.signals.filter (· != n) }
        match s.trap? n with
        | none => if !Signal.isHarmless n then throw (.killed n)
        | some action =>
          let status := s.statusBefore.getD s.status
          if !action.isEmpty then
            modify fun s => { s with statusBefore := some status }
            let r ← Course.attempt (runText fuel {} { rest := action } 0)
            modify fun t => { t with statusBefore := s.statusBefore }
            match r with
            | .error .back => throw .back
            | .error (.exit n) => throw (.exit n)
            | .error f =>
              Course.finish status
              throw f
            | .ok _ => Course.finish status
        heed fuel

/-- Carry out the commands in the background with a number above a given one until enough is done,
the one that ends first before the others, and none that ends after the given time. -/
def settle (fuel : Nat) (above : Nat) (limit : Option Nat) (isEnough : State → Bool) : Act Unit :=
  match fuel with
  | 0 => return
  | fuel + 1 => do
    let s ← get
    let tasks := s.tasks.filter fun (t : Task) => above < t.number
    if tasks.isEmpty || isEnough s then return
    else
      let ends := tasks.map fun t => ((runTask fuel t).run s).2
      let time (s : State) : Nat := s.looked
      match ends.foldl (fun (best : Option State) (e : State) =>
          match best with
          | none => some e
          | some b => if time e < time b then some e else some b) none with
      | none => return
      | some e =>
        if limit.all fun l => time e ≤ l then
          set { e with looked := s.looked }
          settle fuel above limit isEnough

/-- Carry out a command in the background. The time at which it ends is left as the one up to which
the others have been looked after. -/
def runTask (fuel : Nat) (t : Task) : Act Unit :=
  match fuel with
  | 0 => return
  | fuel + 1 => do
    let before ← get
    let tasks := before.tasks.filter fun (other : Task) => other.number != t.number
    set { before with
      toInterpreter := t.shell
      tasks
      tree := { before.tree with now := t.start }
      death := t.death
      looked := t.start }
    let e ← toEnd fuel (run fuel { isLast := true } t.body)
    modify fun s => { s with
      toInterpreter := before.toInterpreter
      tree := { s.tree with now := max before.tree.now s.tree.now }
      death := before.death
      signals := before.signals ++ s.signals.filter fun n => !before.signals.contains n
      looked := s.tree.now
      ended := (t.number, e) :: s.ended }

/-- Carry out the commands in the background that would have ended by now. -/
def catchUp (fuel : Nat) : Course Unit :=
  match fuel with
  | 0 => Course.exhausted
  | fuel + 1 => do
    Course.checkDeath
    let s ← get
    if !s.tasks.isEmpty && s.looked < s.tree.now then
      settle fuel 0 (some s.tree.now) fun _ => false
      modify fun t => { t with looked := s.tree.now }

/-- Carry out a command. -/
def run (fuel : Nat) (m : Manner) (c : Command) : Course Unit :=
  match fuel with
  | 0 => Course.exhausted
  | fuel + 1 => do
    if (← get).hasOption 'n' then return
    heed fuel
    runKind fuel m c
    catchUp fuel
    heed fuel

/-- Carry out a command of whatever kind. -/
def runKind (fuel : Nat) (m : Manner) (c : Command) : Course Unit :=
  match fuel with
  | 0 => Course.exhausted
  | fuel + 1 =>
    let output := outputOf fuel
    match c with
    | .nothing => return
    | .simple line assignments words redirects => do
      runSimple fuel m line assignments words redirects
      Course.checked m
    | .subshell line body redirects => do
      modify fun s => { s with line }
      let cs ← redirects.mapM (connectionFor output fuel)
      let isSame := m.isLast && !(← get).hasTraps
      let change (s : State) : State := if isSame then s else s.inner
      let work : Course Unit := do
        if ← connectAll output fuel cs then run fuel { m with isLast := true } body
        else throw .failed
      let e ← (Act.apart change (toEnd fuel work) : Act Ending)
      Course.conclude m e
      Course.checked m
    | .redirected line body redirects => do
      modify fun s => { s with line }
      let cs ← redirects.mapM (connectionFor output fuel)
      let before := (← get).descriptors
      Course.followed (do
        if ← connectAll output fuel cs then run fuel { m with isLast := false } body
        else Course.finish misuse)
        (modify fun s => { s with descriptors := before })
    | .branch condition whenTrue whenFalse => do
      run fuel { isTested := true } condition
      if (← get).status = 0 then run fuel m whenTrue
      else match whenFalse with
        | .nothing => Course.finish 0
        | c => run fuel m c
    | .repeats onSuccess condition body => do
      let status ← inLoop do
        repeatBody fuel { m with isLast := false } onSuccess condition body 0
      Course.finish status
    | .forEach line name words body => do
      modify fun s => { s with line }
      let values ← words.mapM (fieldsFor output fuel)
      Course.finish 0
      inLoop do forValues fuel { m with isLast := false } name values.flatten body
    | .select line subject arms => do
      modify fun s => { s with line }
      let text ← textFor output fuel subject
      runArm fuel m text arms
    | .define name body => do
      modify fun s => { s with functions := s.functions.insert (String.ofList name) body }
      Course.finish 0
    | .pipeline stages => do
      runPipeline fuel m stages rooms
      Course.checked m
    | .negation body => do
      let r ← Course.attempt (run fuel { isTested := true } body)
      let inverted : Course Unit :=
        modify fun s => { s with status := if s.status = 0 then 1 else 0 }
      match r with
      | .ok () => inverted
      | .error f =>
        if f matches .leave _ | .again _ | .back then inverted
        throw f
    | .andThen first second => do
      run fuel { isTested := true } first
      if (← get).status = 0 then run fuel m second
    | .orElse first second => do
      run fuel { isTested := true } first
      if (← get).status ≠ 0 then run fuel m second
    | .sequence first second => do
      run fuel { m with isLast := false } first
      run fuel m second
    | .background line body => do
      modify fun s => { s with line }
      let input ← Act.newChannel .null
      modify fun s => s.putBehind body input
      Course.finish 0

/-- Repeat a body while a condition keeps its outcome: how the body ended in the end. -/
def repeatBody (fuel : Nat) (m : Manner) (onSuccess : Bool) (condition body : Command)
    (status : Nat) : Course Nat :=
  match fuel with
  | 0 => Course.exhausted
  | fuel + 1 => do
    match ← Course.attempt (run fuel { isTested := true } condition) with
    | .ok () =>
      if ((← get).status = 0) ≠ onSuccess then return status
      else
        let r ← Course.attempt (run fuel m body)
        let status := (← get).status
        match r with
        | .ok () | .error (.again 1) => repeatBody fuel m onSuccess condition body status
        | .error f => Flow.outward status f
    | .error (.again 1) => repeatBody fuel m onSuccess condition body status
    | .error f => Flow.outward status f

/-- Carry out a body for each of some values of a variable. -/
def forValues (fuel : Nat) (m : Manner) (name : Raw) (values : List Raw) (body : Command) :
    Course Unit :=
  match fuel, values with
  | 0, _ => Course.exhausted
  | _, [] => return
  | fuel + 1, v :: rest => do
    Course.assign name v
    match ← Course.attempt (run fuel m body) with
    | .ok () | .error (.again 1) => forValues fuel m name rest body
    | .error f =>
      let _ ← Flow.outward (← get).status f

/-- Carry out the first arm of which a pattern stands for a text. -/
def runArm (fuel : Nat) (m : Manner) (text : Raw) (arms : List (List Word × Command)) :
    Course Unit :=
  match fuel, arms with
  | 0, _ => Course.exhausted
  | _, [] => Course.finish 0
  | fuel + 1, (patterns, body) :: rest => do
    if ← standsForAny fuel text patterns then
      match body with
      | .nothing => Course.finish 0
      | body => run fuel m body
    else runArm fuel m text rest

/-- Whether one of some patterns stands for a text. -/
def standsForAny (fuel : Nat) (text : Raw) (patterns : List Word) : Course Bool :=
  match fuel, patterns with
  | 0, _ => Course.exhausted
  | _, [] => return false
  | fuel + 1, w :: rest => do
    let p ← patternFor (outputOf fuel) fuel w
    if p.standsFor text then return true else standsForAny fuel text rest

/-- Carry out a pipeline. Where a reader would have read more than a pipe had room for, all is done
again with more room. -/
def runPipeline (fuel : Nat) (m : Manner) (stages : List Command) (rooms : List Nat) :
    Course Unit :=
  match fuel, rooms with
  | 0, _ => Course.exhausted
  | _, [] => return
  | fuel + 1, room :: more => do
    let start ← get
    let (ends, isShort) ← runStages fuel m room none stages
    if isShort && !more.isEmpty then
      set start
      runPipeline fuel m stages more
    else
      Course.checkDeath
      ends.forM fun e => Act.mourn e
      Course.finish ((ends.getLast?.map Ending.status).getD 0)

/-- Carry out the stages of a pipeline: how they ended, and whether a reader would have read more
than there was room for. -/
def runStages (fuel : Nat) (m : Manner) (room : Nat) (input : Option Nat)
    (stages : List Command) : Act (List Ending × Bool) :=
  match fuel, stages with
  | 0, _ => return ([], false)
  | _, [] => return ([], false)
  | fuel + 1, c :: rest => do
    let before := (← get).processes
    let next ← if rest.isEmpty then pure none
      else some <$> Act.newChannel (.pipe { room := some room })
    let e ← inside fuel { m with isLast := true } c fun s =>
      let s := (input.map (s.connect 0)).getD s
      (next.map (s.connect 1)).getD s
    if next.isSome then settle fuel before none (fun _ => false)
    let s ← get
    -- A stage whose own output was cut would not have come to reading more.
    let isShort := input.any s.isShortAt && !next.any s.isCutAt
    match input with
    | some n => modify fun s => (s.setChannel n .null : State)
    | none => pure ()
    let (ends, areShort) ← runStages fuel m (room / 2) next rest
    return (e :: ends, isShort || areShort)

/-- Carry out a simple command. -/
def runSimple (fuel : Nat) (m : Manner) (line : Nat) (assignments : List (Raw × Word))
    (words : List Word) (redirects : List Redirect) : Course Unit :=
  match fuel with
  | 0 => Course.exhausted
  | fuel + 1 => do
    let output := outputOf fuel
    modify fun s => { s with line, innerStatus := 0 }
    let p ← Plan.ofWords output fuel words
    let cs ← redirects.mapM (connectionFor output fuel)
    let before ← get
    let isLocal := !p.isSpecial && !p.args.isEmpty
    if isLocal then modify fun s => { s with kept := [] :: s.kept }
    let r ← Course.attempt do
      if ← connectAll output fuel cs then
        let values ← assignments.mapM (assignFor output fuel p isLocal)
        showTrace before values p.args
        perform fuel m p
      else
        Course.finish misuse
        if p.isSpecial then throw .failed
    let isExec := p.deed matches .builtin "exec"
    if !(isExec && r matches .ok ()) then
      modify fun s => { s with descriptors := before.descriptors }
    match r with
    | .ok () => if isLocal then Builtin.putBack
    | .error f =>
      if isLocal && !f.isFinal then Builtin.putBack
      throw f

/-- Carry out what a plan says. -/
def perform (fuel : Nat) (m : Manner) (p : Plan) : Course Unit :=
  match fuel with
  | 0 => Course.exhausted
  | fuel + 1 => do
    let s ← get
    match p.deed, p.args with
    | .nothing, _ | _, [] => Course.finish s.innerStatus
    | .builtin name, _ :: args => asBuiltin p.isSpecial name (runBuiltin fuel m p name args)
    | .function body, _ :: args => callFunction fuel m body args
    | .program, name :: _ =>
      let found := if name.contains '/' then .ok name
        else Builtin.programPath s name (p.folders s)
      match found with
      | .error f =>
        Act.complain (name.shown ++ ": " ++ Builtin.whyNot f)
        Course.finish 127
      | .ok _ =>
        if !name.contains '/' then modify fun s => s.remember name
        let isSame := m.isLast && !s.hasTraps
        let change (s : State) : State := if isSame then s else s.inner
        let (_, e) ← (Act.apart change (launch fuel (p.folders s) p.args) : Act (Bool × Ending))
        Course.conclude m e

/-- Carry out a function. -/
def callFunction (fuel : Nat) (m : Manner) (body : Command) (args : List Raw) : Course Unit :=
  match fuel with
  | 0 => Course.exhausted
  | fuel + 1 => do
    let outer ← get
    if maxCalls ≤ outer.calls then Course.exhausted
    set { outer with
      parameters := args, loops := 0, optionIndex := 1, optionOffset := none
      calls := outer.calls + 1 }
    let r ← Course.attempt (run fuel { m with isLast := false } body)
    modify fun s => { s with
      parameters := outer.parameters, loops := outer.loops
      optionIndex := outer.optionIndex, optionOffset := outer.optionOffset
      calls := outer.calls }
    match r with
    | .ok () => return
    | .error f => if f.isFinal then throw f

/-- Carry out a builtin. -/
def runBuiltin (fuel : Nat) (m : Manner) (p : Plan) (name : String) (args : List Raw) :
    Course Nat :=
  match fuel with
  | 0 => Course.exhausted
  | fuel + 1 => do
    match name with
    | "eval" =>
      let text := List.intercalate [' '] args
      runText fuel { isTested := m.isTested } { rest := text } 0
    | "." =>
      let (_, args) ← Course.options [] args
      match args with
      | [] => return 0
      | path :: _ =>
        let text ← readScript path
        match ← Course.attempt (runText fuel {} { rest := text } 0) with
        | .ok status => return status
        | .error .back => return (← get).status
        | .error f => throw f
    | "exec" =>
      let (_, args) ← Course.options [] args
      if args.isEmpty then return 0
      else
        let folders := p.folders (← get)
        let (isStarted, e) ← (Act.apart id (launch fuel folders args) : Act (Bool × Ending))
        if isStarted then modify fun s => { s with traps := [] }
        throw e.flow
    | "wait" =>
      let (_, args) ← Course.options [] args
      if args.isEmpty then
        settle fuel 0 none fun s => s.tasks.all fun (t : Task) => !s.jobs.contains t.number
        return 0
      else awaitAll fuel 0 args
    | "command" =>
      let known := [('p', false), ('v', false), ('V', false)]
      let (options, args) ← Course.options known args
      let isLong := hasLetter options 'V'
      match args with
      | name :: _ =>
        if isLong || hasLetter options 'v' then
          let s ← get
          let isUsual := hasLetter options 'p'
          Builtin.describe name isLong
            (if isUsual then Builtin.colonParts System.searchPath else Builtin.searchFolders s)
        else return 0
      | [] => return 0
    | name =>
      match Builtin.ofName? name with
      | some b => b args
      | none => return 0

/-- Wait for commands in the background: how the last of them ended. -/
def awaitAll (fuel : Nat) (status : Nat) (args : List Raw) : Course Nat :=
  match fuel, args with
  | 0, _ => Course.exhausted
  | _, [] => return status
  | fuel + 1, arg :: rest => do
    let number ← Builtin.processOf arg
    let s ← get
    if !s.jobs.contains number then awaitAll fuel 127 rest
    else
      settle fuel 0 none fun s => s.tasks.all fun (t : Task) => t.number != number
      let e := ((← get).ended.lookup number).getD (.exit 127)
      Act.mourn e
      awaitAll fuel e.status rest

/-- Start a program in the place of the shell: whether it could be started, and how it ended. -/
def launch (fuel : Nat) (folders : List Raw) (args : List Raw) : Act (Bool × Ending) :=
  match fuel with
  | 0 => return (false, .killed 11)
  | fuel + 1 => do
    match ← start fuel folders args with
    | .ok e => return (true, e)
    | .error f =>
      Act.complain ((args.headD []).shown ++ ": " ++ Builtin.whyNot f)
      return (false, .exit (if isAbsence f then 127 else 126))

/-- Start the program that the first of some arguments names. -/
def start (fuel : Nat) (folders : List Raw) (args : List Raw) : Act (Except Files.Fault Ending) :=
  match fuel with
  | 0 => return .error .missing
  | fuel + 1 => do
    let name := args.headD []
    if name.contains '/' then execute fuel name args
    else startIn fuel name args .missing folders

/-- Start the program of a name in the first of some folders where that can be done. -/
def startIn (fuel : Nat) (name : Raw) (args : List Raw) (fault : Files.Fault)
    (folders : List Raw) : Act (Except Files.Fault Ending) :=
  match fuel, folders with
  | 0, _ => return .error .missing
  | _, [] => return .error fault
  | fuel + 1, folder :: rest => do
    let path := if folder.isEmpty then name else folder ++ '/' :: name
    match ← execute fuel path args with
    | .ok e => return .ok e
    | .error .missing | .error .notAFolder => startIn fuel name args fault rest
    | .error f => startIn fuel name args f rest

/-- Execute a file: a program of the system, or a script. -/
def execute (fuel : Nat) (path : Raw) (args : List Raw) : Act (Except Files.Fault Ending) :=
  match fuel with
  | 0 => return .error .tooManyLinks
  | fuel + 1 => do
    match executable (← get) path with
    | .error f => return .error f
    | .ok (.program name) => return .ok (← runProgram fuel name args)
    | .ok (.interpreted interpreter given) =>
      execute fuel interpreter (interpreter :: given ++ path :: args.drop 1)
    | .ok (.script text) =>
      return .ok (← runShell fuel (.script path text) path (args.drop 1) [])

/-- Carry out a program of the system. -/
def runProgram (fuel : Nat) (name : String) (args : List Raw) : Act Ending :=
  match fuel with
  | 0 => return .killed 11
  | fuel + 1 => do
    let own := args.headD []
    match name with
    | "sh" | "dash" =>
      match ← invocation own (args.drop 1) with
      | .error status => return .exit status
      | .ok i => runShell fuel i.work i.name i.parameters i.options
    | name =>
      let e ← match Program.ofName? name with
        | some (.plain work) => do
          let status ← work (args.drop 1)
          pure (Ending.exit status)
        | some (.starting work) =>
          work (fun args => do
            let s ← get
            let path := (s.valueOf? (raw "PATH")).getD System.searchPath
            let folders := Builtin.colonParts path
            Act.apart id (start fuel folders args)) (args.drop 1)
        | none => pure (.exit 0)
      match ← Act.takeUnwritten with
      | none => return e
      | some .noReader => return .killed Signal.brokenPipe
      | some .refused =>
        let isOpen := ((← get).channelNumber? 1).isSome
        let why := if isOpen then "No space left on device" else Files.Fault.badDescriptor.words
        Act.say (name ++ ": write error: " ++ why)
        return .exit 1

/-- Carry out a shell of its own. -/
def runShell (fuel : Nat) (work : Work) (name : Raw) (parameters : List Raw)
    (options : List Char) : Act Ending :=
  match fuel with
  | 0 => return .killed 11
  | fuel + 1 => do
    let outer ← get
    modify fun s =>
      { s with toInterpreter := s.fresh name parameters options, signals := [] }
    let e ← toEnd fuel do
      modify fun s => { s with line := 0 }
      Builtin.dropGroups
      modify fun s => { s with line := 1 }
      match work with
      | .command text => let _ ← runText fuel { isLast := true } { rest := text } 0
      | .script _ text => let _ ← runText fuel {} { rest := text } 0
      | .input =>
        match ← Act.readAll 0 with
        | .ok text => let _ ← runText fuel {} { rest := text } 0
        | .error _ => return
    modify fun s => { s with signals := outer.signals }
    return e

/-- Carry out a script line by line: how its last command ended. A line that cannot be read ends the
shell. -/
def runText (fuel : Nat) (m : Manner) (source : Source) (status : Nat) : Course Nat :=
  match fuel with
  | 0 => Course.exhausted
  | fuel + 1 => do
    let s ← get
    match readLine { source with aliases := s.aliases, texts := s.texts } with
    | .error e =>
      set { s with line := e.line }
      Course.fail e.message
    | .ok l =>
      modify fun s => { s with texts := l.rest.texts }
      let isOver := l.isEnd || l.rest.rest.isEmpty
      let status ← match l.command with
        | .nothing => pure status
        | c => do
          run fuel { m with isLast := m.isLast && l.isEnd } c
          pure (← get).status
      if isOver then return status else runText fuel m l.rest status
end

/-- More than a script needs. -/
def fuelOfRun : Nat := 1 <<< 40

/-- Run a command in a folder: what it writes, how it ends, and the files afterwards. -/
def runCommand (t : Files.Tree) (here : Files.Place) (command : Bytes) : Outcome :=
  let text := Raw.ofBytes command
  let body : Act Ending := do
    let e ← toEnd fuelOfRun do
      let _ ← runText fuelOfRun { isLast := true } { rest := text } 0
    settle fuelOfRun 0 none fun _ => false
    return e
  let (ending, s) := body.run (State.start t here)
  { output := (s.pipeContent 0).toBytes
    errors := (s.pipeContent 1).toBytes
    ending
    tree := s.tree }

end AgentPulse.Shell
