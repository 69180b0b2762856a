import AgentPulse.Shell.Builtin.Variables
import AgentPulse.Shell.Signal

/-!
# Commands in the background

What a shell has in the background goes by numbers of its own, which count from one. The command
that was put there last is the current one.
-/

namespace AgentPulse.Shell.Builtin

/-- What stands behind the percent sign with which a command in the background is given. -/
inductive JobName where
  | current
  | previous
  | number (n : Nat)
  | text (cs : Raw)

/-- What is meant by what stands behind the percent sign. -/
def JobName.ofText (cs : Raw) : JobName :=
  match cs with
  | [] | ['%'] | ['+'] => .current
  | ['-'] => .previous
  | cs => if cs.all Char.isDigit then .number (Text.Decimal.value cs) else .text cs

/-- The number of the process that a command in the background is, or why there is none. No text
stands for one: the shell does not keep what the commands were. -/
def JobName.process (s : State) : JobName → Except String Nat
  | .current => s.jobs.head?.elim (.error "No current job") .ok
  | .previous => s.jobs[1]?.elim (.error "No previous job") .ok
  | .number n =>
    let found := if n = 0 then none else s.jobs.reverse[n - 1]?
    found.elim (.error ("No such job: %" ++ Text.Decimal.ofNat n)) .ok
  | .text cs => .error ("No such job: %" ++ cs.shown)

/-- The number of a process that is given as such or as a command in the background. -/
def processOf (arg : Raw) : Course Nat := do
  match arg with
  | '%' :: job =>
    match (JobName.ofText job).process (← get) with
    | .ok n => return n
    | .error message => Course.fail message
  | arg => Course.count arg

/-- How a command in the background is doing, in words. -/
def stateOf (s : State) (process : Nat) : String :=
  match s.ended.lookup process with
  | none => "Running"
  | some (.exit 0) => "Done"
  | some (.exit n) => "Done(" ++ Text.Decimal.ofNat n ++ ")"
  | some (.killed n) =>
    (Signal.epitaph? n).getD (if n = Signal.brokenPipe then "Broken pipe" else "Interrupt")

/-- The column that the words for a command in the background would stand in, behind how it is
doing. -/
def jobColumn : Nat := 33

/-- A line about a command in the background, perhaps with the number of its process. -/
def jobLine (s : State) (hasProcess : Bool) (process : Nat) : Raw :=
  let place := s.jobs.reverse.findIdx (· == process) + 1
  let sign := if s.jobs.head? = some process then '+'
    else if s.jobs[1]? = some process then '-' else ' '
  let lead := '[' :: Text.Decimal.digits place ++ [']', ' ', sign, ' ']
  let lead := if hasProcess then lead ++ Text.Decimal.digits process ++ [' '] else lead
  let line := lead ++ (stateOf s process).toList
  line ++ List.replicate (max 1 (jobColumn - line.length)) ' '

/-- Show what is in the background. What has ended is gone after that. -/
def showJobs : Builtin := fun args => do
  let (options, args) ← Course.options [('l', false), ('p', false)] args
  let last := options.getLast?.map (·.1)
  let put (process : Nat) : Course Unit := do
    let s ← get
    if last = some 'p' then Act.outLine (Text.Decimal.digits process)
    else Act.outLine (jobLine s (last = some 'l') process)
  let wanted ← if args.isEmpty then pure (← get).jobs else args.mapM fun (arg : Raw) => do
    match arg with
    | '%' :: _ => processOf arg
    | arg => Course.fail ("No such job: " ++ arg.shown)
  wanted.forM put
  if last ≠ some 'p' then
    modify fun s => { s with
      jobs := s.jobs.filter fun n => !wanted.contains n || (s.ended.lookup n).isNone }
  return 0

/-- Bring a command back from the background, which only a shell can do that has put it there for
that. -/
def bringBack : Builtin := fun args => do
  let (_, args) ← Course.options [] args
  let named := args.headD ['%']
  match (JobName.ofText (named.drop 1)).process (← get) with
  | .error message => Course.fail message
  | .ok _ =>
    let shown := if args.isEmpty then "(null)" else named.shown
    Course.fail ("job " ++ shown ++ " not created under job control")

end AgentPulse.Shell.Builtin
