import AgentPulse.Shell.Builtin.Jobs

/-!
# Sending signals and waiting for them

What a shell does when a signal arrives, and how signals are sent: to the shell itself, or to what
it has in the background.
-/

namespace AgentPulse.Shell.Builtin

/-- Say what is to be done when signals arrive, or show it. A dash takes it back. -/
def setTraps : Builtin := fun args => do
  let (_, args) ← Course.options [] args
  match args with
  | [] =>
    let s ← get
    (List.range (Signal.last + 1)).forM fun n =>
      match s.trap? n with
      | some action => Act.outLine (raw "trap -- " ++ quoted action ++ raw (" " ++ Signal.name n))
      | none => pure ()
    return 0
  | first :: rest =>
    let isReset := rest.isEmpty || (Signal.ofNumber? first).isSome
    let action := if isReset || first = ['-'] then none else some first
    (if isReset then args else rest).foldlM (fun status (name : Raw) => do
      if status != 0 then return status
      else match Signal.ofText? 0 name with
        | some n =>
          modify fun s => s.setTrap n action
          return 0
        | none =>
          Act.say ("trap: " ++ name.shown ++ ": bad trap")
          return 1) 0

/-- Send a signal to the shell that goes by the same number: to itself, or to the outer one. -/
def signalShell (signal : Nat) : Course Unit := do
  let s ← get
  let send : Course Unit := modify fun s => { s with signals := s.signals ++ [signal] }
  if signal = 0 then return
  else if s.isInner then send
  else if Signal.isAbsolute signal then throw (.killed signal)
  else match s.trap? signal with
    | some action => if action.isEmpty then return else send
    | none => if Signal.isHarmless signal then return else throw (.killed signal)

/-- Send a signal to a command in the background: whether it was still there. One that was started
just now has not done anything yet. -/
def signalTask (signal number : Nat) : Course Bool := do
  let s ← get
  match s.tasks.find? fun (t : Task) => t.number == number with
  | none => return false
  | some t =>
    let isIgnored := t.shell.traps.lookup signal == some [] && !Signal.isAbsolute signal
    if signal = 0 || isIgnored || Signal.isHarmless signal || t.death.isSome then return true
    else if s.tree.now ≤ t.start then
      set { s with
        tasks := s.tasks.filter fun (t : Task) => t.number != number
        ended := (number, .killed signal) :: s.ended }
      return true
    else
      set { s with tasks := s.tasks.map fun (t : Task) =>
        if t.number = number then { t with death := some (s.tree.now, signal) } else t }
      return true

/-- How signals are sent. -/
def killUsage : String :=
  "Usage: kill [-s sigspec | -signum | -sigspec] [pid | job]... or\nkill -l [exitstatus]"

/-- Send a signal to each of some processes. There are no groups of processes that could be meant: a
command in the background is in the group of the shell. -/
def sendTo (signal : Nat) (targets : List Raw) : Course Nat :=
  targets.foldlM (fun status (target : Raw) => do
    let s ← get
    let number : Option Nat ← match target with
      | '%' :: _ => do
        let _ ← processOf target
        pure none
      | '-' :: group => do
        let _ ← Course.count group
        pure none
      | target => do
        let n ← Course.count target
        pure (some n)
    if number = some s.number then
      signalShell signal
      return status
    else
      let isSent ← match number with
        | some n => signalTask signal n
        | none => pure false
      if isSent then return status
      else
        Act.complain "No such process\n"
        return 1) 0

/-- Show the names of the signals, or of the one that an exit status stands for. -/
def listSignals : Builtin := fun args => do
  match args with
  | [] =>
    Act.out (raw "0\n")
    (List.range Signal.last).forM fun n => Act.outLine (raw (Signal.name (n + 1)))
    return 0
  | arg :: _ =>
    let n ← Course.count arg
    let n := if 128 < n then n - 128 else n
    if 0 < n ∧ n ≤ Signal.last then
      Act.outLine (raw (Signal.name n))
      return 0
    else Course.fail ("invalid signal number or exit status: " ++ arg.shown)

/-- Send a signal, or show the signals. -/
def kill : Builtin := fun args => do
  let direct := match args with
    | ('-' :: name) :: _ => Signal.ofText? 1 name
    | _ => none
  match direct, args with
  | _, [] => Course.fail killUsage
  | some signal, _ :: targets =>
    if targets.isEmpty then Course.fail killUsage else sendTo signal targets
  | none, args => do
    let (options, targets) ← Course.options [('l', false), ('s', true)] args
    let signal ← match options.reverse.find? fun o => o.1 == 's' with
      | none => pure none
      | some (_, name) =>
        match Signal.ofText? 1 name with
        | some n => pure (some n)
        | none => Course.fail ("invalid signal number or name: " ++ name.shown)
    if hasLetter options 'l' then
      if signal.isSome then Course.fail killUsage else listSignals targets
    else if targets.isEmpty then Course.fail killUsage
    else sendTo (signal.getD Signal.usual) targets

end AgentPulse.Shell.Builtin
