import AgentPulse.Shell.Course

/-!
# Leaving

The builtins that leave the shell, a function, or loops.
-/

namespace AgentPulse.Shell.Builtin

/-- End the shell. Without a number it ends as the last command did, or, in what its end or a signal
brings about, as the last command before that. -/
def exit : Builtin := fun args => do
  let s ← get
  let status ← match args with
    | a :: _ => Course.count a
    | [] => pure (s.statusBefore.getD s.status)
  throw (.exit status)

/-- Leave a function, or a script that is read inside another. -/
def leaveFunction : Builtin := fun args => do
  match args with
  | a :: _ => Course.finish (← Course.count a)
  | [] => pure ()
  throw .back

/-- Leave loops, or go on with one of them. No more loops are left than there are. -/
def leaveLoops (flow : Nat → Flow) : Builtin := fun args => do
  let count ← match args with
    | a :: _ => do
      let n ← Course.count a
      if n = 0 then Course.fail ("Illegal number: " ++ a.shown)
      pure n
    | [] => pure 1
  match min count (← get).loops with
  | 0 => return 0
  | n =>
    Course.finish 0
    throw (flow n)

end AgentPulse.Shell.Builtin
