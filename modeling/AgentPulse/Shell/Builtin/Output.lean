import AgentPulse.Shell.Condition
import AgentPulse.Shell.Course
import AgentPulse.Shell.Printing

/-!
# Printing and asking

The builtins that print their arguments, and the one that asks a question.
-/

namespace AgentPulse.Shell.Builtin

/-- Print the arguments with blanks between them. -/
def echo : Builtin := fun args => do
  Act.out (echoText args)
  return 0

/-- Print arguments as a format says. What was printed before something went wrong stays. -/
def printFormatted : Builtin := fun args => do
  let (_, args) ← Course.options [] args
  match args with
  | [] => Course.fail "usage: printf format [arg ...]"
  | format :: args =>
    let p := printed format args
    Act.out p.text
    p.complaints.forM fun (c : String) => Act.complain c
    match p.failure with
    | some message => Course.fail message
    | none => return if p.complaints.isEmpty then 0 else 1

/-- Ask a question. -/
def ask : Builtin := fun args => do
  match Condition.holds (← get) args (args.length + 2) with
  | .ok r => return if r then 0 else 1
  | .error t => Course.fail t.message

/-- Ask a question in brackets. -/
def askInBrackets : Builtin := fun args =>
  if args.getLast? = some [']'] then ask args.dropLast else Course.fail "missing ]"

end AgentPulse.Shell.Builtin
