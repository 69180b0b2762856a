import AgentPulse.Shell.Builtin.Folders
import AgentPulse.Shell.Builtin.Input
import AgentPulse.Shell.Builtin.Leaving
import AgentPulse.Shell.Builtin.Limits
import AgentPulse.Shell.Builtin.Names
import AgentPulse.Shell.Builtin.Output
import AgentPulse.Shell.Builtin.Signals
import AgentPulse.Shell.Builtin.Variables

/-!
# Builtins by name

Those that carry out nothing but themselves. `eval`, `exec`, `.`, `wait` and `command` are not among
them: they run commands.
-/

namespace AgentPulse.Shell.Builtin

/-- The builtin of a name. -/
def ofName? (name : String) : Option Builtin :=
  match name with
  | ":" | "true" => some fun _ => return 0
  | "false" => some fun _ => return 1
  | "[" => some askInBrackets
  | "alias" => some makeAliases
  | "bg" | "fg" => some bringBack
  | "break" => some (leaveLoops .leave)
  | "cd" | "chdir" => some changeFolder
  | "continue" => some (leaveLoops .again)
  | "echo" => some echo
  | "exit" => some exit
  | "export" => some exportAll
  | "getopts" => some getOptions
  | "hash" => some rememberPrograms
  | "jobs" => some showJobs
  | "kill" => some kill
  | "local" => some makeLocal
  | "printf" => some printFormatted
  | "pwd" => some showFolder
  | "read" => some readInto
  | "readonly" => some makeConstant
  | "return" => some leaveFunction
  | "set" => some setOptions
  | "shift" => some shift
  | "test" => some ask
  | "times" => some showTimes
  | "trap" => some setTraps
  | "type" => some describeAll
  | "ulimit" => some showLimits
  | "umask" => some changeMask
  | "unalias" => some dropAliases
  | "unset" => some unset
  | _ => none

end AgentPulse.Shell.Builtin
