import AgentPulse.Shell.State

/-!
# What a command leads to

A command writes bytes to two places, ends in one of two ways, and may change files.
-/

namespace AgentPulse.Shell

/-- What a command leads to. -/
structure Outcome where
  output : Bytes
  errors : Bytes
  ending : Ending
  tree : Files.Tree
  deriving Inhabited

end AgentPulse.Shell
