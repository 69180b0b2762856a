import AgentPulse.Environment

/-!
# The limits of a bus

How many beats a bus keeps for each agent, and how many may wait in a mailbox. Both are at least
one, and a mailbox has an upper bound besides. `check` names the first limit that cannot be kept;
limits from the environment are taken as they are and checked when a bus is made.
-/

namespace AgentPulse

/-- The two limits of a bus. -/
structure Limits where
  /-- Beats kept for each agent. -/
  history : Nat := 100
  /-- Beats that may wait in one mailbox. -/
  queue : Nat := 10
  deriving DecidableEq, Repr, Inhabited

namespace Limits

/-- The largest mailbox. -/
def maxQueue : Nat := UInt64.size / 8 - 1

/-- Why limits cannot be kept. -/
inductive Flaw where
  | zeroHistory
  | zeroQueue
  | queueTooLarge (queue : Nat)
  deriving DecidableEq, Repr

/-- The flaw in words. -/
def Flaw.message : Flaw → String
  | .zeroHistory => "history capacity per key must be at least 1"
  | .zeroQueue => "subscriber queue capacity must be at least 1"
  | .queueTooLarge queue =>
    "subscriber queue capacity " ++ Text.Decimal.ofNat queue ++ " exceeds maximum "
      ++ Text.Decimal.ofNat maxQueue

/-- The first reason why limits cannot be kept. -/
def check (l : Limits) : Except Flaw Unit :=
  if l.history = 0 then .error .zeroHistory
  else if l.queue = 0 then .error .zeroQueue
  else if maxQueue < l.queue then .error (.queueTooLarge l.queue)
  else .ok ()

/-- The variable that holds the number of beats to keep. -/
def historyVariable : String := "HEARTBEAT_HISTORY_CAPACITY"

/-- The variable that holds the size of a mailbox. -/
def queueVariable : String := "HEARTBEAT_QUEUE_CAPACITY"

/-- The limits that the environment asks for; each has its own default. -/
def ofEnvironment (env : Environment) : Limits where
  history := (env.word? historyVariable).getD ({} : Limits).history
  queue := (env.word? queueVariable).getD ({} : Limits).queue

end Limits

end AgentPulse
