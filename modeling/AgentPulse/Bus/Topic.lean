/-!
# What a subscription follows

A subscription is made under a key. The key `*` stands for every agent and for no agent of that
name: a beat whose own agent is called `*` reaches only those who follow everything.
-/

namespace AgentPulse

/-- The key that stands for every agent. -/
def everyAgent : String := "*"

/-- Whether a key stands for every agent. -/
def isEveryAgent (key : String) : Bool := key == everyAgent

/-- Whether a beat of an agent is for those who subscribed under a key. -/
def follows (key agent : String) : Bool := isEveryAgent key || key == agent

/-- The identity of a subscription: the bus it was made on and its number there. -/
structure SubscriptionId where
  bus : Nat
  serial : Nat
  deriving DecidableEq, Repr, Inhabited

end AgentPulse
