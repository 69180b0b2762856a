import AgentPulse.Dict
import AgentPulse.Bus.Topic

/-!
# The roster

Who follows what: the subscriptions under each agent's key, and apart from them those that follow
every agent, each list in the order of subscribing. No list under an agent's key is empty.
-/

namespace AgentPulse

/-- The open subscriptions of a bus, by what they follow. -/
structure Roster where
  /-- The subscriptions that follow one agent. -/
  exact : Dict (List SubscriptionId) := Dict.empty
  /-- The subscriptions that follow every agent. -/
  everyone : List SubscriptionId := []
  deriving Inhabited

namespace Roster

/-- No subscriptions. -/
def empty : Roster := {}

/-- The subscriptions that were made under a key. -/
def under (r : Roster) (key : String) : List SubscriptionId :=
  if isEveryAgent key then r.everyone else (r.exact.find? key).getD []

/-- The subscriptions that follow one agent by name. No agent is followed by the name `*`. -/
def byName (r : Roster) (agent : String) : List SubscriptionId :=
  if isEveryAgent agent then [] else (r.exact.find? agent).getD []

/-- The subscriptions that a beat of an agent is for: those of the agent first, then those that
follow every agent. -/
def followers (r : Roster) (agent : String) : List SubscriptionId := r.byName agent ++ r.everyone

/-- Enter a subscription at the end of its list. -/
def register (r : Roster) (key : String) (id : SubscriptionId) : Roster :=
  if isEveryAgent key then { r with everyone := r.everyone ++ [id] }
  else { r with exact := r.exact.insert key (r.under key ++ [id]) }

/-- Put a list in the place of the one that follows an agent by name. An empty list is forgotten. -/
def keep (r : Roster) (agent : String) (ids : List SubscriptionId) : Roster :=
  if isEveryAgent agent then r
  else if ids.isEmpty then { r with exact := r.exact.erase agent }
  else { r with exact := r.exact.insert agent ids }

/-- Strike a subscription from the list of its key. -/
def remove (r : Roster) (key : String) (id : SubscriptionId) : Roster :=
  if isEveryAgent key then { r with everyone := r.everyone.erase id }
  else r.keep key ((r.byName key).erase id)

/-- How many subscriptions were made under a key. -/
def count (r : Roster) (key : String) : Nat := (r.under key).length

/-- How many subscriptions there are. -/
def size (r : Roster) : Nat := r.everyone.length + r.exact.values.flatten.length

/-- Whether there are no subscriptions. -/
def isEmpty (r : Roster) : Bool := r.size == 0

end Roster

end AgentPulse
