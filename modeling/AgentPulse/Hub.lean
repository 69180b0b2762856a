import AgentPulse.Bus.Basic

/-!
# Hubs

A hub is a number of buses with names for handles to them and names for the readers of their
subscriptions. Several handles may belong to one bus; when the last one goes, the bus closes its
subscriptions, and their readers keep what is still waiting.

Every `Action` is one step. A step that is refused changes nothing.
-/

namespace AgentPulse

/-- The owner of one subscription. -/
structure Reader where
  id : SubscriptionId
  /-- Whether the subscription is read as a stream. -/
  isStream : Bool := false
  deriving DecidableEq, Repr, Inhabited

/-- Buses, the handles to them, and the readers of their subscriptions. -/
structure Hub where
  /-- All buses ever made; the number of a bus is its place here. -/
  buses : List Bus := []
  /-- The number of the bus that a handle belongs to. -/
  handles : Dict Nat := Dict.empty
  readers : Dict Reader := Dict.empty
  /-- The subscription last made under each reader's name, whether or not the reader exists. -/
  known : Dict SubscriptionId := Dict.empty

namespace Hub

/-- Why a step is refused. -/
inductive Refusal where
  /-- No handle, reader or subscription goes by the name. -/
  | unknownName (name : String)
  | badLimits (flaw : Limits.Flaw)
  | atEnd (e : Mailbox.AtEnd)
  /-- The reader would have to wait for ever. -/
  | wouldBlock
  deriving DecidableEq, Repr

/-- The ways to read from a subscription. -/
inductive Reading where
  /-- Take a beat if there is one. -/
  | attempt
  /-- Look once for the next beat. -/
  | poll
  /-- Wait for the next beat. -/
  | wait
  deriving DecidableEq, Repr

/-- One step on a hub. -/
inductive Action where
  | create (handle : String) (limits : Limits)
  | clone (handle copy : String)
  | release (handle : String)
  | publish (handle : String) (beat : Beat)
  | subscribe (handle reader key : String)
  | unsubscribe (handle reader key : String)
  | read (reader : String) (reading : Reading)
  | drain (reader : String)
  | stream (reader : String)
  | discard (reader : String)

/-- What a step answers. -/
inductive Answer where
  | done
  | created (limits : Limits)
  | delivery (d : Delivery)
  | count (n : Nat)
  /-- A beat, or none: for now, or because there will be none. -/
  | taken (b : Option Beat)
  | polled (p : Mailbox.Poll)
  /-- All that waited, and whether there will be more. -/
  | drained (beats : List Beat) (isClosed : Bool)

/-- What a step leads to. -/
abbrev Outcome := Except Refusal (Answer × Hub × List Notice)

/-! ## Looking up -/

/-- The number of the bus that a handle belongs to, and the bus. -/
def bus (h : Hub) (handle : String) : Except Refusal Bus :=
  match (h.handles.find? handle).bind (h.buses[·]?) with
  | some b => .ok b
  | none => .error (.unknownName handle)

/-- The reader of a name. -/
def reader (h : Hub) (name : String) : Except Refusal Reader :=
  match h.readers.find? name with
  | some r => .ok r
  | none => .error (.unknownName name)

/-- The subscription that a reader owns. -/
def subscription? (h : Hub) (id : SubscriptionId) : Option Subscription :=
  h.buses[id.bus]?.bind fun b => b.subscription? id

/-- The reader of a name and its subscription. -/
def subscription (h : Hub) (name : String) : Except Refusal (Reader × Subscription) := do
  let r ← h.reader name
  match h.subscription? r.id with
  | some s => return (r, s)
  | none => .error (.unknownName name)

/-- The subscription last made under a name. -/
def identity (h : Hub) (name : String) : Except Refusal SubscriptionId :=
  match h.known.find? name with
  | some id => .ok id
  | none => .error (.unknownName name)

/-! ## Changing -/

/-- Put a bus in the place of the one of its number. -/
def setBus (h : Hub) (b : Bus) : Hub := { h with buses := h.buses.set b.id b }

/-- Close the bus of a number if no handle belongs to it. -/
def settle (h : Hub) (number : Nat) : Hub :=
  if number ∈ h.handles.values then h
  else { h with buses := h.buses.modify number Bus.close }

/-- Let a name be a handle of the bus of a number. A bus whose last handle had it is closed. -/
def assign (h : Hub) (handle : String) (number : Nat) : Hub :=
  let next := { h with handles := h.handles.insert handle number }
  match h.handles.find? handle with
  | some previous => next.settle previous
  | none => next

/-- Forget a reader that is in the way of a new one. -/
def discardReader (h : Hub) (name : String) : Hub × List Notice :=
  match h.readers.find? name with
  | none => (h, [])
  | some r =>
    let h := { h with readers := h.readers.erase name }
    match h.buses[r.id.bus]? with
    | none => (h, [])
    | some b =>
      let (b, notices) := b.discard r.id
      (h.setBus b, notices)

/-! ## Waiting -/

/-- Take the reader of a name out of the hub, so that nothing else can use it while it waits. -/
def lend (h : Hub) (name : String) : Except Refusal (Reader × Hub) := do
  let (r, _) ← h.subscription name
  return (r, { h with readers := h.readers.erase name })

/-- Let the name have its reader again. A reader that has the name now is forgotten. -/
def giveBack (h : Hub) (name : String) (r : Reader) : Hub × List Notice :=
  let (h, notices) := h.discardReader name
  ({ h with readers := h.readers.insert name r }, notices)

/-- What a waiting reader takes: a beat, or nothing because there will be none, or it goes on
waiting. -/
def takeFor (h : Hub) (r : Reader) : Option (Option Beat) × Hub :=
  match (h.subscription? r.id).bind fun s => s.mailbox.take? with
  | some (b, m) =>
    (some b, { h with buses := h.buses.modify r.id.bus fun b => b.modifyMailbox r.id fun _ => m })
  | none => (none, h)

/-! ## Steps -/

/-- Take one step. -/
def step (h : Hub) : Action → Outcome
  | .create handle limits => do
    let number := h.buses.length
    let b ← (Bus.create number limits).mapError .badLimits
    return (.created limits, { h with buses := h.buses ++ [b] }.assign handle number, [])
  | .clone handle copy => do
    let b ← h.bus handle
    return (.done, h.assign copy b.id, [])
  | .release handle => do
    let b ← h.bus handle
    return (.done, { h with handles := h.handles.erase handle }.settle b.id, [])
  | .publish handle beat => do
    let b ← h.bus handle
    let (b, delivery, notices) := b.publish beat
    return (.delivery delivery, h.setBus b, notices)
  | .subscribe handle reader key => do
    let b ← h.bus handle
    let (b, id, made) := b.subscribe key
    let (h, gone) := (h.setBus b).discardReader reader
    let b ← h.bus handle
    return (.count (b.subscriberCount key),
      { h with readers := h.readers.insert reader { id }, known := h.known.insert reader id },
      made ++ gone)
  | .unsubscribe handle reader key => do
    let id ← h.identity reader
    let b ← h.bus handle
    let (b, notices) := b.unsubscribe key id
    return (.count (b.subscriberCount key), h.setBus b, notices)
  | .read reader reading => do
    let (r, s) ← h.subscription reader
    let keep (m : Mailbox) : Hub :=
      { h with buses := h.buses.modify r.id.bus fun b => b.modifyMailbox r.id fun _ => m }
    match reading with
    | .attempt => do
      let (result, m) := s.mailbox.tryTake
      let b ← result.mapError .atEnd
      return (.taken b, keep m, [])
    | .poll =>
      let (p, m) := s.mailbox.poll
      return (.polled p, keep m, [])
    | .wait =>
      match s.mailbox.take? with
      | some (b, m) => return (.taken b, keep m, [])
      | none => .error .wouldBlock
  | .drain reader => do
    let (r, s) ← h.subscription reader
    let (beats, m) := s.mailbox.drain
    return (.drained beats s.mailbox.isClosed,
      { h with buses := h.buses.modify r.id.bus fun b => b.modifyMailbox r.id fun _ => m }, [])
  | .stream name => do
    let r ← h.reader name
    return (.done, { h with readers := h.readers.insert name { r with isStream := true } }, [])
  | .discard name => do
    let _ ← h.reader name
    let (h, notices) := h.discardReader name
    return (.done, h, notices)

end Hub

end AgentPulse
