import AgentPulse.Bus.Archive
import AgentPulse.Bus.Limits
import AgentPulse.Bus.Mailbox
import AgentPulse.Bus.Roster
import AgentPulse.Bus.Totals
import AgentPulse.Log.Notice
import AgentPulse.Text.Outline

/-!
# Buses

A bus stores each beat in its archive and offers it to the mailboxes of all who follow the agent. It
knows its subscriptions in two ways: the roster says which are open and what they follow, and the
list of subscriptions holds the mailboxes of all readers that still exist, open or not.

An operation that changes a bus also says what is to be noted in the log.
-/

namespace AgentPulse

/-- One reader's side of a bus. -/
structure Subscription where
  id : SubscriptionId
  /-- The key it was made under. -/
  key : String
  mailbox : Mailbox
  deriving Inhabited

namespace Subscription

/-- The outline of a subscription. The caller has a text for the identity. -/
def outline (s : Subscription) (idText : String) : Text.Outline :=
  .record "Subscription" [
    ("id", .wrapper "SubscriptionId" (.leaf idText)),
    ("key", .leaf (Text.quoted s.key)),
    ("dropped", .leaf (Text.Decimal.ofNat s.mailbox.dropped.toNat))] true

/-- The outline of a subscription that is read as a stream. -/
def streamOutline (s : Subscription) (idText : String) : Text.Outline :=
  .record "EventStream" [("subscription", s.outline idText)] false

end Subscription

namespace Subscription

/-- The subscription of an identity among some subscriptions. -/
def find? (id : SubscriptionId) (l : List Subscription) : Option Subscription :=
  l.find? fun s => s.id == id

/-- Change the mailbox. -/
def onMailbox (f : Mailbox → Mailbox) (s : Subscription) : Subscription :=
  { s with mailbox := f s.mailbox }

/-- Change the mailbox of one subscription among some subscriptions. -/
def modify (id : SubscriptionId) (f : Mailbox → Mailbox) (l : List Subscription) :
    List Subscription :=
  l.map fun s => if s.id = id then s.onMailbox f else s

end Subscription

/-- How one beat fared at the mailboxes of its followers. -/
structure Delivery where
  delivered : Nat := 0
  dropped : Nat := 0
  deriving DecidableEq, Repr, Inhabited

instance : Add Delivery := ⟨fun a b => ⟨a.delivered + b.delivered, a.dropped + b.dropped⟩⟩

/-- What comes of offering a beat to the mailboxes of followers, one after the other. -/
structure Round where
  /-- All subscriptions, with what their mailboxes now hold. -/
  subscriptions : List Subscription
  /-- The followers whose readers still exist. -/
  kept : List SubscriptionId := []
  delivery : Delivery := {}
  notices : List Notice := []

/-- Offer a beat to the mailboxes of followers in turn. A full mailbox loses the beat for its reader
alone; a follower whose reader is gone is not kept. -/
def Round.offer (beat : Beat) : List Subscription → List SubscriptionId → Round
  | subscriptions, [] => { subscriptions }
  | subscriptions, id :: rest =>
    match Subscription.find? id subscriptions with
    | none =>
      let r := offer beat subscriptions rest
      { r with notices := .readerGone id :: r.notices }
    | some s =>
      let r := offer beat (Subscription.modify id (Mailbox.offer · beat) subscriptions) rest
      if s.mailbox.isFull then
        { r with
          kept := id :: r.kept
          delivery := { r.delivery with dropped := r.delivery.dropped + 1 }
          notices := .mailboxFull beat.agent id :: r.notices }
      else
        { r with
          kept := id :: r.kept
          delivery := { r.delivery with delivered := r.delivery.delivered + 1 } }

/-- A bus and the mailboxes that it fills. -/
structure Bus where
  /-- The number of the bus among all buses. -/
  id : Nat
  limits : Limits
  archive : Archive
  /-- The open subscriptions. -/
  roster : Roster := Roster.empty
  /-- The subscriptions whose readers still exist, in the order of subscribing. -/
  subscriptions : List Subscription := []
  /-- How many subscriptions were ever made. -/
  issued : Nat := 0
  published : UInt64 := 0
  delivered : UInt64 := 0
  dropped : UInt64 := 0

namespace Bus

/-- A bus of checked limits. -/
def ofLimits (id : Nat) (limits : Limits) : Bus :=
  { id, limits, archive := Archive.ofCapacity limits.history }

/-- A bus, if its limits can be kept. -/
def create (id : Nat) (limits : Limits) : Except Limits.Flaw Bus := do
  limits.check
  return ofLimits id limits

/-! ## Subscriptions by identity -/

/-- The subscription of an identity, while its reader exists. -/
def subscription? (b : Bus) (id : SubscriptionId) : Option Subscription :=
  Subscription.find? id b.subscriptions

/-- Change the mailbox of one subscription. -/
def modifyMailbox (b : Bus) (id : SubscriptionId) (f : Mailbox → Mailbox) : Bus :=
  { b with subscriptions := Subscription.modify id f b.subscriptions }

/-! ## Operations -/

/-- Store a beat and offer it to every mailbox that it is for: first to those who follow its agent
by name, then to those who follow every agent. -/
def publish (b : Bus) (beat : Beat) : Bus × Delivery × List Notice :=
  let byName := Round.offer beat b.subscriptions (b.roster.byName beat.agent)
  let everyone := Round.offer beat byName.subscriptions b.roster.everyone
  let delivery := byName.delivery + everyone.delivery
  ({ b with
      archive := b.archive.append beat.agent beat
      roster := { b.roster.keep beat.agent byName.kept with everyone := everyone.kept }
      subscriptions := everyone.subscriptions
      published := b.published + 1
      delivered := b.delivered + .ofNat delivery.delivered
      dropped := b.dropped + .ofNat delivery.dropped },
    delivery,
    byName.notices ++ everyone.notices
      ++ [.published beat.agent beat.status delivery.delivered delivery.dropped])

/-- Make a subscription under a key that gets its beats through a mailbox. -/
def enroll (b : Bus) (key : String) (m : Mailbox) : Bus × SubscriptionId × List Notice :=
  let id : SubscriptionId := ⟨b.id, b.issued⟩
  ({ b with
      roster := b.roster.register key id
      subscriptions := b.subscriptions ++ [⟨id, key, m⟩]
      issued := b.issued + 1 },
    id, [.subscribed key id])

/-- Make a subscription under a key, with an empty mailbox of its own. -/
def subscribe (b : Bus) (key : String) : Bus × SubscriptionId × List Notice :=
  b.enroll key { capacity := b.limits.queue }

/-- Close the subscription that was made under a key and has an identity. A pair that does not
belong together is passed over. -/
def unsubscribe (b : Bus) (key : String) (id : SubscriptionId) : Bus × List Notice :=
  if id ∈ b.roster.under key then
    ({ b with roster := b.roster.remove key id }.modifyMailbox id Mailbox.close,
      [.unsubscribed key id])
  else (b, [])

/-- Forget a reader; its subscription is closed if it is open. -/
def discard (b : Bus) (id : SubscriptionId) : Bus × List Notice :=
  match b.subscription? id with
  | none => (b, [])
  | some s =>
    let (b, notices) := b.unsubscribe s.key id
    ({ b with subscriptions := b.subscriptions.filter fun s => s.id != id }, notices)

/-- Close every subscription, because nobody can publish any more. -/
def close (b : Bus) : Bus :=
  { b with
    roster := Roster.empty
    subscriptions := b.subscriptions.map (Subscription.onMailbox Mailbox.close) }

/-! ## Readings -/

/-- How many open subscriptions were made under a key. -/
def subscriberCount (b : Bus) (key : String) : Nat := b.roster.count key

/-- The totals at this moment. -/
def totals (b : Bus) : Totals where
  keys := b.archive.keyCount
  buffered := b.archive.total
  subscriptions := b.roster.size
  published := b.published
  delivered := b.delivered
  dropped := b.dropped

/-- The outline of a bus. -/
def outline (b : Bus) : Text.Outline :=
  let number (n : Nat) : Text.Outline := .leaf (Text.Decimal.ofNat n)
  .record "HeartbeatBus" [
    ("config", .record "BusConfig" [
      ("history_capacity_per_key", number b.limits.history),
      ("subscriber_queue_capacity", number b.limits.queue)] false),
    ("keys", number b.archive.keyCount),
    ("subscriptions", number b.roster.size)] false

end Bus

end AgentPulse
