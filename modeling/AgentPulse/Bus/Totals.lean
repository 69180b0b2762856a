import AgentPulse.Record.Shape

/-!
# The totals of a bus

Six numbers: three about what a bus holds now, three about what has gone through it since it was
created. The latter are 64-bit words and wrap around.
-/

namespace AgentPulse

open Record (Mistake ReadError Shape Draft)
open Json (Node)

/-- The totals of a bus at one moment. -/
structure Totals where
  /-- Keys with at least one stored beat. -/
  keys : Nat := 0
  /-- Stored beats under all keys. -/
  buffered : Nat := 0
  /-- Open subscriptions. -/
  subscriptions : Nat := 0
  /-- Beats published so far. -/
  published : UInt64 := 0
  /-- Beats put into a mailbox so far, one count for each mailbox. -/
  delivered : UInt64 := 0
  /-- Beats lost to a full mailbox so far, one count for each mailbox. -/
  dropped : UInt64 := 0
  deriving DecidableEq, Repr, Inhabited

namespace Totals

/-- The fields of the record. -/
inductive Part where
  | keys
  | buffered
  | subscriptions
  | published
  | delivered
  | dropped
  deriving DecidableEq, Repr

/-- The record. Every field is an unsigned 64-bit number. -/
def shape : Shape Part (fun _ => Nat) where
  title := "struct BusSnapshot"
  arrayTitle := "struct BusSnapshot with 6 elements"
  order := [.keys, .buffered, .subscriptions, .published, .delivered, .dropped]
  name
    | .keys => "keys"
    | .buffered => "buffered_events"
    | .subscriptions => "active_subscriptions"
    | .published => "events_published"
    | .delivered => "deliveries"
    | .dropped => "drops"
  field
    | .keys | .buffered | .subscriptions => .word UInt64.size "usize"
    | .published | .delivered | .dropped => .word UInt64.size "u64"

/-- One of the six numbers. -/
def get (t : Totals) : Part → Nat
  | .keys => t.keys
  | .buffered => t.buffered
  | .subscriptions => t.subscriptions
  | .published => t.published.toNat
  | .delivered => t.delivered.toNat
  | .dropped => t.dropped.toNat

/-- The fields in the order of the record. -/
def members (t : Totals) : List (String × Json) :=
  shape.order.map fun i => (shape.name i, .number (.integer (t.get i)))

/-- The JSON value. -/
def toJson (t : Totals) : Json := .object (Dict.ofList t.members).entries

/-- The compact text, with the fields in the order of the record. -/
def toText (t : Totals) : String := (Json.object t.members).compact

/-- The totals that the fields read so far give. -/
def ofDraft (d : Draft Part (fun _ => Nat)) : Except Mistake Totals := do
  let keys ← shape.require d .keys
  let buffered ← shape.require d .buffered
  let subscriptions ← shape.require d .subscriptions
  let published ← shape.require d .published
  let delivered ← shape.require d .delivered
  let dropped ← shape.require d .dropped
  return ⟨keys, buffered, subscriptions, .ofNat published, .ofNat delivered, .ofNat dropped⟩

/-- Read totals off a value. -/
def ofJson (j : Json) : Except Mistake Totals := do
  let d ← shape.ofJson j
  ofDraft d

/-- Read totals off a node. -/
def ofNode (levels : Nat) (n : Node) : Except ReadError Totals := do
  let d ← shape.ofNode levels n
  Record.ofContent (ofDraft d)

/-- Read totals off a text. -/
def ofText (s : String) : Except ReadError Totals := Record.ofText ofNode s

end Totals

end AgentPulse
