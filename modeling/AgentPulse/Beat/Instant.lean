import AgentPulse.Record.Shape

/-!
# Instants

An instant is a number of nanoseconds since the start of 1970, so every instant has one
representation. Its JSON form is a record of whole seconds and the nanoseconds within the second;
instants before 1970 have none. A record may give more nanoseconds than a second has: the surplus
counts as seconds.
-/

namespace AgentPulse

open Record (Mistake ReadError Shape Draft)
open Json (Node)

/-- A point in time, in nanoseconds since the start of 1970. -/
structure Instant where
  nanos : Int
  deriving DecidableEq, Repr, Inhabited

namespace Instant

/-- The nanoseconds of a second. -/
def perSecond : Nat := 1000000000

/-- The start of 1970. -/
def epoch : Instant := ⟨0⟩

/-- Seconds and nanoseconds after the start of 1970. -/
def ofParts (secs nanos : Int) : Instant := ⟨secs * perSecond + nanos⟩

/-- The latest number of whole seconds that an instant may have. -/
def maxSeconds : Nat := UInt64.size / 2 - 1

/-- Why an instant cannot be written. -/
inductive WriteError where
  | beforeEpoch
  deriving DecidableEq, Repr

/-- The refusal in words. -/
def WriteError.message : WriteError → String
  | .beforeEpoch => "SystemTime must be later than UNIX_EPOCH"

/-- The whole seconds of an instant and the nanoseconds on top, if it is not before 1970. -/
def parts (t : Instant) : Except WriteError (Nat × Nat) :=
  match t.nanos with
  | .ofNat n => .ok (n / perSecond, n % perSecond)
  | .negSucc _ => .error .beforeEpoch

/-- The fields of the JSON form, whole seconds first. -/
def members (t : Instant) : Except WriteError (List (String × Json)) := do
  let (secs, nanos) ← t.parts
  return [("secs_since_epoch", .number (.integer secs)),
    ("nanos_since_epoch", .number (.integer nanos))]

/-- The fields of the JSON form. -/
inductive Part where
  | secs
  | nanos
  deriving DecidableEq, Repr

/-- The whole seconds that seconds and nanoseconds amount to. -/
def wholeSeconds (secs nanos : Nat) : Nat := secs + nanos / perSecond

/-- Seconds below 2^64 and nanoseconds below 2^32 may amount to more than 64 bits of seconds. -/
def checkParts (secs nanos : Option Nat) : Except Mistake Unit :=
  match secs, nanos with
  | some secs, some nanos =>
    if UInt64.size ≤ wholeSeconds secs nanos then .error .offsetOverflow else .ok ()
  | _, _ => .ok ()

/-- The record of seconds and nanoseconds. No other name may occur in it. -/
def shape : Shape Part (fun _ => Nat) where
  title := "struct SystemTime"
  arrayTitle := "struct SystemTime"
  order := [.secs, .nanos]
  name
    | .secs => "secs_since_epoch"
    | .nanos => "nanos_since_epoch"
  field
    | .secs => .word UInt64.size "u64"
    | .nanos => .word UInt32.size "u32"
  isClosed := true
  check d := checkParts (d .secs) (d .nanos)

/-- The instant of seconds and nanoseconds, unless it is later than instants go. -/
def ofSum (secs nanos : Nat) : Except Mistake Instant :=
  if maxSeconds < wholeSeconds secs nanos then .error .instantOverflow
  else .ok (ofParts secs nanos)

/-- The instant that the fields read so far give. -/
def ofDraft (d : Draft Part (fun _ => Nat)) : Except Mistake Instant := do
  let secs ← shape.require d .secs
  let nanos ← shape.require d .nanos
  ofSum secs nanos

/-- Read an instant off a value. -/
def ofJson (j : Json) : Except Mistake Instant := do
  let d ← shape.ofJson j
  ofDraft d

/-- Read an instant off a node. -/
def ofNode (levels : Nat) (n : Node) : Except ReadError Instant := do
  let d ← shape.ofNode levels n
  Record.ofContent (ofDraft d)

/-- Instants as a field of a record. -/
def field : Record.Field Instant := ⟨ofJson, ofNode⟩

end Instant

end AgentPulse
