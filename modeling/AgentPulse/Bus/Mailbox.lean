import AgentPulse.Beat.Basic

/-!
# Mailboxes

A mailbox holds the beats that wait for one reader, oldest first. A beat offered to a full mailbox
is lost for that reader and counted. A closed mailbox takes nothing more, but what waits in it can
still be read; after that it is at its end.

There are three ways to read. Each takes the oldest beat if there is one; they differ in how they
say that there is none.
-/

namespace AgentPulse

/-- The beats that wait for one reader. -/
structure Mailbox where
  /-- How many beats may wait. -/
  capacity : Nat
  /-- The waiting beats, oldest first. -/
  waiting : List Beat := []
  /-- Beats lost because the mailbox was full. -/
  dropped : UInt64 := 0
  isClosed : Bool := false
  deriving Inhabited

namespace Mailbox

/-- Whether no further beat may wait. -/
def isFull (m : Mailbox) : Bool := m.capacity ≤ m.waiting.length

/-- Put a beat at the end, or count it as lost. -/
def offer (m : Mailbox) (b : Beat) : Mailbox :=
  if m.isFull then { m with dropped := m.dropped + 1 }
  else { m with waiting := m.waiting ++ [b] }

/-- Take nothing more. -/
def close (m : Mailbox) : Mailbox := { m with isClosed := true }

/-- Reading from a closed mailbox in which nothing waits. -/
inductive AtEnd where
  | closed
  deriving DecidableEq, Repr

/-- The refusal in words. -/
def AtEnd.message : AtEnd → String
  | .closed => "Subscription closed"

/-- Read without waiting: a beat, or none for now, or a refusal at the end. -/
def tryTake (m : Mailbox) : Except AtEnd (Option Beat) × Mailbox :=
  match m.waiting with
  | b :: rest => (.ok (some b), { m with waiting := rest })
  | [] => (if m.isClosed then .error .closed else .ok none, m)

/-- What one look for the next beat finds. -/
inductive Poll where
  /-- The next beat, or that there will be none. -/
  | ready (b : Option Beat)
  /-- No beat yet. -/
  | pending
  deriving Inhabited

/-- Look once for the next beat. -/
def poll (m : Mailbox) : Poll × Mailbox :=
  match m.waiting, m.isClosed with
  | b :: rest, _ => (.ready (some b), { m with waiting := rest })
  | [], true => (.ready none, m)
  | [], false => (.pending, m)

/-- Read the next beat, or that there will be none; no answer where a reader would have to wait. -/
def take? (m : Mailbox) : Option (Option Beat × Mailbox) :=
  match m.waiting with
  | b :: rest => some (some b, { m with waiting := rest })
  | [] => if m.isClosed then some (none, m) else none

/-- Read until nothing waits. -/
def drain (m : Mailbox) : List Beat × Mailbox := (m.waiting, { m with waiting := [] })

end Mailbox

end AgentPulse
