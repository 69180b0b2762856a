import AgentPulse.Bus.Totals

/-!
# Meters

A meter follows the totals of a bus. Its gauges show the last totals it was given. Its counters add
up how far each total has advanced since the one before; a total that has gone back, because the bus
was started anew or is another one, adds nothing and is where the count goes on from.
-/

namespace AgentPulse

/-- What has been measured of one bus. -/
structure Meter where
  keys : Nat := 0
  buffered : Nat := 0
  subscriptions : Nat := 0
  published : UInt64 := 0
  delivered : UInt64 := 0
  dropped : UInt64 := 0
  /-- The totals of the last observation. -/
  baseline : Totals := {}
  deriving DecidableEq, Repr, Inhabited

namespace Meter

/-- The largest number that a gauge shows. -/
def gaugeMax : Nat := UInt64.size / 2 - 1

/-- What a gauge shows of a number. -/
def gauge (n : Nat) : Nat := min n gaugeMax

/-- How far a total has advanced, nothing if it has gone back. -/
def advance (before now : UInt64) : UInt64 := if before ≤ now then now - before else 0

/-- Take note of totals. -/
def observe (m : Meter) (t : Totals) : Meter where
  keys := gauge t.keys
  buffered := gauge t.buffered
  subscriptions := gauge t.subscriptions
  published := m.published + advance m.baseline.published t.published
  delivered := m.delivered + advance m.baseline.delivered t.delivered
  dropped := m.dropped + advance m.baseline.dropped t.dropped
  baseline := t

end Meter

end AgentPulse
