import AgentPulse.Metrics.Meter

/-!
# Boards

A board holds meters, each under a label of its own. A label that is taken cannot be registered a
second time, and a refused registration leaves the board as it is.
-/

namespace AgentPulse

/-- Meters under their labels. -/
structure Board where
  meters : Dict Meter := Dict.empty
  deriving Inhabited

namespace Board

/-- A board without meters. -/
def empty : Board := {}

/-- Why a label cannot be registered. -/
inductive Refusal where
  | taken
  deriving DecidableEq, Repr

/-- The refusal in words. -/
def Refusal.message : Refusal → String
  | .taken => "Failed to initialize Prometheus metrics: " ++
      "Duplicate metrics collector registration attempted"

/-- Start a meter under a label. -/
def register (b : Board) (label : String) : Except Refusal Board :=
  if b.meters.contains label then .error .taken
  else .ok { b with meters := b.meters.insert label {} }

/-- The meter under a label. -/
def meter? (b : Board) (label : String) : Option Meter := b.meters.find? label

/-- Let the meter under a label take note of totals. -/
def observe (b : Board) (label : String) (t : Totals) : Board :=
  match b.meter? label with
  | some m => { b with meters := b.meters.insert label (m.observe t) }
  | none => b

end Board

end AgentPulse
