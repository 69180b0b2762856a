import AgentPulse.Metrics.Board
import AgentPulse.Double.Shortest

/-!
# The text of a board

Six families of numbers in the order of their names. A family starts with a line of help and a line
that gives its kind, then come the samples, one line for each label in ascending order. Line breaks,
quotes and backslashes in a label are escaped, so that each sample is one line. Numbers pass through
doubles and are written without an exponent.
-/

namespace AgentPulse.Metrics

/-- The kind of a number: one that goes up and down, or one that only grows. -/
inductive Kind where
  | gauge
  | counter
  deriving DecidableEq, Repr

/-- The word for a kind. -/
def Kind.word : Kind → String
  | .gauge => "gauge"
  | .counter => "counter"

/-- A family of numbers: one of each meter. -/
structure Family where
  name : String
  help : String
  kind : Kind
  value : Meter → Nat

/-- The families, in the order of their names. -/
def families : List Family := [
  ⟨"heartbeat_bus_active_subscriptions", "Registered subscriptions, wildcard included", .gauge,
    (·.subscriptions)⟩,
  ⟨"heartbeat_bus_buffered_events", "Heartbeats held across all history buffers", .gauge,
    (·.buffered)⟩,
  ⟨"heartbeat_bus_delivered_total", "Heartbeats enqueued onto subscriber queues", .counter,
    (·.delivered.toNat)⟩,
  ⟨"heartbeat_bus_dropped_total", "Heartbeats dropped because a subscriber queue was full",
    .counter, (·.dropped.toNat)⟩,
  ⟨"heartbeat_bus_keys", "Agent keys with at least one stored heartbeat", .gauge, (·.keys)⟩,
  ⟨"heartbeat_bus_published_total", "Heartbeats published", .counter, (·.published.toNat)⟩]

/-- One character of a label. -/
def escapeChar : Char → List Char
  | '\\' => ['\\', '\\']
  | '"' => ['\\', '"']
  | '\n' => ['\\', 'n']
  | c => [c]

/-- A label between its quotes. -/
def escapeLabel (label : String) : List Char := label.toList.flatMap escapeChar

/-- Samples are written without an exponent whatever their size, and whole. -/
def sampleLayout : Double.Layout := ⟨-400, 400, false⟩

/-- A number as a sample. -/
def sampleText (n : Nat) : List Char :=
  match Double.ofNat? n with
  | some d => d.render sampleLayout
  | none => Text.Decimal.digits n

namespace Family

/-- The line that says what the numbers mean. -/
def helpLine (f : Family) : List Char :=
  "# HELP ".toList ++ f.name.toList ++ ' ' :: f.help.toList ++ ['\n']

/-- The line that says of what kind the numbers are. -/
def typeLine (f : Family) : List Char :=
  "# TYPE ".toList ++ f.name.toList ++ ' ' :: f.kind.word.toList ++ ['\n']

/-- The line of one meter. -/
def sampleLine (f : Family) (label : String) (m : Meter) : List Char :=
  f.name.toList ++ "\x7bbus=\"".toList ++ escapeLabel label ++ "\"\x7d ".toList
    ++ sampleText (f.value m) ++ ['\n']

/-- The lines of a family. -/
def text (f : Family) (b : Board) : List Char :=
  f.helpLine ++ f.typeLine ++ b.meters.entries.flatMap fun e => f.sampleLine e.1 e.2

end Family

end AgentPulse.Metrics

namespace AgentPulse

/-- The text of a board. A board without meters has no families and no text. -/
def Board.text (b : Board) : String :=
  if b.meters.isEmpty then "" else String.ofList (Metrics.families.flatMap fun f => f.text b)

end AgentPulse
