import AgentPulse.Dict
import AgentPulse.Text.Utf8
import AgentPulse.Text.Decimal

/-!
# Environment variables

The value of a variable is a string of bytes. A setting is read from it as a text or as a number; a
value that is not the one or the other counts as absent.
-/

namespace AgentPulse

/-- The variables of a process, by name. -/
structure Environment where
  values : Dict Bytes := Dict.empty

namespace Environment

/-- The text under a name. Bytes that are not UTF-8 count as absent. -/
def text? (env : Environment) (name : String) : Option String :=
  (env.values.find? name).bind Text.Utf8.text?

/-- The number under a name. Anything else than an unsigned 64-bit number counts as absent. -/
def word? (env : Environment) (name : String) : Option Nat :=
  (env.text? name).bind Text.Decimal.word?

end Environment

end AgentPulse
