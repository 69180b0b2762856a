import AgentPulse.Json.Reading
import AgentPulse.Json.Compact
import AgentPulse.Text.Quoted

/-!
# Mistakes of content

A JSON value or document can be well formed and still not be the record that is asked for. A
`Mistake` says in what way; a `ReadError` is a mistake of content or a fault of form.
-/

namespace AgentPulse.Record

open Json (Fault Node)

/-- What a reader found in the place of something else. -/
inductive Found where
  | null
  | boolean (b : Bool)
  | number (n : Number)
  | text (s : String)
  | sequence
  | map
  deriving DecidableEq, Repr

/-- Why a value is not the record asked for. -/
inductive Mistake where
  | missingField (name : String)
  | duplicateField (name : String)
  | unknownField (name : String) (known : List String)
  | unknownVariant (name : String) (known : List String)
  | wrongType (found : Found) (expected : String)
  | wrongValue (found : Found) (expected : String)
  | wrongLength (length : Nat) (expected : String)
  /-- Seconds and the seconds that nanoseconds amount to exceed 64 bits. -/
  | offsetOverflow
  /-- A time too late to be held. -/
  | instantOverflow
  deriving DecidableEq, Repr

/-- Why a document cannot be read as the record asked for. -/
inductive ReadError where
  | form (fault : Fault)
  | content (mistake : Mistake)
  deriving DecidableEq, Repr

/-- What was found, in words. -/
def Found.describe : Found → String
  | .null => "null"
  | .boolean b => "boolean `" ++ (if b then "true" else "false") ++ "`"
  | .number (.integer n) => "integer `" ++ Text.Decimal.ofInt n ++ "`"
  | .number (.double d) => "floating point `" ++ String.ofList (d.render Json.doubleLayout) ++ "`"
  | .text s => "string " ++ Text.quoted s
  | .sequence => "sequence"
  | .map => "map"

/-- Names in a row, as a choice: one alone, two with an "or", more after "one of". -/
def choice (names : List String) : String :=
  match names.map fun n => "`" ++ n ++ "`" with
  | [] => "nothing"
  | [a] => a
  | [a, b] => a ++ " or " ++ b
  | shown => "one of " ++ String.intercalate ", " shown

/-- The mistake in words. -/
def Mistake.message : Mistake → String
  | .missingField name => "missing field `" ++ name ++ "`"
  | .duplicateField name => "duplicate field `" ++ name ++ "`"
  | .unknownField name known => "unknown field `" ++ name ++ "`, expected " ++ choice known
  | .unknownVariant name known => "unknown variant `" ++ name ++ "`, expected " ++ choice known
  | .wrongType found expected => "invalid type: " ++ found.describe ++ ", expected " ++ expected
  | .wrongValue found expected => "invalid value: " ++ found.describe ++ ", expected " ++ expected
  | .wrongLength length expected =>
    "invalid length " ++ Text.Decimal.ofNat length ++ ", expected " ++ expected
  | .offsetOverflow => "overflow deserializing SystemTime epoch offset"
  | .instantOverflow => "overflow deserializing SystemTime"

/-- What a value is, to a reader that wanted another. -/
def found : Json → Found
  | .null => .null
  | .boolean b => .boolean b
  | .number n => .number n
  | .text s => .text s
  | .array _ => .sequence
  | .object _ => .map

/-- A value in the place of something else. -/
def mismatch {α : Type} (j : Json) (expected : String) : Except Mistake α :=
  .error (.wrongType (found j) expected)

/-- A reader of values fails with faults of form only. -/
def ofForm {α : Type} (r : Except Fault α) : Except ReadError α := r.mapError .form

/-- A conversion fails with mistakes of content only. -/
def ofContent {α : Type} (r : Except Mistake α) : Except ReadError α := r.mapError .content

/-- A node in the place of something else. Literals, numbers and texts are read to the end before
they are found to be of the wrong type; of arrays and objects the bracket is enough. -/
def mismatchNode {α : Type} (n : Node) (expected : String) : Except ReadError α :=
  let wrong (f : Found) : Except ReadError α := .error (.content (.wrongType f expected))
  match n with
  | .null => wrong .null
  | .boolean b => wrong (.boolean b)
  | .number n => do
    let v ← ofForm (Node.readNumber n)
    wrong (.number v)
  | .text units => do
    let s ← ofForm (Json.readText units)
    wrong (.text s)
  | .array _ _ => wrong .sequence
  | .object _ _ => wrong .map
  | .broken b => .error (.form b.fault)

end AgentPulse.Record
