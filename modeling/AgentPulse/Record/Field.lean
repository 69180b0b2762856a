import AgentPulse.Record.Mistake

/-!
# Fields

A `Field` is a kind of value that a record can hold, with the two ways to read it: from a JSON
value, and from a node of a document in which the given number of levels is left for nesting.
-/

namespace AgentPulse.Record

open Json (Node Break)

/-- A kind of value, and how it is read. -/
structure Field (τ : Type) where
  ofJson : Json → Except Mistake τ
  ofNode : Nat → Node → Except ReadError τ

namespace Field

/-- A text. -/
def text : Field String where
  ofJson
    | .text s => .ok s
    | j => mismatch j "a string"
  ofNode _
    | .text units => ofForm (Json.readText units)
    | n => mismatchNode n "a string"

/-- A natural number below a limit, of a type that goes by the given name. -/
def wordOfNumber (limit : Nat) (typeName : String) (n : Number) : Except Mistake Nat :=
  match n with
  | .integer i =>
    if 0 ≤ i ∧ i < limit then .ok i.toNat else .error (.wrongValue (.number n) typeName)
  | .double _ => .error (.wrongType (.number n) typeName)

/-- A natural number below a limit, of a type that goes by the given name. -/
def word (limit : Nat) (typeName : String) : Field Nat where
  ofJson
    | .number n => wordOfNumber limit typeName n
    | j => mismatch j typeName
  ofNode _
    | .number n => do
      let v ← ofForm (Node.readNumber n)
      ofContent (wordOfNumber limit typeName v)
    | n => mismatchNode n typeName

/-- Texts, one after the other. -/
def textsOfNodes : List Node → Option Break → Except ReadError (List String)
  | [], ending => do
    ofForm (Json.checkEnd ending)
    return []
  | n :: rest, ending => do
    let s ← text.ofNode 0 n
    let ss ← textsOfNodes rest ending
    return s :: ss

/-- A list of texts. -/
def texts : Field (List String) where
  ofJson
    | .array items => items.mapM text.ofJson
    | j => mismatch j "a sequence"
  ofNode levels
    | .array items ending => do
      let _ ← ofForm (Node.descend levels)
      textsOfNodes items ending
    | n => mismatchNode n "a sequence"

/-- Members whose values are texts, added to those already read. -/
def textMapOfMembers : List (String × Json) → Dict String → Except Mistake (Dict String)
  | [], d => .ok d
  | (name, j) :: rest, d => do
    let s ← text.ofJson j
    textMapOfMembers rest (d.insert name s)

/-- Members whose values are texts, added to those already read. -/
def textMapOfNodes :
    List (Node × Node) → Option Break → Dict String → Except ReadError (Dict String)
  | [], ending, d => do
    ofForm (Json.checkEnd ending)
    return d
  | (name, n) :: rest, ending, d => do
    let key ← ofForm name.readName
    let s ← text.ofNode 0 n
    textMapOfNodes rest ending (d.insert key s)

/-- Texts under names. Under a repeated name the last one stays. -/
def textMap : Field (Dict String) where
  ofJson
    | .object members => textMapOfMembers members Dict.empty
    | j => mismatch j "a map"
  ofNode levels
    | .object members ending => do
      let _ ← ofForm (Node.descend levels)
      textMapOfNodes members ending Dict.empty
    | n => mismatchNode n "a map"

/-- Values of any kind under names. Under a repeated name the last one stays. -/
def jsonMap : Field (Dict Json) where
  ofJson
    | .object members => .ok (Dict.ofList members)
    | j => mismatch j "a map"
  ofNode levels
    | .object members ending => do
      let levels ← ofForm (Node.descend levels)
      ofForm (Node.readMembers levels members ending Dict.empty)
    | n => mismatchNode n "a map"

end Field

end AgentPulse.Record
