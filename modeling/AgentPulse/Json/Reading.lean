import AgentPulse.Json.Document
import AgentPulse.Dict

/-!
# Reading values off a document

`Node.read` turns a node into a value: unpaired surrogates, infinite numbers and too deep nesting
are mistakes of form. `Node.skip` only makes sure that a node is whole; it looks at no text and no
number more closely and bounds no nesting.
-/

namespace AgentPulse.Json

/-- The mistake that a reader of a value meets at a break. -/
def Break.fault : Break → Fault
  | .atEnd | .cutWord | .cutNumber => .truncated
  | .openText units fault => readOpenText units fault
  | .misplaced => .malformed

/-- The mistake met at a break by a reader that passes over the value. -/
def Break.skipFault : Break → Fault
  | .atEnd | .cutWord => .truncated
  | .openText _ fault => fault
  | .cutNumber | .misplaced => .malformed

/-- The mistake met at a break where only something in quotes will do. -/
def Break.nameFault : Break → Fault
  | .atEnd => .truncated
  | .openText units fault => readOpenText units fault
  | .cutWord | .cutNumber | .misplaced => .malformed

/-- The end of an array or object: nothing, or the mistake that stands in the place of its
bracket. -/
def checkEnd : Option Break → Except Fault Unit
  | none => .ok ()
  | some b => .error b.fault

namespace Node

/-- The name that a node spells. -/
def readName : Node → Except Fault String
  | .text units => readText units
  | .broken b => .error b.nameFault
  | _ => .error .malformed

/-- Make sure that something in quotes stands in the place of a name. -/
def skipName : Node → Except Fault Unit
  | .text _ => .ok ()
  | .broken (.openText _ fault) => .error fault
  | .broken .atEnd => .error .truncated
  | _ => .error .malformed

/-- The number that a numeral stands for. -/
def readNumber (n : Numeral) : Except Fault Number :=
  match n.number? with
  | some value => .ok value
  | none => .error .malformed

mutual
/-- Make sure that a node is whole. -/
def skip : Node → Except Fault Unit
  | .array items ending => skipItems items ending
  | .object members ending => skipMembers members ending
  | .broken b => .error b.skipFault
  | _ => .ok ()
  termination_by structural n => n

/-- Make sure that an array is whole. -/
def skipItems : List Node → Option Break → Except Fault Unit
  | [], ending => checkEnd ending
  | n :: rest, ending => do
    skip n
    skipItems rest ending
  termination_by structural items => items

/-- Make sure that an object is whole. -/
def skipMembers : List (Node × Node) → Option Break → Except Fault Unit
  | [], ending => checkEnd ending
  | (name, n) :: rest, ending => do
    name.skipName
    skip n
    skipMembers rest ending
  termination_by structural members => members
end

/-- Go one level deeper, if any are left. -/
def descend : Nat → Except Fault Nat
  | 0 => .error .malformed
  | levels + 1 => .ok levels

mutual
/-- The value of a node in which arrays and objects nest at most the given number of levels. Under
a repeated name the last value stays. -/
def read (levels : Nat) : Node → Except Fault Json
  | .null => .ok .null
  | .boolean b => .ok (.boolean b)
  | .number n => (readNumber n).map .number
  | .text units => (readText units).map .text
  | .array items ending => do
    let levels ← descend levels
    (readItems levels items ending).map .array
  | .object members ending => do
    let levels ← descend levels
    (readMembers levels members ending Dict.empty).map fun d => .object d.entries
  | .broken b => .error b.fault
  termination_by structural n => n

/-- The values of the items of an array. -/
def readItems (levels : Nat) : List Node → Option Break → Except Fault (List Json)
  | [], ending => (checkEnd ending).map fun _ => []
  | n :: rest, ending => do
    let j ← read levels n
    (readItems levels rest ending).map (j :: ·)
  termination_by structural items => items

/-- The values of the members of an object, added to those already read. -/
def readMembers (levels : Nat) :
    List (Node × Node) → Option Break → Dict Json → Except Fault (Dict Json)
  | [], ending, d => (checkEnd ending).map fun _ => d
  | (name, n) :: rest, ending, d => do
    let key ← name.readName
    let j ← read levels n
    readMembers levels rest ending (d.insert key j)
  termination_by structural members => members
end

end Node

/-- How deep arrays and objects may nest in text that is read. -/
def maxLevels : Nat := 127

/-- The value that a text consists of. -/
def parse (levels : Nat) (s : String) : Except Fault Json := do
  let doc := Document.ofText s
  let j ← doc.root.read levels
  if doc.trailing then .error .malformed else .ok j

end AgentPulse.Json
