import AgentPulse.Double.Basic

/-!
# JSON values

A number is an integer or a double, and the two never count as equal; a positive and a negative
zero do. An object lists its members in ascending order of their names, each name once; `Orderly`
says so for a value and all that it holds.
-/

namespace AgentPulse

/-- A JSON number. Integers lie between -2^63 and 2^64 - 1. -/
inductive Number where
  | integer (n : Int)
  | double (d : Double)
  deriving DecidableEq, Repr

/-- A JSON value. -/
inductive Json where
  | null
  | boolean (b : Bool)
  | number (n : Number)
  | text (s : String)
  | array (items : List Json)
  | object (members : List (String × Json))
  deriving Inhabited, Repr

/-- Numbers that count as equal. -/
def Number.same : Number → Number → Bool
  | .integer a, .integer b => a == b
  | .double a, .double b => a.same b
  | _, _ => false

/-- Whether an integer fits a signed or an unsigned 64-bit word. -/
def Number.isWord (n : Int) : Bool := Int64.minValue.toInt ≤ n && n < UInt64.size

namespace Json

mutual
/-- Values that count as equal: the same up to numbers that count as equal. -/
def same : Json → Json → Bool
  | .null, .null => true
  | .boolean a, .boolean b => a == b
  | .number a, .number b => a.same b
  | .text a, .text b => a == b
  | .array a, .array b => sameItems a b
  | .object a, .object b => sameMembers a b
  | _, _ => false
  termination_by structural j => j

/-- Lists whose values count as equal one by one. -/
def sameItems : List Json → List Json → Bool
  | [], [] => true
  | a :: as, b :: bs => same a b && sameItems as bs
  | _, _ => false
  termination_by structural items => items

/-- Members with the same names whose values count as equal one by one. -/
def sameMembers : List (String × Json) → List (String × Json) → Bool
  | [], [] => true
  | (k, a) :: as, (l, b) :: bs => k == l && same a b && sameMembers as bs
  | _, _ => false
  termination_by structural members => members
end

mutual
/-- Every object in the value lists its members in strictly ascending order of names. -/
def Orderly : Json → Prop
  | .array items => OrderlyItems items
  | .object members => members.Pairwise (fun a b => a.1 < b.1) ∧ OrderlyMembers members
  | _ => True
  termination_by structural j => j

/-- `Orderly` for each of some values. -/
def OrderlyItems : List Json → Prop
  | [] => True
  | j :: rest => Orderly j ∧ OrderlyItems rest
  termination_by structural items => items

/-- `Orderly` for the value of each of some members. -/
def OrderlyMembers : List (String × Json) → Prop
  | [] => True
  | (_, j) :: rest => Orderly j ∧ OrderlyMembers rest
  termination_by structural members => members
end

mutual
/-- How many arrays and objects lie around the innermost value. -/
def depth : Json → Nat
  | .array items => depthItems items + 1
  | .object members => depthMembers members + 1
  | _ => 0
  termination_by structural j => j

/-- The greatest depth of some values. -/
def depthItems : List Json → Nat
  | [] => 0
  | j :: rest => max (depth j) (depthItems rest)
  termination_by structural items => items

/-- The greatest depth of the values of some members. -/
def depthMembers : List (String × Json) → Nat
  | [] => 0
  | (_, j) :: rest => max (depth j) (depthMembers rest)
  termination_by structural members => members
end

/-- The value of a member of an object. -/
def member? (j : Json) (name : String) : Option Json :=
  match j with
  | .object members => (members.find? fun m => m.1 == name).map (·.2)
  | _ => none

end Json

end AgentPulse
