import AgentPulse.Shell.Script
import AgentPulse.Text.Decimal

/-!
# Integers in text

An integer is read off the front of a text, behind blanks and with an optional sign. The base is
given, or it follows from the first digits: 16 behind `0x`, 8 behind `0`, else 10. Numbers beyond
the range of 64 bits become its ends, and are marked.
-/

namespace AgentPulse.Shell

/-- Whether a character is white space. -/
def isSpace (c : Char) : Bool := c == ' ' || ('\t' ≤ c && c ≤ '\r')

/-- The number that a digit stands for in a base. -/
def digitIn? (base : Nat) (c : Char) : Option Nat :=
  let n :=
    if c.isDigit then c.toNat - '0'.toNat
    else if 'a' ≤ c ∧ c ≤ 'z' then c.toNat - 'a'.toNat + 10
    else if 'A' ≤ c ∧ c ≤ 'Z' then c.toNat - 'A'.toNat + 10
    else base
  if n < base then some n else none

/-- The number at the front of a text in a base, and what follows it, if there are digits. -/
def magnitudeIn? (base : Nat) (cs : Raw) : Option (Nat × Raw) :=
  let ds := cs.takeWhile fun c => (digitIn? base c).isSome
  if ds.isEmpty then none
  else some (ds.foldl (fun n c => base * n + (digitIn? base c).getD 0) 0, cs.drop ds.length)

/-- The base of a number. -/
inductive Base where
  | decimal
  /-- The base follows from the first digits. -/
  | marked
  deriving DecidableEq, Repr

/-- The number without a sign at the front of a text, and what follows it, if there is one. -/
def magnitude? (base : Base) (cs : Raw) : Option (Nat × Raw) :=
  match base, cs with
  | .marked, '0' :: x :: rest =>
    match (if x = 'x' ∨ x = 'X' then magnitudeIn? 16 rest else none) with
    | some r => some r
    | none => magnitudeIn? 8 cs
  | _, _ => magnitudeIn? 10 cs

/-- What was read off the front of a text. -/
structure Scanned where
  value : Int
  rest : Raw
  /-- Whether the number was beyond the range. -/
  isOver : Bool := false
  deriving Repr

/-- A text behind its blanks and its sign, and whether the sign was a minus. -/
def signed (cs : Raw) : Bool × Raw :=
  match cs.dropWhile isSpace with
  | '-' :: rest => (true, rest)
  | '+' :: rest => (false, rest)
  | rest => (false, rest)

/-- The greatest number of 64 bits with a sign. -/
def greatest : Int := Int64.maxValue.toInt

/-- The least one. -/
def least : Int := Int64.minValue.toInt

/-- The integer at the front of a text. Where there is none, it counts as zero and nothing is read
off. -/
def scanInteger (base : Base) (cs : Raw) : Scanned :=
  let (isNegative, digits) := signed cs
  match magnitude? base digits with
  | none => ⟨0, cs, false⟩
  | some (n, rest) =>
    let value : Int := if isNegative then -n else n
    if value < least then ⟨least, rest, true⟩
    else if greatest < value then ⟨greatest, rest, true⟩
    else ⟨value, rest, false⟩

/-- The integer of 64 bits without a sign at the front of a text. Behind a minus sign it is counted
from the far end. -/
def scanWord (base : Base) (cs : Raw) : Scanned :=
  let (isNegative, digits) := signed cs
  match magnitude? base digits with
  | none => ⟨0, cs, false⟩
  | some (n, rest) =>
    if UInt64.size ≤ n then ⟨(UInt64.size : Int) - 1, rest, true⟩
    else ⟨if isNegative && n != 0 then (UInt64.size : Int) - n else n, rest, false⟩

/-- The integer that a text is, blanks around it apart. A blank text is zero where the base is
marked, else it is none. -/
def integer? (base : Base) (cs : Raw) : Option Int :=
  let r := scanInteger base cs
  if r.isOver || !r.rest.all isSpace then none
  else if base == .decimal && r.rest.length == cs.length then none
  else some r.value

/-- The greatest count that may be given to a command. -/
def greatestCount : Int := Int32.maxValue.toInt

/-- The count that a text is. -/
def count? (cs : Raw) : Option Nat :=
  match integer? .decimal cs with
  | some n => if 0 ≤ n ∧ n ≤ greatestCount then some n.toNat else none
  | none => none

end AgentPulse.Shell
