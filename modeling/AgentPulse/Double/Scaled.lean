import AgentPulse.Double.Basic
import AgentPulse.Text.Decimal

/-!
# Doubles read by scaling

A decimal number is read in two roundings. As many of its first digits as fit a 64-bit word are
rounded to a double, and that is multiplied with or divided by a power of ten, which is rounded too.
The result is the nearest double for up to 19 digits and a power of ten that is itself a double, and
may be one place off beyond that.
-/

namespace AgentPulse.Double

/-- Digits taken into a word, and how many were taken. -/
structure Word where
  value : Nat
  taken : Nat
  deriving DecidableEq, Repr

/-- Take digits into a word up to the first that does not fit. -/
def Word.take (w : Word) : List Char → Word
  | [] => w
  | c :: rest =>
    let value := 10 * w.value + Text.Decimal.digitValue c
    if value < Text.Decimal.wordLimit then Word.take ⟨value, w.taken + 1⟩ rest else w

/-- The largest power of ten that is scaled by at once. -/
def maxScale : Nat := 308

/-- The double nearest to a power of ten. -/
def tenTo (n : Nat) : Double := (ofNat? (Nat.pow 10 n)).getD (zero false)

/-- How often a word has to be divided by the largest power of ten until nothing is left. -/
def maxDivisions : Nat := 3

/-- Multiply with a power of ten, in several steps where it is too small for one. There is no result
where it would exceed every finite double. -/
def scale : Nat → Double → Int → Option Double
  | 0, d, _ => some (zero d.negative)
  | divisions + 1, d, exponent =>
    if d.significand = 0 then some d
    else if exponent.natAbs ≤ maxScale then
      if 0 ≤ exponent then d.times? (tenTo exponent.natAbs) else d.over? (tenTo exponent.natAbs)
    else if 0 ≤ exponent then none
    else do
      let d ← d.over? (tenTo maxScale)
      scale divisions d (exponent + maxScale)

/-- The double of a number with the given digits before and behind the point, times a power of ten.
Digits before the point that do not fit a word count by their place only, and those behind it do not
count. -/
def ofDigits (negative : Bool) (whole places : List Char) (exponent : Int) : Option Double := do
  let w := Word.take ⟨0, 0⟩ whole
  let skipped : Int := (whole.length - w.taken : Nat)
  let v := Word.take ⟨w.value, 0⟩ places
  let d ← ofNat? v.value
  let d ← scale maxDivisions d (skipped - v.taken + exponent)
  return d.withSign negative

end AgentPulse.Double
