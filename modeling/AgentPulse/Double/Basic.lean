/-!
# Binary floating-point numbers of 64 bits

A finite double is a sign, a significand below 2^53 and an exponent of two from -1074 to 971. The
module rounds a fraction of natural numbers to the nearest double, ties going to the even
significand, and products and quotients of doubles likewise.
-/

namespace AgentPulse

/-- A finite double: `significand · 2^exponent`, negated when `negative`. -/
structure Double where
  negative : Bool
  significand : Nat
  exponent : Int
  deriving DecidableEq, Repr, Inhabited

namespace Double

/-- The least exponent. -/
def minExponent : Int := -1074

/-- The greatest exponent. -/
def maxExponent : Int := 971

/-- How many significands there are. -/
def significandLimit : Nat := 1 <<< 53

/-- Zero, with a sign. -/
def zero (negative : Bool) : Double := ⟨negative, 0, minExponent⟩

/-- Doubles that count as the same number: equal, or both zero. -/
def same (a b : Double) : Bool :=
  a == b || (a.significand == 0 && b.significand == 0)

/-- `b` to an integer power, as a fraction. -/
def power (b : Nat) : Int → Nat × Nat
  | .ofNat n => (Nat.pow b n, 1)
  | .negSucc n => (1, Nat.pow b (n + 1))

/-- A quotient rounded to the nearest natural number, a half to the even one. -/
def roundQuotient (num den : Nat) : Nat :=
  let q := num / den
  let r := num % den
  if den < 2 * r ∨ (den = 2 * r ∧ q % 2 = 1) then q + 1 else q

/-- The exponent of two at which a positive fraction has a significand of 53 bits, or the least
exponent where it has fewer. -/
def exponentOf (num den : Nat) : Int :=
  let e : Int := Nat.log2 num - Nat.log2 den
  let (up, down) := power 2 e
  max minExponent (if num * down < den * up then e - 53 else e - 52)

/-- The double nearest to a fraction, or none where that exceeds every finite one. -/
def ofFraction (negative : Bool) (num den : Nat) : Option Double :=
  if num = 0 then some (zero negative)
  else
    let e := exponentOf num den
    let (up, down) := power 2 e
    let m := roundQuotient (num * down) (den * up)
    let d : Double :=
      if m = significandLimit then ⟨negative, m / 2, e + 1⟩ else ⟨negative, m, e⟩
    if d.exponent ≤ maxExponent then some d else none

/-- The double nearest to a natural number. Those below 2^1024 all have one. -/
def ofNat? (n : Nat) : Option Double := ofFraction false n 1

/-- A double without its sign, as a fraction. -/
def fraction (d : Double) : Nat × Nat :=
  let (up, down) := power 2 d.exponent
  (d.significand * up, down)

/-- The double nearest to a product, or none where that exceeds every finite one. -/
def times? (a b : Double) : Option Double :=
  let (n, d) := a.fraction
  let (m, e) := b.fraction
  ofFraction (a.negative != b.negative) (n * m) (d * e)

/-- The double nearest to a quotient, or none where that exceeds every finite one. -/
def over? (a b : Double) : Option Double :=
  let (n, d) := a.fraction
  let (m, e) := b.fraction
  ofFraction (a.negative != b.negative) (n * e) (d * m)

/-- The same double with a sign. -/
def withSign (d : Double) (negative : Bool) : Double := { d with negative }

end Double

end AgentPulse
