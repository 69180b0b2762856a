import AgentPulse.Double.Literal

/-!
# Doubles as words of 64 bits

A double is a sign, eleven bits of exponent and fifty-two of significand. A double of full length
has one more bit in its significand, which is not written down.
-/

namespace AgentPulse.Double

/-- How many significands can be written down. -/
def writtenLimit : Nat := 1 <<< 52

/-- The exponent bits of what is no finite double. -/
def topExponent : Nat := 2047

namespace Extended

/-- The double of a word. -/
def ofWord (word : UInt64) : Extended :=
  let n := word.toNat
  let negative := n >>> 63 == 1
  let e := (n >>> 52) % (topExponent + 1)
  let m := n % writtenLimit
  if e = topExponent then if m = 0 then .infinite negative else .undefined negative
  else if e = 0 then .finite ⟨negative, m, minExponent⟩
  else .finite ⟨negative, m + writtenLimit, minExponent + (e - 1 : Nat)⟩

/-- The word of a double. -/
def toWord (d : Extended) : UInt64 :=
  let word (negative : Bool) (e m : Nat) : UInt64 :=
    UInt64.ofNat (((if negative then 1 else 0) <<< 63) + (e <<< 52) + m)
  match d with
  | .infinite negative => word negative topExponent 0
  | .undefined negative => word negative topExponent (writtenLimit / 2)
  | .finite d =>
    if d.significand < writtenLimit then word d.negative 0 d.significand
    else word d.negative ((d.exponent - minExponent).toNat + 1) (d.significand - writtenLimit)

/-- A number as the machine has it. -/
def ofFloat (x : Float) : Extended := ofWord x.toBits

/-- A number for the machine. -/
def toFloat (d : Extended) : Float := Float.ofBits d.toWord

end Extended

end AgentPulse.Double
