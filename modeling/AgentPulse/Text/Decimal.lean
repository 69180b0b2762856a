/-!
# Natural numbers in decimal

`digits` writes a number, `value` reads a run of digits, and `word?` reads the one form of number
that settings are given in: an optional plus sign, then digits, below 2^64.
-/

namespace AgentPulse.Text.Decimal

/-- The first number that a 64-bit word cannot hold. -/
def wordLimit : Nat := UInt64.size

/-- The decimal digits of a number, most significant first. -/
def digits (n : Nat) : List Char := Nat.toDigits 10 n

/-- A number in decimal. -/
def ofNat (n : Nat) : String := String.ofList (digits n)

/-- An integer in decimal, with a minus sign when it is negative. -/
def ofInt : Int → String
  | .ofNat n => ofNat n
  | .negSucc n => "-" ++ ofNat (n + 1)

/-- The number that one ASCII digit stands for. -/
def digitValue (c : Char) : Nat := c.toNat - '0'.toNat

/-- The number that a run of digits stands for. -/
def value (cs : List Char) : Nat := cs.foldl (fun n c => 10 * n + digitValue c) 0

/-- The part of a number's text after an optional plus sign. -/
def afterPlus : List Char → List Char
  | '+' :: rest => rest
  | cs => cs

/-- An unsigned 64-bit number: an optional `+`, one or more ASCII digits, nothing else. Leading
zeros are allowed and only the value is bounded. -/
def word? (s : String) : Option Nat :=
  let cs := afterPlus s.toList
  if cs ≠ [] ∧ cs.all Char.isDigit ∧ value cs < wordLimit then some (value cs) else none

end AgentPulse.Text.Decimal
