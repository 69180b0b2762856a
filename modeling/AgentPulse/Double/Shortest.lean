import AgentPulse.Double.Basic
import AgentPulse.Text.Decimal

/-!
# Doubles in decimal

A double is written with the fewest significant digits that read back as the same double, and with
the nearest such digits where there are several; of two equally near ones the even one. `Layout`
says where the point and the exponent go.
-/

namespace AgentPulse.Double

/-- Significant digits, as a natural number without trailing zeros, and the decimal exponent of
the first of them. -/
structure Digits where
  significand : Nat
  exponent : Int
  deriving DecidableEq, Repr

/-- The decimal exponent of a positive fraction: the greatest power of ten that it reaches. -/
def decimalExponent (num den : Nat) : Int :=
  if den ≤ num then (Nat.toDigits 10 (num / den)).length - 1
  else -((Nat.toDigits 10 ((num - 1 + den) / num - 1)).length : Int)

/-- Whether a positive double is the nearest one to `x` grid steps, where the double itself is
`num / den` steps. Below the least significand of an exponent the neighbour is half as far. The
bounds themselves round to the double when its significand is even. -/
def readsBack (d : Double) (num den x : Nat) : Bool :=
  let m := 4 * d.significand
  let below := if d.significand = significandLimit / 2 ∧ minExponent < d.exponent then 1 else 2
  let low := num * (m - below)
  let here := m * den * x
  let high := num * (m + 2)
  if d.significand % 2 = 0 then low ≤ here && here ≤ high else low < here && here < high

/-- Of two neighbouring grid points around `num / den`, the nearer, or the even one. -/
def nearer (num den x : Nat) : Nat := if roundQuotient num den = x then x else x + 1

/-- The grid point of a decimal exponent that reads back as the double, if there is one. -/
def onGrid (d : Double) (k : Int) : Option Nat :=
  let (num, den) := d.fraction
  let (up, down) := power 10 k
  let num := num * down
  let den := den * up
  let x := num / den
  match readsBack d num den x, readsBack d num den (x + 1) with
  | true, true => some (nearer num den x)
  | true, false => some x
  | false, true => some (x + 1)
  | false, false => none

/-- Drop trailing zeros, at most as many as the fuel allows. -/
def dropZeros : Nat → Nat → Nat
  | 0, n => n
  | fuel + 1, n => if n % 10 = 0 ∧ n ≠ 0 then dropZeros fuel (n / 10) else n

/-- The most digits that a double needs. -/
def maxDigits : Nat := 17

/-- The digits of a positive double: the coarsest grid with a point that reads back. -/
def shortest (d : Double) : Digits :=
  let (num, den) := d.fraction
  let e := decimalExponent num den
  let found := (List.range maxDigits).findSome? fun (n : Nat) =>
    let k := e - n
    (onGrid d k).map fun x => (x, k)
  let (x, k) := found.getD (num / den, 0)
  ⟨dropZeros (maxDigits + 1) x, k + (Nat.toDigits 10 x).length - 1⟩

/-- How digits are laid out around the point. -/
structure Layout where
  /-- Decimal exponents from here … -/
  plainFrom : Int
  /-- … and below here are written without an exponent. -/
  plainBelow : Int
  /-- Whether a whole number written without an exponent ends in `.0`. -/
  pointZero : Bool

/-- Digits without an exponent. -/
def plain (pointZero : Bool) (digits : List Char) (exponent : Int) : List Char :=
  if exponent < 0 then
    '0' :: '.' :: List.replicate (-exponent - 1).toNat '0' ++ digits
  else
    let whole := exponent.toNat + 1
    if digits.length ≤ whole then
      digits ++ List.replicate (whole - digits.length) '0' ++ if pointZero then ['.', '0'] else []
    else digits.take whole ++ '.' :: digits.drop whole

/-- Digits with one before the point and a signed exponent. -/
def scientific (digits : List Char) (exponent : Int) : List Char :=
  let mantissa := match digits with
    | [] => ['0']
    | [d] => [d]
    | d :: rest => d :: '.' :: rest
  let sign := if exponent < 0 then ['-'] else ['+']
  mantissa ++ 'e' :: sign ++ Text.Decimal.digits exponent.natAbs

/-- A double in decimal. -/
def render (layout : Layout) (d : Double) : List Char :=
  let sign := if d.negative then ['-'] else []
  if d.significand = 0 then sign ++ '0' :: if layout.pointZero then ['.', '0'] else []
  else
    let s := d.shortest
    let digits := Text.Decimal.digits s.significand
    sign ++
      if layout.plainFrom ≤ s.exponent ∧ s.exponent < layout.plainBelow then
        plain layout.pointZero digits s.exponent
      else scientific digits s.exponent

end AgentPulse.Double
