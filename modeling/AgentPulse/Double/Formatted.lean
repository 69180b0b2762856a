import AgentPulse.Double.Shortest

/-!
# Doubles with a given number of digits

A double is written in one of four forms: with so many places behind the point, with one digit
before the point and an exponent of ten, in the more readable of these two, or in hexadecimal with
an exponent of two. Digits are rounded to the nearest, a half going to the even one. Signs are not
written here.
-/

namespace AgentPulse.Double

/-- How a double is to be written. -/
structure Form where
  /-- How many places there are behind the point, where that is given. -/
  precision : Option Nat := none
  /-- Whether there is a point even if nothing follows it, and zeros are kept. -/
  keepsPoint : Bool := false
  deriving Repr, Inhabited

/-- The places that there are where nothing is said about them. -/
def usualPlaces : Nat := 6

/-- Digits with a point behind the first ones. -/
def pointed (keepsPoint : Bool) (whole places : List Char) : List Char :=
  if places.isEmpty then if keepsPoint then whole ++ ['.'] else whole
  else whole ++ '.' :: places

/-- A double with so many places behind the point. -/
def fixedText (keepsPoint : Bool) (places : Nat) (d : Double) : List Char :=
  let (num, den) := d.fraction
  let ds := Text.Decimal.digits (roundQuotient (num * Nat.pow 10 places) den)
  let ds := List.replicate (places + 1 - ds.length) '0' ++ ds
  pointed keepsPoint (ds.take (ds.length - places)) (ds.drop (ds.length - places))

/-- The first digits of a double, one more than there are places, and the exponent of the first. -/
def leading (places : Nat) (d : Double) : List Char × Int :=
  if d.significand = 0 then (List.replicate (places + 1) '0', 0)
  else
    let (num, den) := d.fraction
    let e := decimalExponent num den
    let (up, down) := power 10 ((places : Int) - e)
    let n := roundQuotient (num * up) (den * down)
    if Nat.pow 10 (places + 1) ≤ n then (Text.Decimal.digits (n / 10), e + 1)
    else (Text.Decimal.digits n, e)

/-- An exponent with its letter and sign, in so many digits at least. -/
def exponentText (letter : Char) (width : Nat) (e : Int) : List Char :=
  let ds := Text.Decimal.digits e.natAbs
  letter :: (if e < 0 then '-' else '+') :: List.replicate (width - ds.length) '0' ++ ds

/-- Drop zeros at the end. -/
def withoutZeros (cs : List Char) : List Char := (cs.reverse.dropWhile (· == '0')).reverse

/-- A double with one digit before the point and an exponent. -/
def exponentialText (keepsPoint : Bool) (places : Nat) (d : Double) : List Char :=
  let (ds, e) := leading places d
  pointed keepsPoint (ds.take 1) (ds.drop 1) ++ exponentText 'e' 2 e

/-- A double with so many digits that count, without an exponent where that is small. -/
def generalText (keepsPoint : Bool) (digits : Nat) (d : Double) : List Char :=
  let digits := max digits 1
  let (ds, e) := leading (digits - 1) d
  if e < -4 ∨ (digits : Int) ≤ e then
    let places := if keepsPoint then ds.drop 1 else withoutZeros (ds.drop 1)
    pointed keepsPoint (ds.take 1) places ++ exponentText 'e' 2 e
  else
    let text := fixedText true ((digits : Int) - 1 - e).toNat d
    if keepsPoint then text
    else
      let whole := text.takeWhile (· != '.')
      pointed false whole (withoutZeros (text.drop (whole.length + 1)))

/-- How many hexadecimal digits there are behind the point. -/
def hexPlaces : Nat := 13

/-- A double in hexadecimal. -/
def hexText (form : Form) (d : Double) : List Char :=
  let half := significandLimit / 2
  let e : Int := if d.significand = 0 then 0 else d.exponent + 52
  let e := if d.significand < half ∧ d.significand ≠ 0 then -1022 else e
  let places := form.precision.getD hexPlaces
  let n := roundQuotient (d.significand * Nat.pow 16 places) (Nat.pow 16 hexPlaces)
  let ds := Nat.toDigits 16 n
  let ds := List.replicate (places + 1 - ds.length) '0' ++ ds
  let behind := ds.drop (ds.length - places)
  let behind := if form.precision.isNone then withoutZeros behind else behind
  '0' :: 'x' :: pointed form.keepsPoint (ds.take (ds.length - places)) behind ++
    exponentText 'p' 1 e

/-- A double in the form that a letter stands for. -/
def formatted (letter : Char) (form : Form) (d : Double) : List Char :=
  let places := form.precision.getD usualPlaces
  match letter with
  | 'e' => exponentialText form.keepsPoint places d
  | 'g' => generalText form.keepsPoint places d
  | 'a' => hexText form d
  | _ => fixedText form.keepsPoint places d

end AgentPulse.Double
