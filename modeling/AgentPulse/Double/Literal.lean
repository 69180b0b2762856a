import AgentPulse.Double.Basic
import AgentPulse.Text.Decimal

/-!
# Doubles in text

A double is read off the front of a text: in decimal with an optional point and exponent, in
hexadecimal behind `0x` with an exponent of two, or as one of the names of what is no finite number.
The nearest double is taken.
-/

namespace AgentPulse.Double

/-- A double that need not be finite. -/
inductive Extended where
  | finite (d : Double)
  | infinite (negative : Bool)
  | undefined (negative : Bool)
  deriving DecidableEq, Repr, Inhabited

/-- What was read off the front of a text. -/
structure Literal where
  value : Extended
  rest : List Char
  /-- Whether there is no double near the number. -/
  isOver : Bool := false
  deriving Repr

/-- The number that a hexadecimal digit stands for. -/
def hexDigit? (c : Char) : Option Nat :=
  if c.isDigit then some (c.toNat - '0'.toNat)
  else if 'a' ≤ c ∧ c ≤ 'f' then some (c.toNat - 'a'.toNat + 10)
  else if 'A' ≤ c ∧ c ≤ 'F' then some (c.toNat - 'A'.toNat + 10)
  else none

/-- Digits before and behind a point, and what follows them. -/
def spanDigits (p : Char → Bool) (cs : List Char) : List Char × List Char × List Char :=
  let whole := cs.takeWhile p
  match cs.drop whole.length with
  | '.' :: rest =>
    let places := rest.takeWhile p
    if whole.isEmpty && places.isEmpty then ([], [], cs)
    else (whole, places, rest.drop places.length)
  | rest => (whole, [], rest)

/-- An exponent behind one of two letters, and what follows it. It is zero where there is none. -/
def spanExponent (small large : Char) (cs : List Char) : Int × List Char :=
  match cs with
  | c :: rest =>
    if c = small ∨ c = large then
      let (negative, digits) := match rest with
        | '-' :: ds => (true, ds)
        | '+' :: ds => (false, ds)
        | ds => (false, ds)
      let ds := digits.takeWhile Char.isDigit
      if ds.isEmpty then (0, cs)
      else
        let n : Int := Text.Decimal.value ds
        (if negative then -n else n, digits.drop ds.length)
    else (0, cs)
  | [] => (0, [])

/-- No finite double has so many digits before the point in either base. -/
def hugeExponent : Int := 2000

/-- The double nearest to a number times a power, and whether none is near. -/
def nearest (negative : Bool) (n base : Nat) (exponent : Int) : Extended × Bool :=
  if n = 0 then (.finite (zero negative), false)
  else
    let size : Int := (Nat.toDigits base n).length + exponent
    if hugeExponent < size then (.infinite negative, true)
    else if size < -hugeExponent then (.finite (zero negative), true)
    else
      let (up, down) := power base exponent
      match ofFraction negative (n * up) down with
      | none => (.infinite negative, true)
      | some d =>
        let (num, den) := d.fraction
        let isExact := num * down == n * up * den
        (.finite d, d.significand < significandLimit / 2 && !isExact)

/-- Whether a text starts with a word in letters of either case. -/
def startsWith (word : String) (cs : List Char) : Bool :=
  word.toList.isPrefixOf (cs.map Char.toLower)

/-- The double at the front of a text, behind blanks and a sign, if there is one. -/
def literal? (text : List Char) : Option Literal :=
  let cs := text.dropWhile fun c => c == ' ' || ('\t' ≤ c && c ≤ '\r')
  let (negative, cs) := match cs with
    | '-' :: rest => (true, rest)
    | '+' :: rest => (false, rest)
    | rest => (false, rest)
  if startsWith "infinity" cs then some ⟨.infinite negative, cs.drop 8, false⟩
  else if startsWith "inf" cs then some ⟨.infinite negative, cs.drop 3, false⟩
  else if startsWith "nan" cs then some ⟨.undefined negative, cs.drop 3, false⟩
  else
    let isHex := startsWith "0x" cs &&
      match cs.drop 2 with
      | '.' :: c :: _ => (hexDigit? c).isSome
      | c :: _ => (hexDigit? c).isSome
      | [] => false
    if isHex then
      let (whole, places, rest) := spanDigits (fun c => (hexDigit? c).isSome) (cs.drop 2)
      let n := (whole ++ places).foldl (fun n c => 16 * n + (hexDigit? c).getD 0) 0
      let (exponent, rest) := spanExponent 'p' 'P' rest
      let (value, isOver) := nearest negative n 2 (exponent - 4 * places.length)
      some ⟨value, rest, isOver⟩
    else
      let (whole, places, rest) := spanDigits Char.isDigit cs
      if whole.isEmpty && places.isEmpty then none
      else
        let n := Text.Decimal.value (whole ++ places)
        let (exponent, rest) := spanExponent 'e' 'E' rest
        let (value, isOver) := nearest negative n 10 (exponent - places.length)
        some ⟨value, rest, isOver⟩

end AgentPulse.Double
