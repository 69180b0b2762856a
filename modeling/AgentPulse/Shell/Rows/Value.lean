import AgentPulse.Dict
import AgentPulse.Shell.Printing
import AgentPulse.Shell.Rows.Token

/-!
# Values in scripts for rows

A value is a number or a text. Text that was read is both if it looks like a number: it is compared
with numbers as a number.
-/

namespace AgentPulse.Shell.Rows

/-- A value. -/
inductive Value where
  | unset
  | number (x : Float)
  | text (cs : Raw)
  /-- Text that was read. -/
  | input (cs : Raw)
  deriving Inhabited

/-- A number for the truth of something. -/
def truth (b : Bool) : Value := .number (if b then 1 else 0)

/-- A natural number. -/
def count (n : Nat) : Value := .number n.toFloat

/-- A number without what is behind its point. -/
def whole (x : Float) : Float := if x < 0 then x.ceil else x.floor

/-- The integer of a number that has nothing behind its point and is not too large. -/
def integer? (x : Float) : Option Int :=
  match Double.Extended.ofFloat x with
  | .finite d =>
    let (n, den) := d.fraction
    if n % den = 0 ∧ n / den < Int64.maxValue.toInt.toNat then
      some (if d.negative then -(n / den : Nat) else (n / den : Nat))
    else none
  | _ => none

/-- The natural number of a number; none below zero. -/
def natural (x : Float) : Nat := ((integer? (whole x)).getD 0).toNat

/-- The number that a text is as a whole, if it is one. -/
def wholeNumber? (cs : Raw) : Option Float :=
  match leadingNumber cs with
  | some (x, rest) => if rest.all isSpace then some x else none
  | none => none

/-! ## Formats -/

/-- A number laid out by a conversion. -/
def layNumber (f : Field) (conversion : Char) (x : Float) : Raw :=
  if "diouxXc".contains conversion then
    let bound := if x < 0 then Int64.minValue.toInt else Int64.maxValue.toInt
    let n := (integer? (whole x)).getD bound
    if conversion = 'd' ∨ conversion = 'i' then
      f.padInteger (f.sign (n < 0)) (Nat.toDigits 10 n.natAbs)
    else f.layWord conversion (n % UInt64.size).toNat
  else if x.isNaN then f.layDouble conversion (.undefined true)
  else f.layDouble conversion (Double.Extended.ofFloat x)

/-- The field of a format behind its percent sign, what follows it, and the arguments that are
left, of which stars have taken some. -/
def readField (cs : Raw) (args : List Value) (numberOf : Value → Float) :
    Field × Raw × List Value :=
  let (f, cs) := readFlags {} cs
  let size (cs : Raw) (args : List Value) : Option Int × Raw × List Value :=
    match cs, args with
    | '*' :: rest, a :: more => (integer? (whole (numberOf a)), rest, more)
    | '*' :: rest, [] => (none, rest, [])
    | cs, args =>
      let ds := cs.takeWhile Char.isDigit
      (if ds.isEmpty then none else some (Text.Decimal.value ds), cs.drop ds.length, args)
  let (width, cs, args) := size cs args
  let f := match width with
    | some n => { f with width := n.natAbs, left := f.left || decide (n < 0) }
    | none => f
  match cs with
  | '.' :: rest =>
    let (precision, rest, args) := size rest args
    ({ f with precision := some (precision.getD 0).toNat }, rest, args)
  | cs => (f, cs, args)

namespace Value

/-- The number of a value. -/
def toNumber : Value → Float
  | .unset => 0
  | .number x => x
  | .text cs | .input cs => ((leadingNumber cs).map (·.1)).getD 0

/-- The number that a value counts as where numbers are compared. -/
def number? : Value → Option Float
  | .unset => some 0
  | .number x => some x
  | .text _ => none
  | .input cs => wholeNumber? cs

/-- Whether a value counts as true. -/
def holds : Value → Bool
  | .unset => false
  | .number x => x != 0
  | .text cs => !cs.isEmpty
  | .input cs => match wholeNumber? cs with
    | some x => x != 0
    | none => !cs.isEmpty

/-- The text of a number, in a format where it is no integer. -/
def textOf (format : Raw) (x : Float) : Raw :=
  match integer? x with
  | some n => raw (Text.Decimal.ofInt n)
  | none =>
    match format with
    | '%' :: rest =>
      let (f, rest, _) := readField rest [] toNumber
      match rest with
      | c :: after => layNumber f c x ++ after
      | [] => []
    | _ => layNumber {} 'g' x

/-- The text of a value. -/
def toText (format : Raw) : Value → Raw
  | .unset => []
  | .number x => textOf format x
  | .text cs | .input cs => cs

/-- How two values are ordered. -/
def compare (format : Raw) (r : Relation) (a b : Value) : Bool :=
  match a.number?, b.number? with
  | some x, some y =>
    match r with
    | .less => x < y
    | .atMost => x ≤ y
    | .same => x == y
    | .other => x != y
    | .atLeast => y ≤ x
    | .more => y < x
  | _, _ =>
    let x := String.ofList (a.toText format)
    let y := String.ofList (b.toText format)
    match r with
    | .less => x < y
    | .atMost => !decide (y < x)
    | .same => x == y
    | .other => x != y
    | .atLeast => !decide (x < y)
    | .more => y < x

end Value

/-- A format filled with values. -/
def filled (convFormat : Raw) : Nat → Raw → List Value → List Raw
  | 0, _, _ => []
  | fuel + 1, format, args =>
    match format with
    | [] => []
    | '%' :: '%' :: rest => ['%'] :: filled convFormat fuel rest args
    | '%' :: rest =>
      let (f, after, args) := readField rest args Value.toNumber
      let after := after.dropWhile fun c => c == 'l' || c == 'h'
      match after with
      | [] => ['%' :: rest]
      | c :: after =>
        let value := args.headD .unset
        let pad (cs : Raw) : Raw :=
          f.pad (match f.precision with
            | some p => cs.take p
            | none => cs)
        let laid : Option Raw :=
          if "diouxXeEfFgGaA".contains c then some (layNumber f c value.toNumber)
          else if c = 's' then some (pad (value.toText convFormat))
          else if c = 'c' then
            match value with
            | .number x => some ({ f with precision := none }.pad [Char.ofNat (natural x % 256)])
            | v => some (f.pad ((v.toText convFormat).take 1))
          else none
        match laid with
        | some cs => cs :: filled convFormat fuel after (args.drop 1)
        | none => ('%' :: rest.take (rest.length - after.length)) ::
            filled convFormat fuel after args
    | c :: rest =>
      let plain := (c :: rest).takeWhile (· != '%')
      plain :: filled convFormat fuel ((c :: rest).drop plain.length) args

/-- A format filled with values. -/
def formatted (convFormat format : Raw) (args : List Value) : Raw :=
  (filled convFormat (format.length + 1) format args).flatten

end AgentPulse.Shell.Rows
