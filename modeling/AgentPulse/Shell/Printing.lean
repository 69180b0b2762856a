import AgentPulse.Double.Formatted
import AgentPulse.Double.Literal
import AgentPulse.Shell.Escape
import AgentPulse.Shell.Number

/-!
# Printing

A format is filled with arguments, over and over until none are left. A field of the format says how
one argument is laid out: as text, as an integer, or as a double.
-/

namespace AgentPulse.Shell

/-- How one argument is laid out. -/
structure Field where
  left : Bool := false
  zeros : Bool := false
  plus : Bool := false
  space : Bool := false
  alternate : Bool := false
  width : Nat := 0
  precision : Option Nat := none
  deriving Repr, Inhabited

namespace Field

/-- Fill up to the width with blanks. -/
def pad (f : Field) (text : Raw) : Raw :=
  let fill := List.replicate (f.width - text.length) ' '
  if f.left then text ++ fill else fill ++ text

/-- A number with its sign, filled up with blanks, or with zeros behind the sign. -/
def padSigned (f : Field) (zeros : Bool) (sign digits : Raw) : Raw :=
  if zeros && !f.left then
    sign ++ List.replicate (f.width - sign.length - digits.length) '0' ++ digits
  else f.pad (sign ++ digits)

/-- An integer with its sign, with as many digits as the precision asks for at least. -/
def padInteger (f : Field) (sign digits : Raw) : Raw :=
  match f.precision with
  | none => f.padSigned f.zeros sign digits
  | some p =>
    let digits := if p = 0 ∧ digits = ['0'] then [] else digits
    f.padSigned false sign (List.replicate (p - digits.length) '0' ++ digits)

/-- The sign of a number. -/
def sign (f : Field) (isNegative : Bool) : Raw :=
  if isNegative then ['-'] else if f.plus then ['+'] else if f.space then [' '] else []

/-- An integer without a sign in a base. -/
def layWord (f : Field) (conversion : Char) (n : Nat) : Raw :=
  match conversion with
  | 'o' =>
    let ds := Nat.toDigits 8 n
    if f.alternate && n = 0 then { f with precision := f.precision.map (max 1) }.padInteger [] ds
    else f.padInteger [] (if f.alternate then '0' :: ds else ds)
  | 'x' => f.padInteger (if f.alternate && n != 0 then ['0', 'x'] else []) (Nat.toDigits 16 n)
  | 'X' =>
    f.padInteger (if f.alternate && n != 0 then ['0', 'X'] else [])
      ((Nat.toDigits 16 n).map Char.toUpper)
  | _ => f.padInteger [] (Nat.toDigits 10 n)

/-- A double. -/
def layDouble (f : Field) (conversion : Char) (d : Double.Extended) : Raw :=
  let isUpper := conversion.isUpper
  let cased (cs : Raw) : Raw := if isUpper then cs.map Char.toUpper else cs
  match d with
  | .finite d =>
    let form : Double.Form := { precision := f.precision, keepsPoint := f.alternate }
    let text := Double.formatted conversion.toLower form d
    let (start, digits) :=
      if conversion.toLower = 'a' then (text.take 2, text.drop 2) else ([], text)
    f.padSigned f.zeros (f.sign d.negative ++ cased start) (cased digits)
  | .infinite negative => f.pad (f.sign negative ++ cased (raw "inf"))
  | .undefined negative => f.pad (f.sign negative ++ cased (raw "nan"))

end Field

/-- What printing has come to. -/
structure Print where
  /-- The text so far, the last piece first. -/
  pieces : List Raw := []
  args : List Raw
  complaints : List String := []
  /-- Why printing cannot go on. -/
  failure : Option String := none
  /-- Whether there is an end to all output. -/
  isOver : Bool := false
  /-- Whether an argument was taken. -/
  hasTaken : Bool := false

namespace Print

/-- All that was printed. -/
def text (p : Print) : Raw := p.pieces.reverse.flatten

/-- Take the next argument, if one is left. -/
def next (p : Print) : Option Raw × Print :=
  match p.args with
  | a :: rest => (some a, { p with args := rest, hasTaken := true })
  | [] => (none, p)

/-- Complain about an argument that is no number, or not only one. -/
def check (p : Print) (arg rest : Raw) (isOver : Bool) : Print :=
  let about (what : String) : Print :=
    { p with complaints := p.complaints ++ [arg.shown ++ ": " ++ what] }
  if !rest.isEmpty then
    about (if rest.length = arg.length then "expected numeric value"
      else "not completely converted")
  else if isOver then about "Numerical result out of range"
  else p

/-- The character behind a quote counts by its number. -/
def quotedCharacter? (arg : Raw) : Option Nat :=
  match arg with
  | q :: rest => if q = '\'' ∨ q = '"' then some ((rest.head?.map Char.toNat).getD 0) else none
  | [] => none

/-- Take the next argument as an integer. -/
def nextInteger (p : Print) (scan : Base → Raw → Scanned) : Int × Print :=
  match p.next with
  | (none, p) => (0, p)
  | (some a, p) =>
    match quotedCharacter? a with
    | some n => (n, p)
    | none =>
      let r := scan .marked a
      (r.value, p.check a r.rest r.isOver)

/-- Take the next argument as a double. -/
def nextDouble (p : Print) : Double.Extended × Print :=
  let zero : Double.Extended := .finite (Double.zero false)
  match p.next with
  | (none, p) => (zero, p)
  | (some a, p) =>
    match quotedCharacter? a with
    | some n => (.finite ((Double.ofNat? n).getD (Double.zero false)), p)
    | none =>
      match Double.literal? a with
      | none => (zero, p.check a a false)
      | some l => (l.value, p.check a l.rest l.isOver)

/-- Add some text. -/
def add (p : Print) (text : Raw) : Print := { p with pieces := text :: p.pieces }

/-- Printing cannot go on. -/
def fail (p : Print) (message : String) : Print :=
  { p with failure := some message, isOver := true }

end Print

/-- Read the flags of a field. -/
def readFlags (f : Field) : Raw → Field × Raw
  | '-' :: rest => readFlags { f with left := true } rest
  | '0' :: rest => readFlags { f with zeros := true } rest
  | '+' :: rest => readFlags { f with plus := true } rest
  | ' ' :: rest => readFlags { f with space := true } rest
  | '#' :: rest => readFlags { f with alternate := true } rest
  | cs => (f, cs)

/-- A width or a precision: a number in the format, or the next argument. -/
def readWidth (p : Print) (cs : Raw) : Int × Raw × Print :=
  match cs with
  | '*' :: rest =>
    let (n, p) := p.nextInteger scanInteger
    (Int.bmod n UInt32.size, rest, p)
  | cs =>
    let ds := cs.takeWhile Char.isDigit
    (Text.Decimal.value ds, cs.drop ds.length, p)

/-- Read the flags, the width and the precision of a field. -/
def readField (p : Print) (cs : Raw) : Field × Raw × Print :=
  let (f, rest) := readFlags {} cs
  let (width, rest, p) := readWidth p rest
  let f := { f with width := width.natAbs, left := f.left || width < 0 }
  match rest with
  | '.' :: rest =>
    let (n, rest, p) := readWidth p rest
    ({ f with precision := if n < 0 then none else some n.toNat }, rest, p)
  | rest => (f, rest, p)

/-- Print one argument in a field. -/
def Print.convert (p : Print) (f : Field) (conversion : Char) : Print :=
  let short (cs : Raw) : Raw := match f.precision with
    | some n => cs.take n
    | none => cs
  match conversion with
  | 'd' | 'i' =>
    let (n, p) := p.nextInteger scanInteger
    p.add (f.padInteger (f.sign (n < 0)) (Text.Decimal.digits n.natAbs))
  | 'o' | 'u' | 'x' | 'X' =>
    let (n, p) := p.nextInteger scanWord
    p.add (f.layWord conversion n.toNat)
  | 'c' =>
    let (a, p) := p.next
    p.add (f.pad (((a.bind List.head?).getD '\x00') :: []))
  | 'b' =>
    let (a, p) := p.next
    let (text, isOver) := resolveEscapes (a.getD [])
    { p.add (f.pad (short text)) with isOver }
  | 's' =>
    let (a, p) := p.next
    p.add (f.pad (short (a.getD [])))
  | _ =>
    let (d, p) := p.nextDouble
    p.add (f.layDouble conversion d)

/-- The conversions that there are. -/
def conversions : List Char := "diouxXaAeEfFgGbcs".toList

/-- Go through the format once. -/
def Print.once (p : Print) (cs : Raw) : Nat → Print
  | 0 => p
  | fuel + 1 =>
    if p.isOver then p
    else match cs with
      | [] => p
      | '\\' :: rest =>
        let (c, rest) := escaped rest
        Print.once (p.add [c]) rest fuel
      | '%' :: '%' :: rest => Print.once (p.add ['%']) rest fuel
      | '%' :: rest =>
        let (f, behind, p) := readField p rest
        match behind with
        | [] => p.fail "missing format character"
        | c :: after =>
          if conversions.contains c then Print.once (p.convert f c) after fuel
          else
            let directive : Raw := '%' :: rest.take (rest.length - after.length)
            p.fail (directive.shown ++ ": invalid directive")
      | c :: rest => Print.once (p.add [c]) rest fuel

/-- Go through the format until no arguments are left, at least once. -/
def Print.all (p : Print) (format : Raw) : Nat → Print
  | 0 => p
  | fuel + 1 =>
    let p := Print.once { p with hasTaken := false } format (format.length + 1)
    if p.isOver || p.args.isEmpty || !p.hasTaken then p else Print.all p format fuel

/-- What a format and its arguments come to. -/
def printed (format : Raw) (args : List Raw) : Print :=
  Print.all { args } format (args.length + 1)

end AgentPulse.Shell
