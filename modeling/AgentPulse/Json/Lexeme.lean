import AgentPulse.Json.Basic
import AgentPulse.Double.Scaled

/-!
# The words of JSON text

`Lexeme.scan` splits text into brackets, commas, colons, literals, numbers and texts, and stops at
the first place where no word starts. What went wrong there is kept as a `Break`, because how it
counts depends on what the reader wants from that place: a value, a name, or just to pass over it.

Texts and numbers are kept as written and given a meaning on demand, so that text which is only
passed over may hold unpaired surrogates and numbers out of range.
-/

namespace AgentPulse.Json

/-- How text can fail to be JSON: it goes on in a way that JSON does not, or it ends too early. -/
inductive Fault where
  | malformed
  | truncated
  deriving DecidableEq, Repr

/-! ## Texts -/

/-- One unit of a text in quotes: a character, or a UTF-16 code given by its number. -/
inductive TextUnit where
  | char (c : Char)
  | code (n : Nat)
  deriving DecidableEq, Repr

/-- How a text that starts with a quote goes on: to a closing quote, with what follows it, or to a
place where it cannot go on. -/
inductive TextEnd where
  | closed (rest : List Char)
  | unclosed (fault : Fault)
  deriving DecidableEq, Repr

/-- The value of a hexadecimal digit. -/
def hexDigit? (c : Char) : Option Nat :=
  if '0' ≤ c ∧ c ≤ '9' then some (c.toNat - '0'.toNat)
  else if 'a' ≤ c ∧ c ≤ 'f' then some (c.toNat - 'a'.toNat + 10)
  else if 'A' ≤ c ∧ c ≤ 'F' then some (c.toNat - 'A'.toNat + 10)
  else none

/-- The value of four hexadecimal digits. -/
def hexCode? (a b c d : Char) : Option Nat := do
  let a ← hexDigit? a
  let b ← hexDigit? b
  let c ← hexDigit? c
  let d ← hexDigit? d
  return ((a * 16 + b) * 16 + c) * 16 + d

/-- The character that a backslash and a letter stand for. -/
def letterEscape? : Char → Option Char
  | '"' => some '"'
  | '\\' => some '\\'
  | '/' => some '/'
  | 'b' => some '\x08'
  | 'f' => some '\x0C'
  | 'n' => some '\n'
  | 'r' => some '\r'
  | 't' => some '\t'
  | _ => none

/-- What is wrong with fewer than four characters after `\u`. A code takes four bytes, and text
that still has four bytes is not too short for one. -/
def shortCode (rest : List Char) : Fault :=
  if (String.ofList rest).utf8ByteSize < 4 then .truncated else .malformed

/-- The units of a text, from behind its opening quote, and how it ends. -/
def scanText : List Char → List TextUnit × TextEnd
  | [] => ([], .unclosed .truncated)
  | '"' :: rest => ([], .closed rest)
  | '\\' :: 'u' :: a :: b :: c :: d :: rest =>
    match hexCode? a b c d with
    | none => ([], .unclosed .malformed)
    | some n =>
      let (units, stop) := scanText rest
      (.code n :: units, stop)
  | '\\' :: 'u' :: rest => ([], .unclosed (shortCode rest))
  | '\\' :: e :: rest =>
    match letterEscape? e with
    | none => ([], .unclosed .malformed)
    | some c =>
      let (units, stop) := scanText rest
      (.char c :: units, stop)
  | ['\\'] => ([], .unclosed .truncated)
  | c :: rest =>
    if c < ' ' then ([], .unclosed .malformed)
    else
      let (units, stop) := scanText rest
      (.char c :: units, stop)

/-- Whether a code is the first half of a surrogate pair. -/
def isHighSurrogate (n : Nat) : Bool := 0xD800 ≤ n && n ≤ 0xDBFF

/-- Whether a code is the second half of a surrogate pair. -/
def isLowSurrogate (n : Nat) : Bool := 0xDC00 ≤ n && n ≤ 0xDFFF

/-- The code point of a surrogate pair. -/
def pairedCode (high low : Nat) : Nat := 0x10000 + (high - 0xD800) * 0x400 + (low - 0xDC00)

/-- Where half a surrogate pair stands alone. -/
inductive Unpaired where
  /-- Before another unit, or as a second half. -/
  | inside
  /-- As the last unit, where more text could complete it. -/
  | atEnd
  deriving DecidableEq, Repr

/-- The characters of a text: codes become characters, and two halves of a pair become one. -/
def textValue : List TextUnit → Except Unpaired (List Char)
  | [] => .ok []
  | .char c :: rest => (textValue rest).map (c :: ·)
  | .code n :: .code m :: rest =>
    if isLowSurrogate n then .error .inside
    else if isHighSurrogate n then
      if isLowSurrogate m then (textValue rest).map (Char.ofNat (pairedCode n m) :: ·)
      else .error .inside
    else (textValue (.code m :: rest)).map (Char.ofNat n :: ·)
  | .code n :: rest =>
    if isLowSurrogate n then .error .inside
    else if isHighSurrogate n then .error (if rest.isEmpty then .atEnd else .inside)
    else (textValue rest).map (Char.ofNat n :: ·)

/-- The text in closed quotes that the units spell. -/
def readText (units : List TextUnit) : Except Fault String :=
  match textValue units with
  | .ok cs => .ok (String.ofList cs)
  | .error _ => .error .malformed

/-- What a reader of the text finds wrong when the quotes never close: half a pair that no more
text could complete comes first. -/
def readOpenText (units : List TextUnit) (fault : Fault) : Fault :=
  match textValue units with
  | .error .inside => .malformed
  | _ => fault

/-! ## Numbers -/

/-- A number as written: its digits before the point, and the digits behind it and the exponent
where it has them. -/
structure Numeral where
  negative : Bool
  whole : List Char
  places : Option (List Char) := none
  exponent : Option Int := none
  deriving DecidableEq, Repr

/-- How text that starts like a number goes on. -/
inductive NumeralEnd where
  /-- A number, with what follows it. -/
  | numeral (n : Numeral) (rest : List Char)
  /-- The text ends where a digit is due. -/
  | cut
  /-- Something else stands where a digit is due, or a digit follows a leading zero. -/
  | malformed
  deriving DecidableEq, Repr

/-- The run of digits at the start of text, and what follows it. -/
def spanDigits (cs : List Char) : List Char × List Char :=
  (cs.takeWhile Char.isDigit, cs.dropWhile Char.isDigit)

/-- Digits are due here and there are none. -/
def noDigits (cs : List Char) : NumeralEnd := if cs.isEmpty then .cut else .malformed

/-- An optional sign, and whether it is a minus. -/
def spanSign : List Char → Bool × List Char
  | '+' :: rest => (false, rest)
  | '-' :: rest => (true, rest)
  | cs => (false, cs)

/-- Whether an exponent starts here. -/
def startsExponent : List Char → Bool
  | c :: _ => c == 'e' || c == 'E'
  | [] => false

/-- The exponent of a number, if it has one, given the number without it. -/
def scanExponent (n : Numeral) (cs : List Char) : NumeralEnd :=
  if startsExponent cs then
    let (minus, rest) := spanSign cs.tail
    let (ds, after) := spanDigits rest
    if ds.isEmpty then noDigits rest
    else
      let e : Int := Text.Decimal.value ds
      .numeral { n with exponent := some (if minus then -e else e) } after
  else .numeral n cs

/-- The fraction of a number, if it has one, and its exponent, given its digits before the point. -/
def scanFraction (negative : Bool) (whole : List Char) : List Char → NumeralEnd
  | '.' :: rest =>
    let (ds, after) := spanDigits rest
    if ds.isEmpty then noDigits rest
    else scanExponent { negative, whole, places := some ds } after
  | cs => scanExponent { negative, whole } cs

/-- A number from behind its sign. A leading zero is the only digit before the point. -/
def scanMagnitude (negative : Bool) (cs : List Char) : NumeralEnd :=
  let (ds, after) := spanDigits cs
  match ds with
  | [] => noDigits cs
  | '0' :: _ :: _ => .malformed
  | ds => scanFraction negative ds after

/-- Whether a numeral is written as an integer. -/
def Numeral.isWhole (n : Numeral) : Bool := n.places.isNone && n.exponent.isNone

/-- The integer that the digits before the point stand for. -/
def Numeral.integer (n : Numeral) : Int :=
  let value : Int := Text.Decimal.value n.whole
  if n.negative then -value else value

/-- The number that a numeral stands for: an integer if it is written as one, is not a negative
zero and fits 64 bits, else a double, unless that is infinite. -/
def Numeral.number? (n : Numeral) : Option Number :=
  if n.isWhole ∧ Number.isWord n.integer ∧ ¬(n.negative ∧ n.integer = 0) then
    some (.integer n.integer)
  else
    (Double.ofDigits n.negative n.whole (n.places.getD []) (n.exponent.getD 0)).map .double

/-! ## Lexemes -/

/-- Where text stops being JSON. -/
inductive Break where
  /-- The text ends where more is due. -/
  | atEnd
  /-- The text ends inside `null`, `true` or `false`. -/
  | cutWord
  /-- The text ends inside a number. -/
  | cutNumber
  /-- The quotes of a text do not close. -/
  | openText (units : List TextUnit) (fault : Fault)
  /-- Something stands here that cannot. -/
  | misplaced
  deriving DecidableEq, Repr

/-- A word of JSON text. -/
inductive Lexeme where
  | openBrace
  | closeBrace
  | openBracket
  | closeBracket
  | comma
  | colon
  | null
  | boolean (b : Bool)
  | number (n : Numeral)
  | text (units : List TextUnit)
  | broken (b : Break)
  deriving DecidableEq, Repr

/-- JSON's blanks. -/
def isSpace (c : Char) : Bool := c == ' ' || c == '\n' || c == '\t' || c == '\r'

/-- Match the rest of a literal: what follows it, or why it does not stand here. -/
def literal : List Char → List Char → Except Break (List Char)
  | [], cs => .ok cs
  | _ :: _, [] => .error .cutWord
  | w :: ws, c :: cs => if w = c then literal ws cs else .error .misplaced

theorem literal_length {ws cs rest : List Char} (h : literal ws cs = .ok rest) :
    rest.length ≤ cs.length := by
  induction ws generalizing cs with
  | nil => cases h; exact Nat.le_refl _
  | cons w ws ih =>
    cases cs with
    | nil => cases h
    | cons c cs =>
      simp only [literal] at h
      split at h
      · exact Nat.le_succ_of_le (ih h)
      · cases h

theorem scanText_length {cs rest : List Char} (h : (scanText cs).2 = .closed rest) :
    rest.length < cs.length := by
  fun_induction scanText cs <;> simp_all <;> omega

theorem spanDigits_length (cs : List Char) : (spanDigits cs).2.length ≤ cs.length :=
  (List.dropWhile_suffix _).length_le

theorem spanSign_length (cs : List Char) : (spanSign cs).2.length ≤ cs.length := by
  unfold spanSign
  split <;> simp

theorem noDigits_ne {cs rest : List Char} {n : Numeral} : noDigits cs ≠ .numeral n rest := by
  unfold noDigits
  split <;> simp

theorem scanExponent_length {cs rest : List Char} {m n : Numeral}
    (h : scanExponent m cs = .numeral n rest) : rest.length ≤ cs.length := by
  have hs := spanSign_length cs.tail
  have hd := spanDigits_length (spanSign cs.tail).2
  have ht : cs.tail.length ≤ cs.length := by simp
  simp only [scanExponent] at h
  split at h
  · split at h
    · exact absurd h noDigits_ne
    · cases h; omega
  · cases h; exact Nat.le_refl _

theorem scanFraction_length {negative : Bool} {whole cs rest : List Char} {n : Numeral}
    (h : scanFraction negative whole cs = .numeral n rest) : rest.length ≤ cs.length := by
  unfold scanFraction at h
  split at h
  · rename_i after
    have hd := spanDigits_length after
    simp only at h
    split at h
    · exact absurd h noDigits_ne
    · have := scanExponent_length h
      simp only [List.length_cons]; omega
  · exact scanExponent_length h

theorem scanMagnitude_length {negative : Bool} {cs rest : List Char} {n : Numeral}
    (h : scanMagnitude negative cs = .numeral n rest) : rest.length < cs.length := by
  have split_cs : (cs.takeWhile Char.isDigit).length + (cs.dropWhile Char.isDigit).length
      = cs.length := by rw [← List.length_append, List.takeWhile_append_dropWhile]
  simp only [scanMagnitude, spanDigits] at h
  split at h
  · exact absurd h noDigits_ne
  · cases h
  · rename_i nonempty _
    have := scanFraction_length h
    have : 0 < (cs.takeWhile Char.isDigit).length := List.length_pos_iff.2 nonempty
    omega

/-- The words of JSON text, up to the first place where no word starts. -/
def Lexeme.scan : List Char → List Lexeme
  | [] => []
  | c :: rest =>
    let word (w : List Char) (l : Lexeme) : List Lexeme :=
      match h : literal w rest with
      | .ok after =>
        have := literal_length h
        l :: Lexeme.scan after
      | .error b => [.broken b]
    if isSpace c then Lexeme.scan rest
    else if c = '{' then .openBrace :: Lexeme.scan rest
    else if c = '}' then .closeBrace :: Lexeme.scan rest
    else if c = '[' then .openBracket :: Lexeme.scan rest
    else if c = ']' then .closeBracket :: Lexeme.scan rest
    else if c = ',' then .comma :: Lexeme.scan rest
    else if c = ':' then .colon :: Lexeme.scan rest
    else if c = 'n' then word ['u', 'l', 'l'] .null
    else if c = 't' then word ['r', 'u', 'e'] (.boolean true)
    else if c = 'f' then word ['a', 'l', 's', 'e'] (.boolean false)
    else if c = '"' then
      match h : (scanText rest).2 with
      | .closed after =>
        have := scanText_length h
        .text (scanText rest).1 :: Lexeme.scan after
      | .unclosed fault => [.broken (.openText (scanText rest).1 fault)]
    else if c = '-' then
      match h : scanMagnitude true rest with
      | .numeral n after =>
        have := scanMagnitude_length h
        .number n :: Lexeme.scan after
      | .cut => [.broken .cutNumber]
      | .malformed => [.broken .misplaced]
    else
      match h : scanMagnitude false (c :: rest) with
      | .numeral n after =>
        have := scanMagnitude_length h
        .number n :: Lexeme.scan after
      | .cut => [.broken .cutNumber]
      | .malformed => [.broken .misplaced]
  termination_by cs => cs.length
  decreasing_by all_goals simp_all <;> omega

end AgentPulse.Json
