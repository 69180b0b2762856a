import AgentPulse.Json.Compact
import AgentPulse.Json.Reading
import AgentPulse.Proofs.Text.Decimal

/-!
# Texts and numbers read back

A text in quotes is scanned as one unit for each of its characters (`scanText_renderText`), and the
units spell the text (`readText_units`). The digits of an integer are scanned up to the first
character that cannot belong to a number (`scanMagnitude_digits`), and the numeral stands for the
integer if that fits into 64 bits (`number?_numeral`). So each word of a compact text is scanned as
one lexeme, and scanning goes on behind it (`Lexeme.scan_mark`, `Lexeme.scan_literal`,
`Lexeme.scan_text`, `Lexeme.scan_integer`).
-/

namespace AgentPulse.Json

/-! ## Texts -/

/-- The unit that a character is scanned as when it was written into quotes: the controls that no
letter stands for are codes. -/
def unit (c : Char) : TextUnit :=
  if c < ' ' ∧ c ∉ ['\x08', '\x0C', '\n', '\r', '\t'] then .code c.toNat else .char c

/-- The units of a text. -/
def units (s : String) : List TextUnit := s.toList.map unit

/-- The code of a control has two digits after two zeros. -/
theorem codeEscape_of_lt {n : Nat} (h : n < 32) :
    codeEscape n = ['\\', 'u', '0', '0', (n / 16).digitChar, (n % 16).digitChar] := by
  revert h
  revert n
  decide

theorem hexCode?_of_lt {n : Nat} (h : n < 32) :
    hexCode? '0' '0' (n / 16).digitChar (n % 16).digitChar = some n := by
  revert h
  revert n
  decide

theorem scanText_char {c : Char} (hquote : c ≠ '"') (hslash : c ≠ '\\') (hcontrol : ¬ c < ' ')
    (rest : List Char) :
    scanText (c :: rest) = (.char c :: (scanText rest).1, (scanText rest).2) := by
  rw [scanText.eq_def]
  split <;> simp_all

/-- A character is scanned as its unit. -/
theorem scanText_escapeChar (c : Char) (rest : List Char) :
    scanText (escapeChar [] c ++ rest) = (unit c :: (scanText rest).1, (scanText rest).2) := by
  unfold escapeChar
  split
  -- An escape of one letter is scanned by computation. What is left is a control that no letter
  -- stands for, or a character that is written as it is.
  case h_8 hquote hslash hb hf hn hr ht =>
    by_cases hcontrol : c < ' '
    · have hlt : c.toNat < 32 := hcontrol
      rw [if_pos (Or.inl hcontrol), codeEscape_of_lt hlt]
      show scanText ('\\' :: 'u' :: '0' :: '0' :: _ :: _ :: rest) = _
      rw [scanText, hexCode?_of_lt hlt, unit, if_pos ⟨hcontrol, by simp_all⟩]
    · rw [if_neg (by simpa using hcontrol), unit, if_neg fun h => hcontrol h.1]
      exact scanText_char hquote hslash hcontrol rest
  all_goals rfl

theorem scanText_renderText (s : String) (rest : List Char) :
    scanText (s.toList.flatMap (escapeChar []) ++ '"' :: rest) = (units s, .closed rest) := by
  unfold units
  induction s.toList with
  | nil => rfl
  | cons c cs ih => rw [List.flatMap_cons, List.append_assoc, scanText_escapeChar, ih]; rfl

/-- A code that is no half of a pair is a character. -/
theorem textValue_code {n : Nat} (hlow : isLowSurrogate n = false)
    (hhigh : isHighSurrogate n = false) (us : List TextUnit) :
    textValue (.code n :: us) = (textValue us).map (Char.ofNat n :: ·) := by
  cases us with
  | nil => simp [textValue, hlow, hhigh]
  | cons u us => cases u <;> simp [textValue, hlow, hhigh]

theorem textValue_unit (c : Char) (us : List TextUnit) :
    textValue (unit c :: us) = (textValue us).map (c :: ·) := by
  unfold unit
  split
  next h =>
    have hlt : c.toNat < 32 := h.1
    rw [textValue_code (by simp [isLowSurrogate]; omega) (by simp [isHighSurrogate]; omega),
      Char.ofNat_toNat]
  next => rfl

/-- The units of a text spell the text. -/
theorem readText_units (s : String) : readText (units s) = .ok s := by
  have hvalue : textValue (units s) = .ok s.toList := by
    unfold units
    induction s.toList with
    | nil => rfl
    | cons c cs ih => rw [List.map_cons, textValue_unit, ih]; rfl
  rw [readText, hvalue]
  exact congrArg _ (String.ofList_toList ..)

/-! ## Numbers -/

/-- The numeral that an integer is written as. -/
def numeral (n : Int) : Numeral := { negative := n < 0, whole := Text.Decimal.digits n.natAbs }

/-- Whether text goes on in a way that no number goes on. -/
def EndsNumber (rest : List Char) : Prop :=
  ∀ c, rest.head? = some c → c.isDigit = false ∧ c ≠ '.' ∧ c ≠ 'e' ∧ c ≠ 'E'

theorem endsNumber_nil : EndsNumber [] := fun _ h => by cases h

theorem endsNumber_cons {c : Char} (h : c = ',' ∨ c = ']' ∨ c = '}') (rest : List Char) :
    EndsNumber (c :: rest) := by
  intro d hd
  obtain rfl : c = d := Option.some.inj hd
  rcases h with rfl | rfl | rfl <;> decide

theorem spanDigits_append {ds rest : List Char} (hds : ∀ c ∈ ds, c.isDigit = true)
    (hrest : EndsNumber rest) : spanDigits (ds ++ rest) = (ds, rest) := by
  have hstop : rest.takeWhile Char.isDigit = [] ∧ rest.dropWhile Char.isDigit = rest := by
    cases rest with
    | nil => exact ⟨rfl, rfl⟩
    | cons c rest => simp [(hrest c rfl).1]
  rw [spanDigits, List.takeWhile_append_of_pos hds, List.dropWhile_append_of_pos hds, hstop.1,
    hstop.2, List.append_nil]

theorem scanFraction_of_endsNumber (negative : Bool) (whole : List Char) {rest : List Char}
    (h : EndsNumber rest) :
    scanFraction negative whole rest = .numeral { negative, whole } rest := by
  cases rest with
  | nil => rfl
  | cons c rest =>
    obtain ⟨-, hpoint, he, hE⟩ := h c rfl
    unfold scanFraction
    split
    next heq => exact absurd (List.cons.inj heq).1 hpoint
    next => simp [scanExponent, startsExponent, he, hE]

/-- The digits of a number are scanned as they stand. -/
theorem scanMagnitude_digits (negative : Bool) (n : Nat) {rest : List Char}
    (h : EndsNumber rest) :
    scanMagnitude negative (Text.Decimal.digits n ++ rest)
      = .numeral { negative, whole := Text.Decimal.digits n } rest := by
  rw [scanMagnitude, spanDigits_append (fun _ => Text.Decimal.isDigit_of_mem_digits) h]
  simp only
  split
  next hnone => exact absurd hnone (Text.Decimal.digits_ne_nil n)
  -- A zero with another digit behind it would be refused, but no number starts so.
  next hzero => exact absurd (Text.Decimal.eq_nil_of_leading_zero hzero) (List.cons_ne_nil _ _)
  next => exact scanFraction_of_endsNumber negative _ h

theorem isWord_natCast {n : Nat} (h : n < UInt64.size) : Number.isWord n = true := by
  rw [Number.isWord, Bool.and_eq_true, decide_eq_true_eq, decide_eq_true_eq]
  exact ⟨Int.le_trans (by decide) (Int.natCast_nonneg n), Int.ofNat_lt.mpr h⟩

/-- A numeral that is an integer as it stands. A negative zero is none. -/
structure Numeral.Spells (num : Numeral) (n : Int) : Prop where
  isWhole : num.isWhole = true
  integer : num.integer = n
  notNegativeZero : ¬(num.negative = true ∧ n = 0)

/-- A numeral stands for its integer, if that fits into a word of 64 bits. -/
theorem Numeral.Spells.number? {num : Numeral} {n : Int} (h : num.Spells n)
    (hn : Number.isWord n = true) : num.number? = some (.integer n) := by
  rw [Numeral.number?, h.integer, if_pos ⟨h.isWhole, hn, h.notNegativeZero⟩]

theorem spells_numeral (n : Int) : (numeral n).Spells n where
  isWhole := rfl
  integer := by
    simp only [Numeral.integer, numeral, Text.Decimal.value_digits, decide_eq_true_eq]
    split <;> omega
  notNegativeZero := by
    rintro ⟨hnegative, rfl⟩
    cases hnegative

theorem number?_numeral {n : Int} (h : Number.isWord n = true) :
    (numeral n).number? = some (.integer n) := (spells_numeral n).number? h

/-! ## Words -/

namespace Lexeme

variable (rest : List Char)

/-- The words of one character. -/
def marks : List (Char × Lexeme) :=
  [('{', .openBrace), ('}', .closeBrace), ('[', .openBracket), (']', .closeBracket), (',', .comma),
    (':', .colon)]

theorem scan_mark {c : Char} {l : Lexeme} (h : (c, l) ∈ marks) :
    scan (c :: rest) = l :: scan rest := by
  simp only [marks, List.mem_cons, Prod.mk.injEq, List.not_mem_nil, or_false] at h
  obtain ⟨rfl, rfl⟩ | ⟨rfl, rfl⟩ | ⟨rfl, rfl⟩ | ⟨rfl, rfl⟩ | ⟨rfl, rfl⟩ | ⟨rfl, rfl⟩ := h <;>
    rw [scan] <;> rfl

theorem scan_literal {w : List Char} {l : Lexeme}
    (h : (w, l) ∈ [("null".toList, .null), ("true".toList, .boolean true),
      ("false".toList, .boolean false)]) :
    scan (w ++ rest) = l :: scan rest := by
  simp only [List.mem_cons, Prod.mk.injEq, List.not_mem_nil, or_false] at h
  obtain ⟨rfl, rfl⟩ | ⟨rfl, rfl⟩ | ⟨rfl, rfl⟩ := h
  · show scan ('n' :: 'u' :: 'l' :: 'l' :: rest) = _
    rw [scan]
    rfl
  · show scan ('t' :: 'r' :: 'u' :: 'e' :: rest) = _
    rw [scan]
    rfl
  · show scan ('f' :: 'a' :: 'l' :: 's' :: 'e' :: rest) = _
    rw [scan]
    rfl

theorem scan_text (s : String) :
    scan (renderText [] s ++ rest) = .text (units s) :: scan rest := by
  have htext := scanText_renderText s rest
  rw [renderText, List.append_assoc, List.singleton_append, List.cons_append, scan]
  simp only [isSpace, Char.reduceBEq, Bool.or_self, Bool.false_eq_true, if_false, Char.reduceEq,
    if_true]
  split
  next after h =>
    rw [htext] at h
    cases h
    rw [htext]
  next fault h =>
    rw [htext] at h
    cases h

/-- Text that starts with a digit is scanned as a number. -/
theorem scan_digit {c : Char} (hc : c.isDigit = true) {cs after : List Char} {n : Numeral}
    (h : scanMagnitude false (c :: cs) = .numeral n after) :
    scan (c :: cs) = .number n :: scan after := by
  -- No other word starts with a digit.
  have hne : ∀ d : Char, d.isDigit = false → c ≠ d := fun d hd e => by
    rw [e, hd] at hc
    cases hc
  have hspace : isSpace c = false := by
    simp [isSpace, hne ' ' rfl, hne '\n' rfl, hne '\t' rfl, hne '\r' rfl]
  rw [scan]
  simp only [hspace, hne '{' rfl, hne '}' rfl, hne '[' rfl, hne ']' rfl, hne ',' rfl, hne ':' rfl,
    hne 'n' rfl, hne 't' rfl, hne 'f' rfl, hne '"' rfl, hne '-' rfl, Bool.false_eq_true, if_false]
  split
  next heq =>
    rw [h] at heq
    cases heq
    rfl
  next heq => rw [h] at heq; cases heq
  next heq => rw [h] at heq; cases heq

/-- Text that starts with a minus is scanned as a number. -/
theorem scan_minus {cs after : List Char} {n : Numeral}
    (h : scanMagnitude true cs = .numeral n after) :
    scan ('-' :: cs) = .number n :: scan after := by
  rw [scan]
  simp only [isSpace, Char.reduceBEq, Bool.or_self, Bool.false_eq_true, if_false, Char.reduceEq,
    if_true]
  split
  next heq =>
    rw [h] at heq
    cases heq
    rfl
  next heq => rw [h] at heq; cases heq
  next heq => rw [h] at heq; cases heq

theorem scan_integer (n : Int) {rest : List Char} (h : EndsNumber rest) :
    scan ((Text.Decimal.ofInt n).toList ++ rest)
      = .number (numeral n) :: scan rest := by
  have hdigits := fun negative => scanMagnitude_digits negative n.natAbs h
  rw [Text.Decimal.toList_ofInt, numeral]
  by_cases hn : n < 0
  · rw [if_pos hn, decide_eq_true hn]
    exact scan_minus (hdigits true)
  · rw [if_neg hn, decide_eq_false hn, List.nil_append]
    obtain ⟨c, cs, hcs⟩ := List.exists_cons_of_ne_nil (Text.Decimal.digits_ne_nil n.natAbs)
    have hc : c.isDigit = true :=
      Text.Decimal.isDigit_of_mem_digits (n := n.natAbs) (hcs ▸ List.mem_cons_self)
    have hscan := hdigits false
    rw [hcs] at hscan ⊢
    exact scan_digit hc hscan

end Lexeme

end AgentPulse.Json
