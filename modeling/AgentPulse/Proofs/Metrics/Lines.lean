import AgentPulse.Metrics.Exposition
import AgentPulse.Proofs.Double.Whole
import Mathlib.Data.List.Basic

/-!
# The text of a board, read line by line

A reader of the text: it takes the text apart at the line breaks (`lines?`) and each line into its
parts (`Line.read?`), undoing the escapes of a label up to the quote that ends it (`unescape`). It
knows nothing of boards. What it finds in the text of a board are the lines of help, of kinds and of
samples that were written (`lines?_text`, `map_read?_allLines`): no label has a line break or an end
before its own, so none can pass for more than a label.
-/

namespace AgentPulse.Metrics

/-! ## Reading -/

/-- The lines of a text, if each of them has its line break. -/
def lines? : List Char → Option (List (List Char))
  | [] => some []
  | c :: rest =>
    (lines? rest).bind fun lines =>
      if c = '\n' then some ([] :: lines)
      else
        match lines with
        | line :: lines => some ((c :: line) :: lines)
        | [] => none

/-- The character that is escaped by a letter behind a backslash. -/
def escaped? : Char → Option Char
  | '\\' => some '\\'
  | '"' => some '"'
  | 'n' => some '\n'
  | _ => none

/-- A label without its escapes and what comes after the quote that ends it, from a place before
which there may be a backslash. -/
def unescapeFrom : (isEscaped : Bool) → List Char → Option (List Char × List Char)
  | _, [] => none
  | true, e :: rest =>
    (escaped? e).bind fun c => (unescapeFrom false rest).map fun p => (c :: p.1, p.2)
  | false, c :: rest =>
    if c = '"' then some ([], rest)
    else if c = '\\' then unescapeFrom true rest
    else (unescapeFrom false rest).map fun p => (c :: p.1, p.2)

/-- A label without its escapes and what comes after the quote that ends it. -/
def unescape (cs : List Char) : Option (List Char × List Char) := unescapeFrom false cs

/-- What comes before a character and what comes after it. -/
def cutAt (c : Char) (cs : List Char) : List Char × List Char :=
  (cs.takeWhile (· ≠ c), (cs.dropWhile (· ≠ c)).tail)

/-- A line and its parts. -/
inductive Line where
  | help (family words : List Char)
  | kind (family word : List Char)
  | sample (family label value : List Char)
  deriving DecidableEq, Repr

namespace Line

/-- Read a sample. -/
def readSample? (cs : List Char) : Option Line := do
  let (family, rest) := cutAt '\x7b' cs
  let rest ← "bus=\"".toList.isPrefixOf? rest
  let (label, rest) ← unescape rest
  let value ← "\x7d ".toList.isPrefixOf? rest
  return .sample family label value

/-- Read a line. -/
def read? (cs : List Char) : Option Line :=
  match "# HELP ".toList.isPrefixOf? cs with
  | some rest => let (family, words) := cutAt ' ' rest; some (.help family words)
  | none =>
    match "# TYPE ".toList.isPrefixOf? cs with
    | some rest => let (family, word) := cutAt ' ' rest; some (.kind family word)
    | none => readSample? cs

end Line

/-! ## Lines -/

theorem lines?_append {line : List Char} (h : '\n' ∉ line) (rest : List Char) :
    lines? (line ++ '\n' :: rest) = (lines? rest).map (line :: ·) := by
  induction line with
  | nil =>
    show ((lines? rest).bind fun lines => _) = _
    cases lines? rest <;> rfl
  | cons c line ih =>
    rw [List.mem_cons, not_or] at h
    rw [List.cons_append, lines?, ih h.2]
    cases lines? rest with
    | none => rfl
    | some lines => exact if_neg (Ne.symm h.1)

theorem lines?_flatMap {lines : List (List Char)} (h : ∀ line ∈ lines, '\n' ∉ line) :
    lines? (lines.flatMap (· ++ ['\n'])) = some lines := by
  induction lines with
  | nil => rfl
  | cons line lines ih =>
    rw [List.flatMap_cons, List.append_assoc, List.singleton_append,
      lines?_append (h line List.mem_cons_self),
      ih fun l hl => h l (List.mem_cons_of_mem _ hl), Option.map_some]

/-! ## Labels -/

theorem escapeChar_of_ne {c : Char} (hslash : c ≠ '\\') (hquote : c ≠ '"') (hbreak : c ≠ '\n') :
    escapeChar c = [c] := by
  unfold escapeChar
  split <;> first | rfl | contradiction

theorem newline_not_mem_escapeChar (c : Char) : '\n' ∉ escapeChar c := by
  by_cases hslash : c = '\\'
  · rw [hslash]
    decide
  by_cases hquote : c = '"'
  · rw [hquote]
    decide
  by_cases hbreak : c = '\n'
  · rw [hbreak]
    decide
  rw [escapeChar_of_ne hslash hquote hbreak, List.mem_singleton]
  exact Ne.symm hbreak

theorem newline_not_mem_escapeLabel (label : String) : '\n' ∉ escapeLabel label := by
  rw [escapeLabel, List.mem_flatMap]
  rintro ⟨c, -, hc⟩
  exact newline_not_mem_escapeChar c hc

/-- The escapes of one character are undone, whatever follows. -/
theorem unescape_escapeChar (c : Char) (rest : List Char) :
    unescape (escapeChar c ++ rest) = (unescape rest).map fun p => (c :: p.1, p.2) := by
  by_cases hslash : c = '\\'
  · rw [hslash]
    rfl
  by_cases hquote : c = '"'
  · rw [hquote]
    rfl
  by_cases hbreak : c = '\n'
  · rw [hbreak]
    rfl
  rw [escapeChar_of_ne hslash hquote hbreak, List.singleton_append, unescape, unescapeFrom,
    if_neg hquote, if_neg hslash, unescape]

/-- A label is read up to its own end. -/
theorem unescape_escapeLabel (label : String) (rest : List Char) :
    unescape (escapeLabel label ++ '"' :: rest) = some (label.toList, rest) := by
  rw [escapeLabel]
  induction label.toList with
  | nil => rfl
  | cons c cs ih =>
    rw [List.flatMap_cons, List.append_assoc, unescape_escapeChar, ih]
    rfl

/-! ## Numbers -/

theorem newline_not_mem_digits (n : Nat) : '\n' ∉ Text.Decimal.digits n := fun h => by
  have hdigit := Text.Decimal.isDigit_of_mem_digits h
  revert hdigit
  decide

theorem newline_not_mem_plain {ds : List Char} (h : '\n' ∉ ds) (pointZero : Bool) (e : Int) :
    '\n' ∉ Double.plain pointZero ds e := by
  have htake : ∀ k, '\n' ∉ ds.take k := fun k hk => h (List.mem_of_mem_take hk)
  have hdrop : ∀ k, '\n' ∉ ds.drop k := fun k hk => h (List.mem_of_mem_drop hk)
  unfold Double.plain
  dsimp only
  split_ifs <;> simp [h, htake, hdrop, List.mem_replicate]

theorem newline_not_mem_scientific {ds : List Char} (h : '\n' ∉ ds) (e : Int) :
    '\n' ∉ Double.scientific ds e := by
  have hdigits := newline_not_mem_digits e.natAbs
  unfold Double.scientific
  match ds, h with
  | [], _ => split_ifs <;> simp [hdigits]
  | [d], h => split_ifs <;> simp_all
  | d :: d' :: rest, h => split_ifs <;> simp_all

theorem newline_not_mem_render (layout : Double.Layout) (d : Double) :
    '\n' ∉ d.render layout := by
  have hdigits := newline_not_mem_digits d.shortest.significand
  have hplain := newline_not_mem_plain hdigits layout.pointZero d.shortest.exponent
  have hscientific := newline_not_mem_scientific hdigits d.shortest.exponent
  unfold Double.render
  dsimp only
  split_ifs <;> simp [hplain, hscientific]

theorem newline_not_mem_sampleText (n : Nat) : '\n' ∉ sampleText n := by
  unfold sampleText
  cases Double.ofNat? n with
  | none => exact newline_not_mem_digits n
  | some d => exact newline_not_mem_render sampleLayout d

/-- A number up to `2 ^ 53` is written as it is. -/
theorem sampleText_of_le {n : Nat} (h : n ≤ 2 ^ 53) : sampleText n = Text.Decimal.digits n := by
  rcases Nat.eq_zero_or_pos n with rfl | hpos
  · decide +kernel
  · rcases Nat.lt_or_eq_of_le h with hlt | rfl
    · rw [sampleText, Double.ofNat?_of_lt hpos hlt]
      exact Double.render_ofWhole hpos hlt (by decide) (by decide) rfl
    · decide +kernel

/-! ## The text of a board -/

namespace Family

variable (f : Family)

/-- The lines of a family, without their line breaks. -/
def lines (b : Board) : List (List Char) :=
  ("# HELP ".toList ++ f.name.toList ++ ' ' :: f.help.toList) ::
  ("# TYPE ".toList ++ f.name.toList ++ ' ' :: f.kind.word.toList) ::
  b.meters.entries.map fun e => f.name.toList ++ "\x7bbus=\"".toList ++ escapeLabel e.1
    ++ "\"\x7d ".toList ++ sampleText (f.value e.2)

/-- What the lines of a family say. -/
def readings (b : Board) : List Line :=
  .help f.name.toList f.help.toList :: .kind f.name.toList f.kind.word.toList ::
  b.meters.entries.map fun e => .sample f.name.toList e.1.toList (sampleText (f.value e.2))

theorem text_eq_lines (b : Board) : f.text b = (f.lines b).flatMap (· ++ ['\n']) := by
  rw [text, lines, List.flatMap_cons, List.flatMap_cons, List.flatMap_map, ← List.append_assoc]
  rfl

variable {f}

theorem newline_not_mem_name : ∀ f ∈ families, '\n' ∉ f.name.toList ∧ '\n' ∉ f.help.toList := by
  decide +kernel

theorem newline_not_mem_word (k : Kind) : '\n' ∉ k.word.toList := by
  cases k <;> decide

theorem newline_not_mem_lines (hf : f ∈ families) (b : Board) :
    ∀ line ∈ f.lines b, '\n' ∉ line := by
  obtain ⟨hname, hhelp⟩ := newline_not_mem_name f hf
  intro line hline
  rcases List.mem_cons.mp hline with rfl | hline
  · simp [hname, hhelp]
  rcases List.mem_cons.mp hline with rfl | hline
  · simp [hname, newline_not_mem_word]
  obtain ⟨e, -, rfl⟩ := List.mem_map.mp hline
  simp [hname, newline_not_mem_escapeLabel, newline_not_mem_sampleText]

/-- A name can be told from what is put around it. -/
theorem not_mem_name : ∀ f ∈ families,
    ' ' ∉ f.name.toList ∧ '\x7b' ∉ f.name.toList ∧ f.name.toList.head? = some 'h' := by
  decide +kernel

end Family

/-! ## Reading lines -/

theorem cutAt_append {c : Char} {cs : List Char} (h : c ∉ cs) (rest : List Char) :
    cutAt c (cs ++ c :: rest) = (cs, rest) := by
  have hne : ∀ d ∈ cs, decide (d ≠ c) = true := fun d hd =>
    decide_eq_true fun e => h (e ▸ hd)
  rw [cutAt, List.takeWhile_append_of_pos hne, List.dropWhile_append_of_pos hne,
    List.takeWhile_cons, List.dropWhile_cons]
  simp

theorem isPrefixOf?_append (start rest : List Char) :
    start.isPrefixOf? (start ++ rest) = some rest :=
  List.isPrefixOf?_eq_some_iff_append_eq.mpr rfl

theorem isPrefixOf?_of_head?_ne {c : Char} {cs : List Char} (h : cs.head? ≠ some c)
    (start : List Char) : (c :: start).isPrefixOf? cs = none := by
  refine Option.eq_none_iff_forall_ne_some.mpr fun rest hrest => h ?_
  rw [← List.append_eq_of_isPrefixOf?_eq_some hrest]
  rfl

namespace Line

/-- A line that does not start like a comment is a sample. -/
theorem read?_of_head?_ne {cs : List Char} (h : cs.head? ≠ some '#') :
    read? cs = readSample? cs := by
  have hhelp : "# HELP ".toList.isPrefixOf? cs = none := isPrefixOf?_of_head?_ne h " HELP ".toList
  have htype : "# TYPE ".toList.isPrefixOf? cs = none := isPrefixOf?_of_head?_ne h " TYPE ".toList
  rw [read?, hhelp, htype]

theorem readSample?_append {family : List Char} (hfamily : '\x7b' ∉ family) (label : String)
    (value : List Char) :
    readSample? (family ++ '\x7b' :: ("bus=\"".toList
        ++ (escapeLabel label ++ '"' :: ("\x7d ".toList ++ value))))
      = some (.sample family label.toList value) := by
  rw [readSample?, cutAt_append hfamily]
  dsimp only
  rw [isPrefixOf?_append, Option.bind_eq_bind, Option.bind_some, unescape_escapeLabel,
    Option.bind_eq_bind, Option.bind_some]
  dsimp only
  rw [isPrefixOf?_append]
  rfl

theorem read?_help {family : List Char} (hfamily : ' ' ∉ family) (words : List Char) :
    read? ("# HELP ".toList ++ family ++ ' ' :: words) = some (.help family words) := by
  rw [List.append_assoc, read?, isPrefixOf?_append]
  dsimp only
  rw [cutAt_append hfamily]

theorem read?_kind {family : List Char} (hfamily : ' ' ∉ family) (word : List Char) :
    read? ("# TYPE ".toList ++ family ++ ' ' :: word) = some (.kind family word) := by
  have hhelp : "# HELP ".toList.isPrefixOf? ("# TYPE ".toList ++ (family ++ ' ' :: word))
      = none := rfl
  rw [List.append_assoc, read?, hhelp, isPrefixOf?_append]
  dsimp only
  rw [cutAt_append hfamily]

end Line

/-- The lines of a family are read as what they say. -/
theorem Family.map_read?_lines {f : Family} (hf : f ∈ families) (b : Board) :
    (f.lines b).map Line.read? = (f.readings b).map some := by
  obtain ⟨hblank, hbrace, hhead⟩ := not_mem_name f hf
  rw [lines, readings, List.map_cons, List.map_cons, List.map_cons, List.map_cons, List.map_map,
    List.map_map, Line.read?_help hblank, Line.read?_kind hblank]
  refine congrArg (_ :: _ :: ·) (List.map_congr_left fun e _ => ?_)
  have hsample : ∀ value, f.name.toList ++ "\x7bbus=\"".toList ++ escapeLabel e.1
      ++ "\"\x7d ".toList ++ value = f.name.toList ++ '\x7b' :: ("bus=\"".toList
        ++ (escapeLabel e.1 ++ '"' :: ("\x7d ".toList ++ value))) := fun value => by
    simp only [List.append_assoc]
    rfl
  -- No name starts with the mark of the other two kinds of lines.
  rw [Function.comp_apply, Function.comp_apply, hsample, Line.read?_of_head?_ne,
    Line.readSample?_append hbrace]
  rw [List.head?_append, hhead, Option.some_or]
  decide

/-! ## Reading the text -/

/-- All lines of the text of a board. -/
def allLines (b : Board) : List (List Char) := families.flatMap (·.lines b)

/-- What they say. -/
def allReadings (b : Board) : List Line := families.flatMap (·.readings b)

/-- The text of a board is its lines. -/
theorem lines?_text {b : Board} (h : b.meters.isEmpty = false) :
    lines? b.text.toList = some (allLines b) := by
  have htext : b.text.toList = (allLines b).flatMap (· ++ ['\n']) := by
    rw [Board.text, h, allLines, List.flatMap_assoc]
    simp only [Bool.false_eq_true, if_false, String.toList_ofList, Family.text_eq_lines]
  rw [htext]
  refine lines?_flatMap fun line hline => ?_
  obtain ⟨f, hf, hline⟩ := List.mem_flatMap.mp hline
  exact Family.newline_not_mem_lines hf b line hline

/-- Each of the lines is read as what it says. -/
theorem map_read?_allLines (b : Board) :
    (allLines b).map Line.read? = (allReadings b).map some := by
  rw [allLines, allReadings, List.map_flatMap, List.map_flatMap]
  exact congrArg List.flatten (List.map_congr_left fun f hf => f.map_read?_lines hf b)

theorem length_readings (f : Family) (b : Board) :
    (f.readings b).length = 2 + b.meters.keys.length := by
  rw [Family.readings, Dict.keys, List.length_cons, List.length_cons, List.length_map,
    List.length_map, Nat.add_comm 2]

theorem length_allReadings (b : Board) :
    (allReadings b).length = 6 * (2 + b.meters.keys.length) := by
  simp only [allReadings, List.length_flatMap, length_readings, List.map_const',
    List.sum_replicate_nat]
  rfl

theorem length_allLines (b : Board) : (allLines b).length = 6 * (2 + b.meters.keys.length) := by
  have hlength := congrArg List.length (map_read?_allLines b)
  rw [List.length_map, List.length_map] at hlength
  rw [hlength, length_allReadings]

end AgentPulse.Metrics
