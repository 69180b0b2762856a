import AgentPulse.Proofs.Metrics.Lines
import AgentPulse.Proofs.Metrics.Shown
import AgentPulse.Proofs.Session.Boards
import AgentPulse.Proofs.Text.Order

/-!
# The text of a board can be read back

Whatever labels a board has, its text has the lines that belong to it and no others, and a reader
finds in them the labels, in the order of their bytes, and the numbers (`text_reads_back`). A number
up to `2 ^ 53` is written as it is, so boards with one text have the same labels and the same
numbers up to there.
-/

namespace AgentPulse.Metrics

variable {b b' : Board} {f : Family}

/-! ## Equal texts -/

/-- What is put together of pieces of equal lengths has equal pieces. -/
theorem eq_of_flatMap_eq {α β : Type} {l : List α} {g g' : α → List β}
    (hlength : ∀ x ∈ l, (g x).length = (g' x).length) (h : l.flatMap g = l.flatMap g') :
    ∀ x ∈ l, g x = g' x := by
  induction l with
  | nil => nofun
  | cons x l ih =>
    rw [List.flatMap_cons, List.flatMap_cons] at h
    obtain ⟨hhead, htail⟩ := List.append_inj h (hlength x List.mem_cons_self)
    intro y hy
    rcases List.mem_cons.mp hy with rfl | hy
    · exact hhead
    · exact ih (fun z hz => hlength z (List.mem_cons_of_mem _ hz)) htail y hy

theorem isEmpty_eq_false (h : b.meters.keys ≠ []) : b.meters.isEmpty = false := by
  rw [Dict.isEmpty, List.isEmpty_eq_false_iff]
  exact fun e => h (List.map_eq_nil_iff.mpr e)

theorem text_of_keys_eq_nil (h : b.meters.keys = []) : b.text = "" :=
  if_pos (List.isEmpty_iff.mpr (List.map_eq_nil_iff.mp h))

/-- A board with labels has lines, and one without has none. -/
theorem keys_eq_nil_of_text_eq (h : b.text = b'.text) (hkeys : b.meters.keys = []) :
    b'.meters.keys = [] := by
  by_contra hne
  have hlines := lines?_text (isEmpty_eq_false hne)
  rw [← h, text_of_keys_eq_nil hkeys] at hlines
  have hnone : [] = allLines b' := Option.some.inj hlines
  have hlength := congrArg List.length hnone
  rw [length_allLines, List.length_nil] at hlength
  omega

/-- Boards with one text have the same to say, line by line. -/
theorem allReadings_of_text_eq (h : b.text = b'.text) : allReadings b = allReadings b' := by
  by_cases hkeys : b.meters.keys = []
  · have hentries : b.meters.entries = b'.meters.entries :=
      (List.map_eq_nil_iff.mp hkeys).trans
        (List.map_eq_nil_iff.mp (keys_eq_nil_of_text_eq h hkeys)).symm
    simp only [allReadings, Family.readings, hentries]
  · have hkeys' : b'.meters.keys ≠ [] := fun e => hkeys (keys_eq_nil_of_text_eq h.symm e)
    have hlines := lines?_text (isEmpty_eq_false hkeys)
    rw [h, lines?_text (isEmpty_eq_false hkeys'), Option.some.injEq] at hlines
    have hmap := (map_read?_allLines b).symm.trans
      ((congrArg (List.map Line.read?) hlines.symm).trans (map_read?_allLines b'))
    exact List.map_injective_iff.mpr (Option.some_injective _) hmap

theorem samples_of_text_eq (h : b.text = b'.text) (hf : f ∈ families) :
    (b.meters.entries.map fun e => (e.1, sampleText (f.value e.2)))
      = b'.meters.entries.map fun e => (e.1, sampleText (f.value e.2)) := by
  have hall := allReadings_of_text_eq h
  have hkeys : b.meters.keys.length = b'.meters.keys.length := by
    have hlength := congrArg List.length hall
    rw [length_allReadings, length_allReadings] at hlength
    omega
  -- As many labels make as many lines in each family, so the families begin at the same lines.
  have hfamily := eq_of_flatMap_eq (fun g _ => by rw [length_readings, length_readings, hkeys]) hall
    f hf
  have hsamples := (List.cons.inj (List.cons.inj hfamily).2).2
  -- What a sample says is its label and its number, apart from the family.
  let parts : Line → String × List Char
    | .sample _ label value => (String.ofList label, value)
    | _ => ("", [])
  have hmap := congrArg (List.map parts) hsamples
  rw [List.map_map, List.map_map] at hmap
  simpa [Function.comp_def, parts] using hmap

theorem keys_of_text_eq (h : b.text = b'.text) : b.meters.keys = b'.meters.keys := by
  have hsamples := congrArg (List.map (·.1))
    (samples_of_text_eq h (List.mem_cons_self : families[0] ∈ families))
  rw [List.map_map, List.map_map] at hsamples
  exact hsamples

/-- Numbers up to `2 ^ 53` under one label are the same if the texts are. -/
theorem value_of_text_eq (h : b.text = b'.text) (hf : f ∈ families) {label : String} {m m' : Meter}
    (hm : b.meter? label = some m) (hm' : b'.meter? label = some m') (hle : f.value m ≤ 2 ^ 53)
    (hle' : f.value m' ≤ 2 ^ 53) : f.value m = f.value m' := by
  have hmem : (label, sampleText (f.value m))
      ∈ b.meters.entries.map fun e => (e.1, sampleText (f.value e.2)) :=
    List.mem_map.mpr ⟨(label, m), Dict.mem_entries.mpr hm, rfl⟩
  rw [samples_of_text_eq h hf] at hmem
  obtain ⟨⟨other, m''⟩, he, heq⟩ := List.mem_map.mp hmem
  obtain ⟨rfl, htext⟩ := Prod.mk.inj heq
  have hsame : some m'' = some m' := (Dict.mem_entries.mp he).symm.trans hm'
  rw [Option.some.inj hsame, sampleText_of_le hle, sampleText_of_le hle'] at htext
  rw [← Text.Decimal.value_digits (f.value m), ← htext, Text.Decimal.value_digits]

/-- The text of a board, whatever its labels are.

Every board that uses lead to has the labels that were registered, and the registry underneath it is
written without a flaw. Labels are in the order of their bytes. A board without labels has no text;
the text of any other one is `6 * (2 + n)` lines with their line breaks, for `n` labels, and a
reader that undoes the escapes finds in them, for each family in the order of names, its help and
its kind and then one sample for each label, with the label as it was registered and the number. Up
to `2 ^ 53` a number is its decimal digits. So if two boards have one text, they have the same
labels, and the same numbers up to there. Whatever a session does, this is the text that it has. -/
theorem text_reads_back :
    (∀ uses : List Board.Use,
      (Registry.after {} (Registry.callsOf {} uses)).expose
        = .ok (Board.empty.after uses).text ∧
      ∀ label, label ∈ (Board.empty.after uses).meters.keys ↔ .register label ∈ uses) ∧
    (∀ b : Board,
      let labels := b.meters.keys
      (labels.Pairwise fun l l' => Text.Utf8.encode l < Text.Utf8.encode l') ∧
      (labels = [] → b.text = "") ∧
      (labels ≠ [] → ∃ lines,
        lines? b.text.toList = some lines ∧ lines.length = 6 * (2 + labels.length) ∧
        lines.map Line.read? = (families.flatMap fun f =>
          .help f.name.toList f.help.toList :: .kind f.name.toList f.kind.word.toList ::
          b.meters.entries.map fun e =>
            .sample f.name.toList e.1.toList (sampleText (f.value e.2))).map some)) ∧
    (families.map (·.name)).Pairwise (fun l l' => Text.Utf8.encode l < Text.Utf8.encode l') ∧
    (∀ n, n ≤ 2 ^ 53 → sampleText n = Text.Decimal.digits n) ∧
    (∀ b b' : Board, b.text = b'.text →
      b.meters.keys = b'.meters.keys ∧
      ∀ f ∈ families, ∀ label m m', b.meter? label = some m → b'.meter? label = some m' →
        f.value m ≤ 2 ^ 53 → f.value m' ≤ 2 ^ 53 → f.value m = f.value m') ∧
    ∀ (steps : List Session.Step) (scope : Scope),
      ((Session.start.after steps).step (.exposition scope)).answer
        = .ok (.text (Board.empty.after (Session.usesAlong scope Session.start steps)).text) := by
  refine ⟨fun uses => ⟨(Registry.shows_empty.after uses).expose, fun label => ?_⟩,
    fun b => ⟨?_, text_of_keys_eq_nil, fun hne => ?_⟩, ?_, fun n => sampleText_of_le,
    fun b b' h => ⟨keys_of_text_eq h, fun f hf label m m' => value_of_text_eq h hf⟩,
    fun steps scope => ?_⟩
  · rw [Board.mem_keys_after]
    exact or_iff_right List.not_mem_nil
  · exact b.meters.keys_ascending.imp Text.Utf8.encode_lt_encode.mpr
  · exact ⟨allLines b, lines?_text (isEmpty_eq_false hne), length_allLines b,
      map_read?_allLines b⟩
  · exact Registry.names_ascending.imp Text.Utf8.encode_lt_encode.mpr
  · rw [← Session.board_after_start]
    rfl

/-- A label that looks like the end of a sample, with a line break and another sample after it, is
still one label. -/
theorem text_reads_back_forged_label :
    let forged := "a\"\x7d 1\nheartbeat_bus_keys\x7bbus=\"b"
    let b := Board.empty.after [.register forged, .observe forged { keys := 3 }]
    let b' := Board.empty.after [.register forged, .observe forged { keys := 4 }]
    b.meters.keys = [forged] ∧ b.text ≠ b'.text ∧
    ∃ lines, lines? b.text.toList = some lines ∧ lines.length = 18 ∧
      some (.sample "heartbeat_bus_keys".toList forged.toList ['3']) ∈ lines.map Line.read? := by
  intro forged b b'
  obtain ⟨-, hboard, -, hdigits, hequal, -⟩ := text_reads_back
  have hkeys : b.meters.keys = [forged] := by decide +kernel
  have hne : b.meters.keys ≠ [] := hkeys ▸ List.cons_ne_nil _ _
  obtain ⟨lines, hlines, hlength, hread⟩ := (hboard b).2.2 hne
  have hfamily : families[4] ∈ families := List.getElem_mem _
  have hm : b.meter? forged = some { keys := 3, baseline := { keys := 3 } } := by decide +kernel
  have hm' : b'.meter? forged = some { keys := 4, baseline := { keys := 4 } } := by decide +kernel
  refine ⟨hkeys, fun h => ?_, lines, hlines, hlength.trans (by rw [hkeys]; rfl), ?_⟩
  · have hsame := (hequal b b' h).2 families[4] hfamily forged _ _ hm hm' (by decide) (by decide)
    exact absurd hsame (by decide)
  · rw [hread]
    refine List.mem_map.mpr ⟨_, List.mem_flatMap.mpr ⟨families[4], hfamily, ?_⟩, rfl⟩
    refine List.mem_cons_of_mem _ (List.mem_cons_of_mem _ (List.mem_map.mpr
      ⟨_, Dict.mem_entries.mpr hm, ?_⟩))
    rw [hdigits _ (by decide)]
    exact congrArg (Line.sample _ forged.toList) (by decide +kernel)

end AgentPulse.Metrics
