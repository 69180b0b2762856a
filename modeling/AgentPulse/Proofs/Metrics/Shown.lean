import AgentPulse.Proofs.Dict
import AgentPulse.Proofs.Metrics.Board
import AgentPulse.Proofs.Metrics.Registry
import AgentPulse.Proofs.Text.Utf8

/-!
# What a registry shows

A registry that is used only to register meters shows a board: the meters that are held, each under
its label (`Registry.Shows`). The text that is gathered from its series, family by family, is the
text of this board (`Shows.expose`), and there always is one. What a board is used for is one call
of the registry, or none (`call?`), and the two go on alike (`Shows.next`, `Shows.after`).
-/

namespace AgentPulse.Metrics.Registry

variable {r r' : Registry} {held : List (String × Nat)} {b : Board} {label : String} {f : Family}

/-- What is gathered depends on the series and the meters that they show. -/
theorem expose_congr (hseries : r'.series = r.series)
    (hmeters : ∀ s ∈ r.series, r'.meterOf s = r.meterOf s) : r'.expose = r.expose := by
  have hsamples : r'.samples = r.samples := by
    funext family
    rw [samples, samples, hseries]
  have hgather : r'.gather = r.gather := by rw [gather, gather, hseries]
  have hunfit : r'.unfit? = r.unfit? := by
    funext f
    rw [unfit?, unfit?, hsamples]
  have htext : r'.familyText = r.familyText := by
    funext f
    rw [familyText, familyText, hsamples]
    refine congrArg _ (congrArg List.flatten (List.map_congr_left fun s hs => ?_))
    rw [hmeters s (List.mem_of_mem_filter ((List.mergeSort_perm _ _).mem_iff.mp hs))]
  rw [expose, expose, encode, encode, hgather, hunfit, htext]

/-- Whether a board has the meters that are held of a registry. -/
structure Shows (r : Registry) (held : List (String × Nat)) (b : Board) : Prop where
  whole : r.Whole held
  meters : ∀ label, b.meter? label = (Dict.lookup label held).map fun n => r.meters.getD n {}

theorem shows_empty : Shows {} [] Board.empty := ⟨whole_empty, fun _ => rfl⟩

/-- Every registry that holds its meters whole shows a board. -/
theorem Whole.shows (h : r.Whole held) : ∃ b, r.Shows held b := by
  refine ⟨⟨Dict.ofList (held.map fun e => (e.1, r.meters.getD e.2 {}))⟩, h, fun label => ?_⟩
  show Dict.find? _ label = _
  have hnodup : ((held.map fun e => (e.1, r.meters.getD e.2 {})).map (·.1)).Nodup := by
    rw [List.map_map]
    exact h.labels
  rw [Dict.find?_ofList_of_nodup hnodup, Dict.lookup_map (fun n => r.meters.getD n {})]

namespace Shows

/-! ## The text -/

theorem mem_entries (h : r.Shows held b) {m : Meter} :
    (label, m) ∈ b.meters.entries ↔ ∃ n, (label, n) ∈ held ∧ r.meters.getD n {} = m := by
  have hmeter : b.meters.find? label = _ := h.meters label
  rw [Dict.mem_entries, hmeter, Option.map_eq_some_iff]
  exact exists_congr fun n => and_congr_left fun _ =>
    ⟨Dict.mem_of_lookup, Dict.lookup_of_mem h.whole.labels⟩

/-- The samples of a family are the entries of the board. -/
theorem samples_eq (h : r.Shows held b) (hf : f ∈ families) :
    (r.samples f.name).map (fun s => (s.label, r.meterOf s)) = b.meters.entries := by
  have hperm : (r.samples f.name).Perm (held.map fun e => ⟨f, e.1, e.2⟩) :=
    h.whole.filter_series hf ▸ List.mergeSort_perm _ _
  -- The labels ascend, and none of them is there twice.
  have hsorted : (r.samples f.name).Pairwise fun s t => s.le t = true :=
    List.pairwise_mergeSort Series.le_trans Series.le_total _
  have hne : (r.samples f.name).Pairwise fun s t => s.label ≠ t.label := by
    rw [← List.pairwise_map]
    refine (hperm.map (·.label)).nodup_iff.mpr ?_
    rw [List.map_map]
    exact h.whole.labels
  have hlt : ((r.samples f.name).map fun s => (s.label, r.meterOf s)).Pairwise
      fun d e => d.1 < e.1 :=
    List.pairwise_map.mpr
      (hsorted.imp₂ (fun _ _ hle hne => Std.lt_of_le_of_ne (of_decide_eq_true hle) hne) hne)
  refine Dict.eq_of_mem_iff hlt b.meters.ascending fun label m => ?_
  rw [h.mem_entries]
  constructor
  · intro hmem
    obtain ⟨s, hs, e⟩ := List.mem_map.mp hmem
    obtain ⟨d, hd, rfl⟩ := List.mem_map.mp (hperm.mem_iff.mp hs)
    cases e
    exact ⟨d.2, hd, rfl⟩
  · rintro ⟨n, hn, rfl⟩
    exact List.mem_map.mpr ⟨⟨f, label, n⟩,
      hperm.mem_iff.mpr (List.mem_map.mpr ⟨(label, n), hn, rfl⟩), rfl⟩

theorem familyText_eq (h : r.Shows held b) (hf : f ∈ families) : r.familyText f = f.text b := by
  rw [familyText, Family.text, ← h.samples_eq hf, List.flatMap_map]

end Shows

/-- If any meter is registered, all families are there, and nothing else. -/
theorem Whole.values_gather (h : r.Whole held) :
    r.gather.values = if held = [] then [] else families := by
  cases held with
  | nil =>
    have hnone : r.series = [] := h.series
    rw [if_pos rfl, gather, hnone]
    rfl
  | cons e held =>
    have hascending : (families.map fun f => (f.name, f)).Pairwise fun d e => d.1 < e.1 :=
      List.pairwise_map.mpr (List.pairwise_map.mp names_ascending)
    have hentries : r.gather.entries = families.map fun f => (f.name, f) := by
      refine Dict.entries_ofList_of_mem hascending fun entry => ?_
      rw [List.mem_map, List.mem_map]
      constructor
      · rintro ⟨s, hs, rfl⟩
        exact ⟨s.family, (h.mem_series.mp hs).1, rfl⟩
      · -- The first meter has a series in each family.
        rintro ⟨f, hf, rfl⟩
        exact ⟨⟨f, e.1, e.2⟩, h.mem_series.mpr ⟨hf, List.mem_cons_self⟩, rfl⟩
    rw [if_neg (List.cons_ne_nil _ _), Dict.values, hentries, List.map_map]
    exact List.map_id _

theorem name_ne_empty : ∀ f ∈ families, f.name.isEmpty = false := by decide

/-- What is written is the text of the board. -/
theorem Shows.encode (h : r.Shows held b) : r.encode = .ok (Text.Utf8.encode b.text) := by
  rw [Registry.encode, h.whole.values_gather, Board.text]
  by_cases hheld : held = []
  · have hempty : b.meters = Dict.empty := Dict.ext_find? fun label => by
      have hmeter : b.meters.find? label = _ := h.meters label
      rw [hmeter, hheld]
      rfl
    rw [if_pos hheld, hempty]
    rfl
  · have hfit : families.findSome? r.unfit? = none := by
      refine List.findSome?_eq_none_iff.mpr fun f hf => ?_
      have hsamples : (r.samples f.name).isEmpty = false := by
        rw [List.isEmpty_eq_false_iff, ← List.length_pos_iff, samples, List.length_mergeSort,
          h.whole.filter_series hf, List.length_map, List.length_pos_iff]
        exact hheld
      rw [unfit?, name_ne_empty f hf, hsamples]
      rfl
    have hany : ¬ b.meters.isEmpty = true := fun hempty => by
      obtain ⟨e, he⟩ := List.exists_mem_of_ne_nil held hheld
      have hentry := h.mem_entries.mpr ⟨e.2, he, rfl⟩
      rw [List.isEmpty_iff.mp hempty] at hentry
      cases hentry
    rw [if_neg hheld, hfit, if_neg hany]
    refine congrArg (fun l => Except.ok (Text.Utf8.encode (String.ofList l)))
      (congrArg List.flatten (List.map_congr_left fun f hf => h.familyText_eq hf))

/-- There is a text, and it is that of the board. -/
theorem Shows.expose (h : r.Shows held b) : r.expose = .ok b.text := by
  rw [Registry.expose, h.encode, Except.bind, Text.Utf8.text?_encode]

/-! ## Used alike -/

/-- The call of a registry that a use of a board comes to, if it comes to any. -/
def call? (r : Registry) : Board.Use → Option Call
  | .register label => some (.register label)
  | .observe label t => (r.series.find? (·.label = label)).map fun s => .observe s.meter t

/-- The calls that uses come to, in turn. -/
def callsOf (r : Registry) : List Board.Use → List Call
  | [] => []
  | u :: rest => (r.call? u).toList ++ (r.after (r.call? u).toList).callsOf rest

namespace Shows

theorem lookup_held (h : r.Shows held b) : b.meter? label = none ↔ label ∉ held.map (·.1) := by
  rw [h.meters, Option.map_eq_none_iff, Dict.lookup_eq_none_iff]

theorem register_error (h : r.Shows held b) (hlabel : label ∈ held.map (·.1)) :
    b.register label = .error .taken := by
  cases hm : b.meter? label with
  | some m => exact Board.register_of_some hm
  | none => exact absurd hlabel (h.lookup_held.mp hm)

theorem register_ok (h : r.Shows held b) (hlabel : label ∉ held.map (·.1)) :
    b.register label = .ok { b with meters := b.meters.insert label {} } :=
  Board.register_of_none (h.lookup_held.mpr hlabel)

theorem register_ok_iff (h : r.Shows held b) (label : String) :
    (∃ b', b.register label = .ok b') ↔ label ∉ held.map (·.1) := by
  by_cases hlabel : label ∈ held.map (·.1)
  · simp [h.register_error hlabel, hlabel]
  · simp [h.register_ok hlabel, hlabel]

theorem next_register (h : r.Shows held b) (label : String) :
    Shows (r.next (.register label)) (held ++ r.handed (.register label))
      (b.next (.register label)) := by
  have hnext := h.whole.next (.register label)
  refine ⟨hnext, fun other => ?_⟩
  have hold : (Dict.lookup other held).map (fun n => r.make.meters.getD n {}) = b.meter? other := by
    rw [h.meters]
    cases hl : Dict.lookup other held with
    | none => rfl
    | some n => exact congrArg some (h.whole.getD_make (Dict.mem_of_lookup hl))
  by_cases hlabel : label ∈ held.map (·.1)
  · rw [Registry.next, handed, h.whole.register_of_mem hlabel, Board.next, h.register_error hlabel,
      List.append_nil]
    exact hold.symm
  · rw [Registry.next, handed, h.whole.register_of_not_mem hlabel, Board.next,
      h.register_ok hlabel, Dict.lookup_append]
    show Dict.find? _ other = _
    rw [Dict.find?_insert]
    by_cases hother : other = label
    · -- The label is new, so what is found under it is the meter at the end.
      have hnone := Dict.lookup_eq_none_iff.mpr (hother ▸ hlabel)
      rw [if_pos hother, hnone, Option.none_or, Dict.lookup, if_pos hother.symm, Option.map_some]
      show _ = some ((r.meters ++ [({} : Meter)]).getD r.meters.length {})
      rw [List.getD_eq_getElem?_getD, List.getElem?_concat_length]
      rfl
    · rw [if_neg hother, Dict.lookup, if_neg (Ne.symm hother)]
      exact (hold.symm.trans (congrArg _ Option.or_none.symm))

theorem next_observe (h : r.Shows held b) {n : Nat} (hn : (label, n) ∈ held) (t : Totals) :
    Shows (r.observe n t) held (b.observe label t) := by
  have hnext := h.whole.next (.observe n t)
  rw [handed, List.append_nil] at hnext
  refine ⟨hnext, fun other => ?_⟩
  rw [Board.meter?_observe, h.meters, h.meters]
  by_cases hother : other = label
  · rw [if_pos hother, hother, Dict.lookup_of_mem h.whole.labels hn, Option.map_some,
      Option.map_some, Option.map_some, h.whole.getD_observe hn, if_pos rfl]
  · rw [if_neg hother]
    cases hl : Dict.lookup other held with
    | none => rfl
    | some k =>
      have hne : k ≠ n := fun e =>
        hother (h.whole.label_unique (e ▸ Dict.mem_of_lookup hl) hn)
      rw [Option.map_some, Option.map_some, h.whole.getD_observe hn, if_neg hne]

/-- A use and the call that it comes to leave the registry and the board alike. -/
theorem next (h : r.Shows held b) (u : Board.Use) :
    Shows (r.after (r.call? u).toList) (held ++ r.handedAlong (r.call? u).toList) (b.next u) := by
  cases u with
  | register label =>
    show Shows (r.next (.register label)) (held ++ (r.handed (.register label) ++ [])) _
    rw [List.append_nil]
    exact h.next_register label
  | observe label t =>
    rw [call?]
    cases hs : r.series.find? (·.label = label) with
    | some s =>
      have hlabel : s.label = label := by simpa using List.find?_some hs
      have hheld := (h.whole.mem_series.mp (List.mem_of_find?_eq_some hs)).2
      show Shows (r.observe s.meter t) (held ++ []) (b.observe label t)
      rw [List.append_nil]
      exact h.next_observe (hlabel ▸ hheld) t
    | none =>
      -- Nobody has a series of the label, so there is no meter under it either.
      have hnone : b.meter? label = none := h.lookup_held.mpr fun hmem => by
        obtain ⟨e, he, rfl⟩ := List.mem_map.mp hmem
        have hthere : ⟨families[0], e.1, e.2⟩ ∈ r.series :=
          h.whole.mem_series.mpr ⟨List.mem_cons_self, he⟩
        simpa using List.find?_eq_none.mp hs _ hthere
      show Shows r (held ++ []) (b.observe label t)
      rw [List.append_nil, Board.observe, hnone]
      exact h

/-- Used alike, a registry and a board stay alike. -/
theorem after (h : r.Shows held b) (uses : List Board.Use) :
    Shows (r.after (r.callsOf uses)) (held ++ r.handedAlong (r.callsOf uses)) (b.after uses) := by
  induction uses generalizing r held b with
  | nil =>
    show Shows r (held ++ []) b
    rw [List.append_nil]
    exact h
  | cons u uses ih =>
    rw [callsOf, after_append, handedAlong_append, ← List.append_assoc]
    exact ih (h.next u)

end Shows

end AgentPulse.Metrics.Registry
