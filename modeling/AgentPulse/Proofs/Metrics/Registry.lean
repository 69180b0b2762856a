import AgentPulse.Metrics.Exposition
import AgentPulse.Text.Utf8
import Mathlib.Data.List.Nodup

/-!
# Registries

What a board is underneath. A registry knows nothing of meters: it is a list of series, each of
which shows one number of a meter in a family under a label, and each is entered for itself. It is
refused if its family has a series of the label already. To register a meter is to enter its six
series one after the other and to stop at the first that is refused; nothing takes back the ones
before it.

That a registration is nevertheless done as a whole or not at all rests on what is there already: a
registry that is used in no other way holds of each meter all six series or none (`Whole`), so the
very first series of a label that is taken is refused. Every call keeps a registry whole
(`Whole.next`), and so do all calls one after the other (`Whole.after`).
-/

namespace AgentPulse.Metrics

/-- One number of a meter, as it stands in a family under a label. -/
structure Series where
  family : Family
  label : String
  /-- The number of the meter that is shown. -/
  meter : Nat

/-- Whether the label of a series comes first, or is the same. -/
def Series.le (s t : Series) : Bool := s.label ≤ t.label

theorem Series.le_trans (s t u : Series) (hst : s.le t = true) (htu : t.le u = true) :
    s.le u = true :=
  decide_eq_true (String.le_trans (of_decide_eq_true hst) (of_decide_eq_true htu))

theorem Series.le_total (s t : Series) : (s.le t || t.le s) = true := by
  simpa [le] using String.le_total s.label t.label

/-- Series in the order in which they were entered, and all meters that were made for them. A meter
whose registration is refused has a number like all others, but nobody comes to hold it. -/
structure Registry where
  series : List Series := []
  meters : List Meter := []

namespace Registry

/-! ## Entering series -/

/-- Why a series is not entered. -/
inductive Flaw where
  /-- There is one of the same family and label. -/
  | taken
  /-- A series of the family is there, with other words of help. -/
  | otherHelp (family : String)
  deriving DecidableEq, Repr

/-- Enter one series. -/
def enter (r : Registry) (s : Series) : Except Flaw Registry :=
  if r.series.any fun t => t.family.name = s.family.name ∧ t.label = s.label then .error .taken
  else if r.series.any fun t => t.family.name = s.family.name ∧ t.family.help ≠ s.family.help then
    .error (.otherHelp s.family.name)
  else .ok { r with series := r.series ++ [s] }

/-- Enter series one after the other. Where one is refused, those before it stay. -/
def enterAll (r : Registry) : List Series → Registry × Except Flaw Unit
  | [] => (r, .ok ())
  | s :: rest =>
    match r.enter s with
    | .ok r' => r'.enterAll rest
    | .error flaw => (r, .error flaw)

/-- The families in the order in which the series of a meter are entered. -/
def order : List Family :=
  ["heartbeat_bus_keys", "heartbeat_bus_buffered_events", "heartbeat_bus_active_subscriptions",
    "heartbeat_bus_published_total", "heartbeat_bus_delivered_total",
    "heartbeat_bus_dropped_total"].filterMap fun name => families.find? (·.name = name)

/-- The series of a meter under a label. -/
def seriesOf (label : String) (meter : Nat) : List Series := order.map fun f => ⟨f, label, meter⟩

/-- Make a meter. -/
def make (r : Registry) : Registry := { r with meters := r.meters ++ [({} : Meter)] }

/-- Make a meter and enter its series under a label. If all are entered, the meter is handed out. -/
def register (r : Registry) (label : String) : Registry × Except Flaw Nat :=
  let meter := r.meters.length
  let (r, result) := r.make.enterAll (seriesOf label meter)
  (r, result.map fun _ => meter)

/-- Let a meter take note of totals. -/
def observe (r : Registry) (meter : Nat) (t : Totals) : Registry :=
  { r with meters := r.meters.modify meter (·.observe t) }

/-! ## What a registry shows -/

/-- The meter that a series shows. -/
def meterOf (r : Registry) (s : Series) : Meter := r.meters.getD s.meter {}

/-- The families of all series, by name and in the order of their names. -/
def gather (r : Registry) : Dict Family :=
  Dict.ofList (r.series.map fun s => (s.family.name, s.family))

/-- The series of a family in the order of their labels. -/
def samples (r : Registry) (family : String) : List Series :=
  (r.series.filter (·.family.name = family)).mergeSort Series.le

/-- The lines of a family. -/
def familyText (r : Registry) (f : Family) : List Char :=
  f.helpLine ++ f.typeLine ++ (r.samples f.name).flatMap fun s => f.sampleLine s.label (r.meterOf s)

/-- Why there is no text. -/
inductive Unfit where
  | noSamples (family : String)
  | noName
  /-- What was written is not UTF-8. -/
  | notUtf8
  deriving DecidableEq, Repr

/-- What is wrong with a family, if anything is. -/
def unfit? (r : Registry) (f : Family) : Option Unfit :=
  if (r.samples f.name).isEmpty then some (.noSamples f.name)
  else if f.name.isEmpty then some .noName
  else none

/-- The lines of all families, as bytes, if each of them can be written. -/
def encode (r : Registry) : Except Unfit Bytes :=
  match r.gather.values.findSome? r.unfit? with
  | some flaw => .error flaw
  | none => .ok (Text.Utf8.encode (String.ofList (r.gather.values.flatMap r.familyText)))

/-- The text of a registry, read from the bytes that were written. -/
def expose (r : Registry) : Except Unfit String :=
  r.encode.bind fun bytes =>
    match Text.Utf8.text? bytes with
    | some text => .ok text
    | none => .error .notUtf8

/-! ## The families of a meter -/

theorem order_eq : order = [families[4], families[1], families[0], families[5], families[2],
    families[3]] := rfl

theorem mem_order {f : Family} : f ∈ order ↔ f ∈ families := by
  simp only [order_eq, families, List.getElem_cons_zero, List.getElem_cons_succ, List.mem_cons,
    List.not_mem_nil, or_false]
  tauto

theorem names_ascending : (families.map (·.name)).Pairwise (· < ·) := by decide

theorem nodup_names : (order.map (·.name)).Nodup := by decide

theorem eq_of_name {f g : Family} (hf : f ∈ families) (hg : g ∈ families) (h : f.name = g.name) :
    f = g :=
  List.inj_on_of_nodup_map nodup_names (mem_order.mpr hf) (mem_order.mpr hg) h

/-- Each family has one series of a meter. -/
theorem filter_seriesOf {f : Family} (hf : f ∈ families) (label : String) (meter : Nat) :
    (seriesOf label meter).filter (·.family.name = f.name) = [⟨f, label, meter⟩] := by
  have hone : order.filter (·.name = f.name) = [f] := by
    simp only [families, List.mem_cons, List.not_mem_nil, or_false] at hf
    rcases hf with rfl | rfl | rfl | rfl | rfl | rfl <;> rfl
  rw [seriesOf, List.filter_map]
  exact congrArg (List.map _) hone

/-! ## Entering one after the other -/

variable {r : Registry} {s t : Series} {new : List Series}

theorem enter_of_taken (ht : t ∈ r.series) (hname : t.family.name = s.family.name)
    (hlabel : t.label = s.label) : r.enter s = .error .taken :=
  if_pos (List.any_eq_true.mpr ⟨t, ht, decide_eq_true ⟨hname, hlabel⟩⟩)

/-- Two series that can stand beside each other. -/
def Agrees (t s : Series) : Prop :=
  t.family.name = s.family.name → t.label ≠ s.label ∧ t.family.help = s.family.help

theorem enter_of_agrees (h : ∀ t ∈ r.series, Agrees t s) :
    r.enter s = .ok { r with series := r.series ++ [s] } := by
  have htaken : ¬ (r.series.any fun t => t.family.name = s.family.name ∧ t.label = s.label)
      = true := fun hany => by
    obtain ⟨t, ht, hsame⟩ := List.any_eq_true.mp hany
    obtain ⟨hname, hlabel⟩ := of_decide_eq_true hsame
    exact (h t ht hname).1 hlabel
  have hhelp : ¬ (r.series.any fun t =>
      t.family.name = s.family.name ∧ t.family.help ≠ s.family.help) = true := fun hany => by
    obtain ⟨t, ht, hother⟩ := List.any_eq_true.mp hany
    obtain ⟨hname, hne⟩ := of_decide_eq_true hother
    exact hne (h t ht hname).2
  rw [enter, if_neg htaken, if_neg hhelp]

/-- Series that can stand beside each other and beside those that are there are all entered. -/
theorem enterAll_of_agrees (hnew : new.Pairwise Agrees)
    (h : ∀ t ∈ r.series, ∀ s ∈ new, Agrees t s) :
    r.enterAll new = ({ r with series := r.series ++ new }, .ok ()) := by
  induction new generalizing r with
  | nil => rw [enterAll, List.append_nil]
  | cons s rest ih =>
    obtain ⟨hs, hrest⟩ := List.pairwise_cons.mp hnew
    rw [enterAll, enter_of_agrees fun t ht => h t ht s List.mem_cons_self]
    have hnext : ∀ t ∈ r.series ++ [s], ∀ s' ∈ rest, Agrees t s' := by
      intro t ht s' hs'
      rcases List.mem_append.mp ht with ht | ht
      · exact h t ht s' (List.mem_cons_of_mem _ hs')
      · rw [List.mem_singleton.mp ht]
        exact hs s' hs'
    show enterAll { r with series := r.series ++ [s] } rest = _
    rw [ih hrest hnext, List.append_assoc, List.singleton_append]

/-! ## Whole registries -/

/-- Whether exactly the meters that are held under some labels are registered, all of them whole. -/
structure Whole (r : Registry) (held : List (String × Nat)) : Prop where
  series : r.series = held.flatMap fun e => seriesOf e.1 e.2
  labels : (held.map (·.1)).Nodup
  meters : (held.map (·.2)).Nodup
  made : ∀ e ∈ held, e.2 < r.meters.length

theorem whole_empty : Whole {} [] := ⟨rfl, .nil, .nil, nofun⟩

namespace Whole

variable {held : List (String × Nat)} {label : String}

theorem mem_series (h : r.Whole held) :
    s ∈ r.series ↔ s.family ∈ families ∧ (s.label, s.meter) ∈ held := by
  simp only [h.series, List.mem_flatMap, seriesOf, List.mem_map, mem_order]
  constructor
  · rintro ⟨e, he, f, hf, rfl⟩
    exact ⟨hf, he⟩
  · rintro ⟨hf, he⟩
    exact ⟨_, he, s.family, hf, rfl⟩

/-- In each family there is one series for each label that is held, and no other. -/
theorem filter_series (h : r.Whole held) {f : Family} (hf : f ∈ families) :
    r.series.filter (·.family.name = f.name) = held.map fun e => ⟨f, e.1, e.2⟩ := by
  rw [h.series, List.filter_flatMap, List.map_eq_flatMap]
  exact congrArg (List.flatMap · held) (funext fun e => filter_seriesOf hf e.1 e.2)

/-- A label that is held is refused with the first series. -/
theorem register_of_mem (h : r.Whole held) (hlabel : label ∈ held.map (·.1)) :
    r.register label = (r.make, .error .taken) := by
  obtain ⟨e, he, rfl⟩ := List.mem_map.mp hlabel
  -- Which family comes first does not matter: the meter that is held has a series in each.
  obtain ⟨f, rest, horder⟩ : ∃ f rest, order = f :: rest := ⟨_, _, order_eq⟩
  have hf : f ∈ families := mem_order.mp (horder ▸ List.mem_cons_self)
  have hthere : ⟨f, e.1, e.2⟩ ∈ r.series := h.mem_series.mpr ⟨hf, he⟩
  have hrefused : r.make.enter ⟨f, e.1, r.meters.length⟩ = .error .taken :=
    enter_of_taken hthere rfl rfl
  rw [register, seriesOf, horder, List.map_cons, enterAll, hrefused]
  rfl

/-- All series of any other label are entered. -/
theorem register_of_not_mem (h : r.Whole held) (hlabel : label ∉ held.map (·.1)) :
    r.register label =
      ({ r.make with series := r.series ++ seriesOf label r.meters.length },
        .ok r.meters.length) := by
  have hnew : (seriesOf label r.meters.length).Pairwise Agrees :=
    List.pairwise_map.mpr ((List.pairwise_map.mp nodup_names).imp fun hne e => absurd e hne)
  have hold : ∀ t ∈ r.series, ∀ s ∈ seriesOf label r.meters.length, Agrees t s := by
    intro t ht s hs hname
    obtain ⟨f, hf, rfl⟩ := List.mem_map.mp hs
    obtain ⟨hfamily, hheld⟩ := h.mem_series.mp ht
    exact ⟨fun e => hlabel (List.mem_map.mpr ⟨_, hheld, e⟩),
      congrArg Family.help (eq_of_name hfamily (mem_order.mp hf) hname)⟩
  rw [register, enterAll_of_agrees (r := r.make) hnew hold]
  rfl

theorem register_ok_iff (h : r.Whole held) (label : String) :
    (∃ meter, (r.register label).2 = .ok meter) ↔ label ∉ held.map (·.1) := by
  by_cases hlabel : label ∈ held.map (·.1)
  · simp [h.register_of_mem hlabel, hlabel]
  · simp [h.register_of_not_mem hlabel, hlabel]

/-- Under a label one meter is held. -/
theorem meter_unique (h : r.Whole held) {meter other : Nat} (hmeter : (label, meter) ∈ held)
    (hother : (label, other) ∈ held) : meter = other :=
  congrArg Prod.snd (List.inj_on_of_nodup_map h.labels hmeter hother rfl)

/-- A meter is held under one label. -/
theorem label_unique (h : r.Whole held) {other : String} {meter : Nat}
    (hlabel : (label, meter) ∈ held) (hother : (other, meter) ∈ held) : label = other :=
  congrArg Prod.fst (List.inj_on_of_nodup_map h.meters hlabel hother rfl)

/-- The meters that are made already stay what they are when another one is made. -/
theorem getD_make (h : r.Whole held) {meter : Nat} (hmeter : (label, meter) ∈ held) :
    r.make.meters.getD meter {} = r.meters.getD meter {} := by
  rw [List.getD_eq_getElem?_getD, List.getD_eq_getElem?_getD, make,
    List.getElem?_append_left (h.made _ hmeter)]

/-- What is shown to a meter changes this one and no other. -/
theorem getD_observe (h : r.Whole held) {meter : Nat} (hmeter : (label, meter) ∈ held) (n : Nat)
    (t : Totals) :
    (r.observe meter t).meters.getD n {}
      = if n = meter then (r.meters.getD n {}).observe t else r.meters.getD n {} := by
  rw [observe, List.getD_eq_getElem?_getD, List.getD_eq_getElem?_getD, List.getElem?_modify]
  by_cases hn : n = meter
  · subst hn
    simp [List.getElem?_eq_getElem (h.made _ hmeter)]
  · simp [hn, Ne.symm hn]

end Whole

/-! ## Calls -/

/-- The ways in which a registry is used. -/
inductive Call where
  | register (label : String)
  /-- Show totals to a meter. -/
  | observe (meter : Nat) (t : Totals)

/-- The registry after a call. -/
def next (r : Registry) : Call → Registry
  | .register label => (r.register label).1
  | .observe meter t => r.observe meter t

/-- The label and the meter that a call hands out. -/
def handed (r : Registry) : Call → List (String × Nat)
  | .register label =>
    match (r.register label).2 with
    | .ok meter => [(label, meter)]
    | .error _ => []
  | .observe .. => []

/-- The registry after calls, one after the other. -/
def after (r : Registry) (calls : List Call) : Registry := calls.foldl next r

/-- All labels and meters that calls hand out, in turn. -/
def handedAlong (r : Registry) : List Call → List (String × Nat)
  | [] => []
  | c :: rest => r.handed c ++ (r.next c).handedAlong rest

theorem after_append (r : Registry) (calls more : List Call) :
    r.after (calls ++ more) = (r.after calls).after more := List.foldl_append ..

theorem handedAlong_append (r : Registry) (calls more : List Call) :
    r.handedAlong (calls ++ more)
      = r.handedAlong calls ++ (r.after calls).handedAlong more := by
  induction calls generalizing r with
  | nil => rfl
  | cons c calls ih =>
    rw [List.cons_append, handedAlong, handedAlong, ih, List.append_assoc]
    rfl

variable {held : List (String × Nat)}

/-- A call keeps a registry whole. -/
theorem Whole.next (h : r.Whole held) (c : Call) : (r.next c).Whole (held ++ r.handed c) := by
  cases c with
  | observe meter t =>
    rw [handed, List.append_nil]
    refine ⟨h.series, h.labels, h.meters, fun e he => ?_⟩
    show e.2 < (r.meters.modify meter _).length
    rw [List.length_modify]
    exact h.made e he
  | register label =>
    have hmade : ∀ e ∈ held, e.2 < r.make.meters.length := fun e he =>
      Nat.lt_of_lt_of_le (h.made e he) (List.prefix_append _ _).length_le
    by_cases hlabel : label ∈ held.map (·.1)
    · -- The meter that was made stays behind, but nobody holds it.
      rw [Registry.next, handed, h.register_of_mem hlabel, List.append_nil]
      exact ⟨h.series, h.labels, h.meters, hmade⟩
    · rw [Registry.next, handed, h.register_of_not_mem hlabel]
      -- All meters that are held were made before this one.
      have hmeter : r.meters.length ∉ held.map (·.2) := fun hmem => by
        obtain ⟨e, he, hnumber⟩ := List.mem_map.mp hmem
        exact Nat.lt_irrefl _ (hnumber ▸ h.made e he)
      refine ⟨?_, ?_, ?_, fun e he => ?_⟩
      · rw [List.flatMap_append, ← h.series]
        exact congrArg _ (List.append_nil _).symm
      · rw [List.map_append]
        exact h.labels.append (List.nodup_singleton _) (by simpa using hlabel)
      · rw [List.map_append]
        exact h.meters.append (List.nodup_singleton _) (by simpa using hmeter)
      · rcases List.mem_append.mp he with he | he
        · exact hmade e he
        · rw [List.mem_singleton.mp he]
          exact List.length_append ▸ Nat.lt_succ_self _

/-- Calls keep a registry whole. -/
theorem Whole.after (h : r.Whole held) (calls : List Call) :
    (r.after calls).Whole (held ++ r.handedAlong calls) := by
  induction calls generalizing r held with
  | nil =>
    rw [handedAlong, List.append_nil]
    exact h
  | cons c calls ih =>
    rw [handedAlong, ← List.append_assoc]
    exact ih (h.next c)

end Registry

end AgentPulse.Metrics
