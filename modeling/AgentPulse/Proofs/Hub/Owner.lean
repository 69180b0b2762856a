import AgentPulse.Proofs.Hub.View

/-!
# Owners

Every subscription that exists has a reader, and the reader has a name in the hub (`Owned`). A
subscription is made for a name and goes when the reader of the name is discarded, so this holds
after every run (`Owned.after`), and along a run a subscription exists as long as nothing takes the
name from its reader (`isSome_subscription?_after`).
-/

namespace AgentPulse.Hub

open Bus (Operation)

variable {h : Hub} {id : SubscriptionId} {s : Subscription}

/-- Every subscription that exists has a reader with a name. -/
def Owned (h : Hub) : Prop :=
  ∀ id, (h.subscription? id).isSome → ∃ name r, h.readers.find? name = some r ∧ r.id = id

/-- A reader keeps its name until it is discarded. -/
theorem reader_stays (hs : h.Sound) {name : String} {r : Reader}
    (hr : h.readers.find? name = some r) {a : Action}
    (hstays : .discard r.id ∉ operations r.id.bus h a) :
    ∃ r', (h.next a).readers.find? name = some r' ∧ r'.id = r.id := by
  have hdiscards : .discard r.id ∈ h.discards name r.id.bus :=
    mem_discards.mpr ⟨r, hr, rfl, rfl⟩
  by_cases ha : a.movesReader = false
  · exact ⟨r, by rw [readers_next_eq hs ha, hr], rfl⟩
  · cases a with
    | subscribe handle other key =>
      cases hfind : h.handles.find? handle with
      | none =>
        refine ⟨r, ?_, rfl⟩
        rw [next_of_no_handle (.subscribe handle other key) rfl hfind, hr]
      | some m =>
        obtain ⟨b, -, hbus⟩ := hs.bus_of_handle hfind
        have hne : name ≠ other := fun e => by
          rw [operations, hfind, ← e] at hstays
          exact hstays (List.mem_append_right _ hdiscards)
        refine ⟨r, ?_, rfl⟩
        rw [next_subscribe hs hbus, Dict.find?_insert, if_neg hne, find?_readers_discardReader,
          if_neg hne]
        exact hr
    | stream other =>
      cases hother : h.readers.find? other with
      | none => exact ⟨r, by rw [next_of_no_reader (.stream other) rfl hother, hr], rfl⟩
      | some t =>
        -- A reader that is read as a stream from now on is still the same reader.
        rw [next_stream hother, Dict.find?_insert]
        split
        next e =>
          rw [← e, hr] at hother
          cases hother
          exact ⟨_, rfl, rfl⟩
        next => exact ⟨r, hr, rfl⟩
    | discard other =>
      have hne : name ≠ other := fun e => hstays (e ▸ hdiscards)
      cases hother : h.readers.find? other with
      | none => exact ⟨r, by rw [next_of_no_reader (.discard other) rfl hother, hr], rfl⟩
      | some t =>
        rw [next_discard hother, find?_readers_discardReader, if_neg hne]
        exact ⟨r, hr, rfl⟩
    | _ => exact absurd rfl ha

/-- The names that a step takes from their readers: one is discarded, or makes way for a new one. -/
def vacated (h : Hub) (a : Action) : List String :=
  match a with
  | .subscribe handle name _ => if (h.handles.find? handle).isSome then [name] else []
  | .discard name => [name]
  | _ => []

/-- The name of a reader is taken from it exactly if its subscription is discarded. -/
theorem mem_vacated_iff (hs : h.Sound) {name : String} {r : Reader}
    (hr : h.readers.find? name = some r) {a : Action} :
    name ∈ vacated h a ↔ .discard r.id ∈ operations r.id.bus h a := by
  have hdiscards : ∀ other, .discard r.id ∈ h.discards other r.id.bus ↔ name = other := by
    intro other
    rw [mem_discards]
    constructor
    · rintro ⟨t, ht, -, hop⟩
      exact hs.distinct name other r t hr ht (Operation.discard.inj hop)
    · rintro rfl
      exact ⟨r, hr, rfl, rfl⟩
  cases a with
  | subscribe handle other key =>
    rw [vacated, operations]
    cases h.handles.find? handle with
    | none => simp
    | some m =>
      have hnew : .discard r.id ∉ (if m = r.id.bus then [Operation.subscribe key] else []) := by
        split <;> simp
      simp [hnew, hdiscards]
  | discard other =>
    rw [vacated, operations, hdiscards, List.mem_singleton]
  | _ =>
    -- No other step discards anything.
    constructor
    · intro hmem
      cases hmem
    · intro hop
      cases cause_of_mem hop

/-- Along a run a subscription exists as long as nothing takes the name from its reader. -/
theorem isSome_subscription?_after (hs : h.Sound) {name : String} {r : Reader}
    (hr : h.readers.find? name = some r) (run : List Action) :
    ((h.after run).subscription? r.id).isSome ↔ name ∉ along vacated h run := by
  induction run generalizing h r with
  | nil => exact ⟨fun _ => List.not_mem_nil, fun _ => hs.readers name r hr⟩
  | cons a run ih =>
    rw [after_cons, along_cons, List.mem_append, not_or]
    by_cases hvacated : name ∈ vacated h a
    · -- Who is gone does not come back.
      obtain ⟨s, hsub⟩ := Option.isSome_iff_exists.mp (hs.readers name r hr)
      have hdiscard := (mem_vacated_iff hs hr).mp hvacated
      have hnone : (h.next a).subscription? r.id = none := by
        rw [subscription?_next hs hsub]
        exact Subscription.reactAll_of_discard (id_of_subscription? hsub ▸ hdiscard)
      rw [((isGone_of_next hs hsub hnone).after (hs.next a) run).1]
      exact ⟨nofun, fun hnot => absurd hvacated hnot.1⟩
    · obtain ⟨r', hr', hid⟩ := reader_stays hs hr (mt (mem_vacated_iff hs hr).mpr hvacated)
      rw [← hid, ih (hs.next a) hr']
      exact ⟨fun hrest => ⟨hvacated, hrest⟩, And.right⟩

/-- Whatever is there after a step was there before, or the step made it for a reader. -/
theorem subscription?_of_next (hs : h.Sound) {a : Action}
    (hsub : (h.next a).subscription? id = some s) :
    (h.subscription? id).isSome ∨ ∃ handle name key b,
      a = .subscribe handle name key ∧ h.bus handle = .ok b ∧ id = b.nextId := by
  obtain ⟨b', hb', hfind'⟩ := bus_of_subscription? hsub
  by_cases hn : id.bus < h.buses.length
  · have hb := List.getElem?_eq_getElem hn
    have hbus := hs.buses _ _ hb
    rw [buses_next hs a hb] at hb'
    cases hb'
    cases hold : h.subscription? id with
    | some _ => exact Or.inl rfl
    | none =>
      right
      rw [subscription?_of_bus rfl hb] at hold
      -- The identity is given away by this step, so it is the next one of its bus.
      have hge : (h.buses[id.bus]).issued ≤ id.serial := by
        by_contra hlt
        rw [Bus.subscription?_applyAll_of_gone hbus hold (Nat.lt_of_not_le hlt)] at hfind'
        cases hfind'
      have hlt := ((hbus.applyAll (operations id.bus h a)).issued hfind').2
      rw [Bus.issued_applyAll] at hlt
      rcases keys_operations id.bus h a with hnone | ⟨handle, name, key, rfl, hfind, hone⟩
      · rw [hnone] at hlt
        exact absurd hge (Nat.not_le.mpr hlt)
      · rw [hone] at hlt
        refine ⟨handle, name, key, _, rfl, bus_of_some hfind hb, ?_⟩
        have hserial : id.serial = (h.buses[id.bus]).issued :=
          Nat.le_antisymm (Nat.le_of_lt_succ hlt) hge
        rw [Bus.nextId, hs.numbered _ _ hb, ← hserial]
  · -- A bus that the step made has no subscriptions yet.
    obtain ⟨-, -, limits, -, rfl⟩ := (handleChange_next hs a).created (Nat.le_of_not_lt hn) hb'
    cases hfind'

theorem Owned.next (ho : h.Owned) (hs : h.Sound) (a : Action) : (h.next a).Owned := by
  intro id hsome
  obtain ⟨s', hsub'⟩ := Option.isSome_iff_exists.mp hsome
  rcases subscription?_of_next hs hsub' with hold | ⟨handle, name, key, b, rfl, hbus, rfl⟩
  · obtain ⟨s, hsub⟩ := Option.isSome_iff_exists.mp hold
    obtain ⟨name, r, hr, rfl⟩ := ho id hold
    have hstays : .discard r.id ∉ operations r.id.bus h a := fun hop => by
      rw [subscription?_next hs hsub,
        Subscription.reactAll_of_discard (by rw [id_of_subscription? hsub]; exact hop)] at hsub'
      cases hsub'
    obtain ⟨r', hr', hid⟩ := reader_stays hs hr hstays
    exact ⟨name, r', hr', hid⟩
  · refine ⟨name, { id := b.nextId }, ?_, rfl⟩
    rw [next_subscribe hs hbus, Dict.find?_insert, if_pos rfl]

theorem Owned.after (ho : h.Owned) (hs : h.Sound) (run : List Action) : (h.after run).Owned := by
  induction run generalizing h with
  | nil => exact ho
  | cons a run ih => exact ih (ho.next hs a) (hs.next a)

theorem owned_empty : ({} : Hub).Owned := fun _ hsome => by cases hsome

end AgentPulse.Hub
