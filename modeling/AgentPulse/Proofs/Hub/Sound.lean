import AgentPulse.Proofs.Hub.Step
import Mathlib.Data.List.Induction

/-!
# Sound hubs stay sound

Two statements about every step, through which later proofs see all of them: a step does its
`operations` to each bus and nothing else (`buses_next`), and it keeps a hub sound (`Sound.next`).
From them what a whole run does to a bus: a bus is the one that was created, after all operations
of the run on it (`bus_after`).
-/

namespace AgentPulse.Hub

open Bus (Operation)

variable {h : Hub}

/-! ## What a step does to each bus -/

theorem closes_of_handles {a : Action} (hh : (h.next a).handles = h.handles) (n : Nat) :
    h.closes a n = [] := by
  rw [closes, hh, if_neg (fun e => e.2 e.1)]

theorem buses_next_assign {a : Action} {handle : String} {n m : Nat} {b : Bus}
    (ha : h.next a = h.assign handle n) (hb : h.buses[m]? = some b) :
    (h.next a).buses[m]? = some (b.applyAll (h.closes a m)) := by
  rw [closes, ha, handles_assign, buses_assign hb]

theorem numbered_setBus (hs : h.Sound) {c : Bus} {m : Nat} (hc : h.buses[m]? = some c)
    (op : Operation) (k : Nat) (b : Bus) (hb : (h.setBus (c.apply op)).buses[k]? = some b) :
    b.id = k := by
  have hlt : k < h.buses.length := by
    rw [← length_setBus (c.apply op)]
    exact (List.getElem?_eq_some_iff.mp hb).1
  have hold := List.getElem?_eq_getElem hlt
  rw [buses_setBus hs.numbered hold hc op] at hb
  cases hb
  rw [(Bus.applyAll_frame _ _).1, hs.numbered k _ hold]

/-- A step does its operations to each bus, and nothing else. -/
theorem buses_next (hs : h.Sound) (a : Action) {n : Nat} {b : Bus} (hb : h.buses[n]? = some b) :
    (h.next a).buses[n]? = some (b.applyAll (operations n h a)) := by
  cases a with
  | create handle limits =>
    cases hc : limits.check with
    | error flaw =>
      have hsame := next_create_error (h := h) handle hc
      rw [operations, closes_of_handles (by rw [hsame]), hsame]
      exact hb
    | ok _ =>
      have hold : (h.buses ++ [Bus.ofLimits h.buses.length limits])[n]? = some b := by
        rw [List.getElem?_append_left (List.getElem?_eq_some_iff.mp hb).1]
        exact hb
      rw [operations, closes, next_create_ok handle hc, handles_assign]
      exact buses_assign (h := { h with buses := _ }) hold
  | clone handle copy =>
    cases hfind : h.handles.find? handle with
    | none =>
      have hsame := next_of_no_handle (.clone handle copy) rfl hfind
      rw [operations, closes_of_handles (by rw [hsame]), hsame]
      exact hb
    | some m =>
      obtain ⟨b', hb', hbus⟩ := hs.bus_of_handle hfind
      exact buses_next_assign (next_clone hbus copy) hb
  | release handle =>
    cases hfind : h.handles.find? handle with
    | none =>
      have hsame := next_of_no_handle (.release handle) rfl hfind
      rw [operations, closes_of_handles (by rw [hsame]), hsame]
      exact hb
    | some m =>
      obtain ⟨b', hb', hbus⟩ := hs.bus_of_handle hfind
      rw [operations, closes, next_release hbus, handles_settle,
        buses_settle (h := { h with handles := h.handles.erase handle }) hb, hs.numbered _ _ hb']
      simp only [lost_iff_of_erase, hfind, Option.some.injEq]
      have hsame : (n = m ∧ m ∉ (h.handles.erase handle).values)
          ↔ m = n ∧ n ∉ (h.handles.erase handle).values := by
        constructor
        · rintro ⟨rfl, hnot⟩
          exact ⟨rfl, hnot⟩
        · rintro ⟨rfl, hnot⟩
          exact ⟨rfl, hnot⟩
      simp only [hsame]
  | publish handle beat =>
    cases hfind : h.handles.find? handle with
    | none =>
      rw [next_of_no_handle (.publish handle beat) rfl hfind, operations, hfind]
      exact hb
    | some m =>
      obtain ⟨c, hc, hbus⟩ := hs.bus_of_handle hfind
      simp only [next_publish hbus, operations, hfind, Option.some.injEq]
      exact buses_setBus hs.numbered hb hc (.publish beat)
  | subscribe handle name key =>
    cases hfind : h.handles.find? handle with
    | none =>
      rw [next_of_no_handle (.subscribe handle name key) rfl hfind, operations, hfind]
      exact hb
    | some m =>
      obtain ⟨c, hc, hbus⟩ := hs.bus_of_handle hfind
      rw [next_subscribe hs hbus name key, operations, hfind]
      -- The new subscription is made first, then the reader that had the name is discarded.
      show ((h.setBus (c.apply (.subscribe key))).discardReader name).1.buses[n]? = _
      rw [buses_discardReader (numbered_setBus hs hc (.subscribe key)) name
        (buses_setBus hs.numbered hb hc (.subscribe key)), ← Bus.applyAll_append]
      rfl
  | unsubscribe handle name key =>
    cases hid : h.known.find? name with
    | none =>
      rw [next_unsubscribe_of_no_name hid, operations, hid]
      exact hb
    | some id =>
      cases hfind : h.handles.find? handle with
      | none =>
        rw [next_of_no_handle (.unsubscribe handle name key) rfl hfind, operations, hid, hfind]
        exact hb
      | some m =>
        obtain ⟨c, hc, hbus⟩ := hs.bus_of_handle hfind
        simp only [next_unsubscribe hid hbus key, operations, hid, hfind, Option.some.injEq]
        exact buses_setBus hs.numbered hb hc (.unsubscribe key id)
  | read name reading =>
    cases hr : h.readers.find? name with
    | none =>
      rw [next_of_no_reader (.read name reading) rfl hr, operations, hr]
      exact hb
    | some r =>
      rw [next_read hs hr, operations, hr]
      exact buses_onMailbox (.take r.id) (fun _ => rfl) hb
  | drain name =>
    cases hr : h.readers.find? name with
    | none =>
      rw [next_of_no_reader (.drain name) rfl hr, operations, hr]
      exact hb
    | some r =>
      rw [next_drain hs hr, operations, hr]
      exact buses_onMailbox (.drain r.id) (fun _ => rfl) hb
  | stream name =>
    cases hr : h.readers.find? name with
    | none =>
      rw [next_of_no_reader (.stream name) rfl hr]
      exact hb
    | some r =>
      rw [next_stream hr]
      exact hb
  | discard name =>
    cases hr : h.readers.find? name with
    | none =>
      rw [next_of_no_reader (.discard name) rfl hr, operations, discards, hr]
      exact hb
    | some r =>
      rw [next_discard hr]
      exact buses_discardReader hs.numbered name hb

/-! ## What a step does to the handles -/

/-- Whether an action is about a handle itself and not about the bus that it leads to. -/
def Action.movesHandle : Action → Bool
  | .create .. | .clone .. | .release _ => true
  | _ => false

/-- All other actions leave the handles and the number of buses as they are. -/
theorem handles_next (hs : h.Sound) {a : Action} (ha : a.movesHandle = false) :
    (h.next a).handles = h.handles ∧ (h.next a).buses.length = h.buses.length := by
  cases a with
  | create handle limits => cases ha
  | clone handle copy => cases ha
  | release handle => cases ha
  | publish handle beat =>
    cases hfind : h.handles.find? handle with
    | none => rw [next_of_no_handle (.publish handle beat) rfl hfind]; exact ⟨rfl, rfl⟩
    | some n =>
      obtain ⟨b, -, hbus⟩ := hs.bus_of_handle hfind
      rw [next_publish hbus]
      exact ⟨rfl, length_setBus _⟩
  | subscribe handle name key =>
    cases hfind : h.handles.find? handle with
    | none => rw [next_of_no_handle (.subscribe handle name key) rfl hfind]; exact ⟨rfl, rfl⟩
    | some n =>
      obtain ⟨b, -, hbus⟩ := hs.bus_of_handle hfind
      rw [next_subscribe hs hbus]
      exact ⟨handles_discardReader name, (length_discardReader name).trans (length_setBus _)⟩
  | unsubscribe handle name key =>
    cases hid : h.known.find? name with
    | none => rw [next_unsubscribe_of_no_name hid handle key]; exact ⟨rfl, rfl⟩
    | some id =>
      cases hfind : h.handles.find? handle with
      | none => rw [next_of_no_handle (.unsubscribe handle name key) rfl hfind]; exact ⟨rfl, rfl⟩
      | some n =>
        obtain ⟨b, -, hbus⟩ := hs.bus_of_handle hfind
        rw [next_unsubscribe hid hbus]
        exact ⟨rfl, length_setBus _⟩
  | read name reading =>
    cases hr : h.readers.find? name with
    | none => rw [next_of_no_reader (.read name reading) rfl hr]; exact ⟨rfl, rfl⟩
    | some r => rw [next_read hs hr]; exact ⟨rfl, List.length_modify ..⟩
  | drain name =>
    cases hr : h.readers.find? name with
    | none => rw [next_of_no_reader (.drain name) rfl hr]; exact ⟨rfl, rfl⟩
    | some r => rw [next_drain hs hr]; exact ⟨rfl, List.length_modify ..⟩
  | stream name =>
    cases hr : h.readers.find? name with
    | none => rw [next_of_no_reader (.stream name) rfl hr]; exact ⟨rfl, rfl⟩
    | some r => rw [next_stream hr]; exact ⟨rfl, rfl⟩
  | discard name =>
    cases hr : h.readers.find? name with
    | none => rw [next_of_no_reader (.discard name) rfl hr]; exact ⟨rfl, rfl⟩
    | some r =>
      rw [next_discard hr]
      exact ⟨handles_discardReader name, length_discardReader name⟩

/-- What a step does to the handles, and whether it makes a bus. -/
inductive HandleChange (h h' : Hub) : Prop where
  | same (handles : h'.handles = h.handles) (length : h'.buses.length = h.buses.length)
  | clone (copy : String) (n : Nat) (mem : n ∈ h.handles.values)
      (handles : h'.handles = h.handles.insert copy n)
      (length : h'.buses.length = h.buses.length)
  | release (handle : String) (handles : h'.handles = h.handles.erase handle)
      (length : h'.buses.length = h.buses.length)
  | create (handle : String) (limits : Limits) (check : limits.check = .ok ())
      (handles : h'.handles = h.handles.insert handle h.buses.length)
      (length : h'.buses.length = h.buses.length + 1)
      (bus : h'.buses[h.buses.length]? = some (Bus.ofLimits h.buses.length limits))

/-- Limits that can be kept make a bus of their own at the next number. -/
theorem Sound.bus_next_create (hs : h.Sound) (handle : String) {limits : Limits}
    (hc : limits.check = .ok ()) :
    (h.next (.create handle limits)).buses[h.buses.length]?
      = some (Bus.ofLimits h.buses.length limits) := by
  have hnew : h.buses.length ∉ h.handles.values := fun hmem => by
    obtain ⟨name, hname⟩ := mem_values.mp hmem
    exact Nat.lt_irrefl _ (hs.handles name _ hname)
  rw [next_create_ok handle hc, buses_assign (h := { h with buses := _ })
    List.getElem?_concat_length, if_neg (fun e => hnew e.1)]
  rfl

theorem handleChange_next (hs : h.Sound) (a : Action) : HandleChange h (h.next a) := by
  by_cases ha : a.movesHandle = false
  · obtain ⟨handles, length⟩ := handles_next hs ha
    exact .same handles length
  · cases a with
    | create handle limits =>
      cases hc : limits.check with
      | error flaw => rw [next_create_error handle hc]; exact .same rfl rfl
      | ok _ =>
        refine .create handle limits hc ?_ ?_ (hs.bus_next_create handle hc)
        · rw [next_create_ok handle hc, handles_assign]
        · rw [next_create_ok handle hc, length_assign, List.length_append]
          rfl
    | clone handle copy =>
      cases hfind : h.handles.find? handle with
      | none => rw [next_of_no_handle (.clone handle copy) rfl hfind]; exact .same rfl rfl
      | some n =>
        obtain ⟨b, hb, hbus⟩ := hs.bus_of_handle hfind
        refine .clone copy b.id ?_ ?_ ?_
        · rw [hs.numbered _ _ hb]
          exact mem_values.mpr ⟨handle, hfind⟩
        · rw [next_clone hbus, handles_assign]
        · rw [next_clone hbus, length_assign]
    | release handle =>
      cases hfind : h.handles.find? handle with
      | none => rw [next_of_no_handle (.release handle) rfl hfind]; exact .same rfl rfl
      | some n =>
        obtain ⟨b, hb, hbus⟩ := hs.bus_of_handle hfind
        refine .release handle ?_ ?_
        · rw [next_release hbus, handles_settle]
        · rw [next_release hbus, length_settle]
    | _ => exact absurd rfl ha

namespace HandleChange

variable {h' : Hub}

theorem length_le (c : HandleChange h h') : h.buses.length ≤ h'.buses.length := by
  cases c with
  | same _ length => omega
  | clone _ _ _ _ length => omega
  | release _ _ length => omega
  | create _ _ _ _ length _ => omega

theorem lt_length (c : HandleChange h h') (hs : h.Sound) {name : String} {n : Nat}
    (hfind : h'.handles.find? name = some n) : n < h'.buses.length := by
  have hlength := c.length_le
  cases c with
  | same handles length =>
    rw [handles] at hfind
    exact Nat.lt_of_lt_of_le (hs.handles name n hfind) hlength
  | clone copy m mem handles length =>
    rw [handles, Dict.find?_insert] at hfind
    split at hfind
    next =>
      cases hfind
      obtain ⟨other, hother⟩ := mem_values.mp mem
      exact Nat.lt_of_lt_of_le (hs.handles other n hother) hlength
    next => exact Nat.lt_of_lt_of_le (hs.handles name n hfind) hlength
  | release handle handles length =>
    rw [handles, Dict.find?_erase] at hfind
    split at hfind
    next => cases hfind
    next => exact Nat.lt_of_lt_of_le (hs.handles name n hfind) hlength
  | create handle limits check handles length bus =>
    rw [handles, Dict.find?_insert] at hfind
    split at hfind
    next => cases hfind; omega
    next => exact Nat.lt_of_lt_of_le (hs.handles name n hfind) hlength

/-- A bus that has no handle gets none again. -/
theorem mem_values (c : HandleChange h h') {n : Nat} (hn : n < h.buses.length)
    (hmem : n ∈ h'.handles.values) : n ∈ h.handles.values := by
  obtain ⟨name, hname⟩ := Hub.mem_values.mp hmem
  cases c with
  | same handles _ =>
    rw [handles] at hname
    exact Hub.mem_values.mpr ⟨name, hname⟩
  | clone copy m mem handles _ =>
    rw [handles, Dict.find?_insert] at hname
    split at hname
    next => cases hname; exact mem
    next => exact Hub.mem_values.mpr ⟨name, hname⟩
  | release handle handles _ =>
    rw [handles, Dict.find?_erase] at hname
    split at hname
    next => cases hname
    next => exact Hub.mem_values.mpr ⟨name, hname⟩
  | create handle limits check handles _ _ =>
    rw [handles, Dict.find?_insert] at hname
    split at hname
    next => cases hname; exact absurd hn (Nat.lt_irrefl _)
    next => exact Hub.mem_values.mpr ⟨name, hname⟩

/-- A bus that was not there is new, and has a handle. -/
theorem created (c : HandleChange h h') {n : Nat} {b : Bus} (hn : h.buses.length ≤ n)
    (hb : h'.buses[n]? = some b) :
    n = h.buses.length ∧ n ∈ h'.handles.values ∧
      ∃ limits, limits.check = .ok () ∧ b = Bus.ofLimits n limits := by
  obtain ⟨hlt, -⟩ := List.getElem?_eq_some_iff.mp hb
  cases c with
  | same _ length => omega
  | clone _ _ _ _ length => omega
  | release _ _ length => omega
  | create handle limits check handles length bus =>
    have hnew : n = h.buses.length := by omega
    subst hnew
    refine ⟨rfl, ?_, limits, check, ?_⟩
    · rw [handles]
      exact Hub.mem_values.mpr ⟨handle, by rw [Dict.find?_insert, if_pos rfl]⟩
    · rw [hb] at bus
      exact Option.some.inj bus

end HandleChange

/-! ## Which operations a step does -/

/-- Only through a handle of a bus does anybody subscribe to it. -/
theorem handle_of_subscribe {n : Nat} {a : Action} {key : String}
    (hop : .subscribe key ∈ operations n h a) : n ∈ h.handles.values := by
  cases cause_of_mem hop with
  | subscribe name _ find => exact mem_values.mpr ⟨_, find⟩

/-- A bus that loses its last handle is closed, and nothing else is done to it. -/
theorem operations_of_lost (hs : h.Sound) {a : Action} {n : Nat} (hmem : n ∈ h.handles.values)
    (hlost : n ∉ (h.next a).handles.values) : operations n h a = [.close] := by
  have hmoves : a.movesHandle = true := by
    by_contra ha
    exact hlost ((handles_next hs (by simpa using ha)).1 ▸ hmem)
  have hcloses : h.closes a n = [.close] := if_pos ⟨hmem, hlost⟩
  cases a with
  | create handle limits => exact hcloses
  | clone handle copy => exact hcloses
  | release handle => exact hcloses
  | _ => cases hmoves

/-! ## What a step does to the readers -/

/-- Whether an action is about the name of a reader. -/
def Action.movesReader : Action → Bool
  | .subscribe .. | .stream _ | .discard _ => true
  | _ => false

/-- All other actions leave the readers as they are. -/
theorem readers_next_eq (hs : h.Sound) {a : Action} (ha : a.movesReader = false) :
    (h.next a).readers = h.readers := by
  cases a with
  | create handle limits =>
    cases hc : limits.check with
    | error flaw => rw [next_create_error handle hc]
    | ok _ => rw [next_create_ok handle hc, readers_assign]
  | clone handle copy =>
    cases hfind : h.handles.find? handle with
    | none => rw [next_of_no_handle (.clone handle copy) rfl hfind]
    | some n =>
      obtain ⟨b, -, hbus⟩ := hs.bus_of_handle hfind
      rw [next_clone hbus, readers_assign]
  | release handle =>
    cases hfind : h.handles.find? handle with
    | none => rw [next_of_no_handle (.release handle) rfl hfind]
    | some n =>
      obtain ⟨b, -, hbus⟩ := hs.bus_of_handle hfind
      rw [next_release hbus, readers_settle]
  | publish handle beat =>
    cases hfind : h.handles.find? handle with
    | none => rw [next_of_no_handle (.publish handle beat) rfl hfind]
    | some n =>
      obtain ⟨b, -, hbus⟩ := hs.bus_of_handle hfind
      rw [next_publish hbus]
      rfl
  | subscribe handle name key => cases ha
  | unsubscribe handle name key =>
    cases hid : h.known.find? name with
    | none => rw [next_unsubscribe_of_no_name hid handle key]
    | some id =>
      cases hfind : h.handles.find? handle with
      | none => rw [next_of_no_handle (.unsubscribe handle name key) rfl hfind]
      | some n =>
        obtain ⟨b, -, hbus⟩ := hs.bus_of_handle hfind
        rw [next_unsubscribe hid hbus]
        rfl
  | read name reading =>
    cases hr : h.readers.find? name with
    | none => rw [next_of_no_reader (.read name reading) rfl hr]
    | some r => rw [next_read hs hr]; rfl
  | drain name =>
    cases hr : h.readers.find? name with
    | none => rw [next_of_no_reader (.drain name) rfl hr]
    | some r => rw [next_drain hs hr]; rfl
  | stream name => cases ha
  | discard name => cases ha

/-- A reader is discarded by an action on its own name only: the subscription that a name is given
anew, or that is discarded by name. -/
theorem Sound.name_of_discard (hs : h.Sound) {name : String} {r : Reader}
    (hr : h.readers.find? name = some r) {a : Action}
    (hop : .discard r.id ∈ operations r.id.bus h a) :
    a = .discard name ∨ ∃ handle key, a = .subscribe handle name key := by
  generalize hid : r.id = id at hop
  cases cause_of_mem hop with
  | replace handle key owner own =>
    rw [hs.distinct _ _ _ _ owner hr hid.symm]
    exact Or.inr ⟨handle, key, rfl⟩
  | discard owner own =>
    rw [hs.distinct _ _ _ _ owner hr hid.symm]
    exact Or.inl rfl

/-- Whoever has a reader after a step is new, or had it before and the step did not discard it. -/
theorem readers_next (hs : h.Sound) {a : Action} {name : String} {r : Reader}
    (hr : (h.next a).readers.find? name = some r) :
    (∃ r', h.readers.find? name = some r' ∧ r'.id = r.id ∧
      .discard r.id ∉ operations r.id.bus h a) ∨
    ∃ handle key b, a = .subscribe handle name key ∧ h.bus handle = .ok b ∧ r.id = b.nextId := by
  by_cases ha : a.movesReader = false
  · rw [readers_next_eq hs ha] at hr
    refine Or.inl ⟨r, hr, rfl, fun hop => ?_⟩
    rcases hs.name_of_discard hr hop with rfl | ⟨handle, key, rfl⟩ <;> cases ha
  · cases a with
    | subscribe handle other key =>
      cases hfind : h.handles.find? handle with
      | none =>
        rw [next_of_no_handle (.subscribe handle other key) rfl hfind] at hr
        exact Or.inl ⟨r, hr, rfl, by rw [operations, hfind]; exact List.not_mem_nil⟩
      | some m =>
        obtain ⟨b, -, hbus⟩ := hs.bus_of_handle hfind
        rw [next_subscribe hs hbus] at hr
        rw [Dict.find?_insert] at hr
        split at hr
        next e =>
          cases hr
          exact Or.inr ⟨handle, key, b, by rw [e], hbus, rfl⟩
        next hne =>
          rw [find?_readers_discardReader, if_neg hne] at hr
          refine Or.inl ⟨r, hr, rfl, fun hop => ?_⟩
          rcases hs.name_of_discard hr hop with e | ⟨_, _, e⟩ <;> cases e
          exact hne rfl
    | stream other =>
      left
      cases hother : h.readers.find? other with
      | none =>
        rw [next_of_no_reader (.stream other) rfl hother] at hr
        exact ⟨r, hr, rfl, List.not_mem_nil⟩
      | some t =>
        rw [next_stream hother, Dict.find?_insert] at hr
        split at hr
        next e =>
          cases hr
          exact ⟨t, by rw [e, hother], rfl, List.not_mem_nil⟩
        next => exact ⟨r, hr, rfl, List.not_mem_nil⟩
    | discard other =>
      left
      cases hother : h.readers.find? other with
      | none =>
        rw [next_of_no_reader (.discard other) rfl hother] at hr
        exact ⟨r, hr, rfl, by rw [operations, discards, hother]; exact List.not_mem_nil⟩
      | some t =>
        rw [next_discard hother, find?_readers_discardReader] at hr
        split at hr
        next => cases hr
        next hne =>
          refine ⟨r, hr, rfl, fun hop => ?_⟩
          rcases hs.name_of_discard hr hop with e | ⟨_, _, e⟩ <;> cases e
          exact hne rfl
    | _ => exact absurd rfl ha

/-! ## Sound hubs stay sound -/

/-- The subscription that a step makes, and what the step does on its bus. -/
theorem subscription?_next_subscribe (hs : h.Sound) {handle : String} {n : Nat} {b : Bus}
    (hfind : h.handles.find? handle = some n) (hb : h.buses[n]? = some b) (name key : String) :
    (h.next (.subscribe handle name key)).subscription? b.nextId
      = some ⟨b.nextId, key, { capacity := b.limits.queue }⟩ := by
  have hsound := hs.buses n b hb
  have hbus : b.nextId.bus = n := hs.numbered n b hb
  have hnext := buses_next hs (.subscribe handle name key) hb
  simp only [operations, hfind, if_true, List.singleton_append, Bus.applyAll_cons] at hnext
  rw [subscription?_of_bus hbus hnext]
  have hnew : (b.apply (.subscribe key)).subscription? b.nextId
      = some ⟨b.nextId, key, { capacity := b.limits.queue }⟩ :=
    Bus.subscription?_subscribe_nextId hsound key
  -- Of the operations that follow, if any, none is about the new subscription.
  unfold discards
  cases hr : h.readers.find? name with
  | none => exact hnew
  | some r =>
    by_cases hm : r.id.bus = n
    · simp only [if_pos hm]
      have hne : r.id ≠ b.nextId := fun e => by
        obtain ⟨b', s, hb', hsub⟩ := hs.reader_subscription hr
        rw [hm, hb] at hb'
        cases hb'
        rw [e, hsound.subscription?_nextId] at hsub
        cases hsub
      show (((b.apply (.subscribe key)).apply (.discard r.id))).subscription? b.nextId = _
      rw [Bus.subscription?_apply (hsound.apply _) _ hnew, Subscription.react, if_neg hne]
    · simp only [if_neg hm]
      exact hnew

/-- A step keeps a hub sound. -/
theorem Sound.next (hs : h.Sound) (a : Action) : (h.next a).Sound := by
  have hchange := handleChange_next hs a
  -- Every bus was there before or has just been made.
  have hcases : ∀ (n : Nat) (b' : Bus), (h.next a).buses[n]? = some b' →
      (∃ b, h.buses[n]? = some b ∧ b' = b.applyAll (operations n h a)) ∨
      (n ∈ (h.next a).handles.values ∧ ∃ limits, b' = Bus.ofLimits n limits) := by
    intro n b' hb'
    by_cases hn : n < h.buses.length
    · have hb := List.getElem?_eq_getElem hn
      rw [buses_next hs a hb] at hb'
      exact Or.inl ⟨_, hb, (Option.some.inj hb').symm⟩
    · obtain ⟨-, hmem, limits, -, e⟩ := hchange.created (Nat.le_of_not_lt hn) hb'
      exact Or.inr ⟨hmem, limits, e⟩
  refine ⟨fun n b' hb' => ?_, fun n b' hb' => ?_, fun name n hfind => hchange.lt_length hs hfind,
    fun n b' hb' hnot => ?_, fun name r hr => ?_, fun name name' r r' hr hr' e => ?_⟩
  · rcases hcases n b' hb' with ⟨b, hb, rfl⟩ | ⟨-, limits, rfl⟩
    · rw [(Bus.applyAll_frame b _).1, hs.numbered n b hb]
    · rfl
  · rcases hcases n b' hb' with ⟨b, hb, rfl⟩ | ⟨-, limits, rfl⟩
    · exact (hs.buses n b hb).applyAll _
    · exact Bus.sound_ofLimits n limits
  · rcases hcases n b' hb' with ⟨b, hb, rfl⟩ | ⟨hmem, -⟩
    · -- A bus without a handle has just lost the last one, or was closed before.
      by_cases hmem : n ∈ h.handles.values
      · rw [operations_of_lost hs hmem hnot]
        exact Bus.isClosed_close
      · exact (hs.closed n b hb hmem).applyAll (hs.buses n b hb) fun key hop =>
          hmem (handle_of_subscribe hop)
    · exact absurd hmem hnot
  · rcases readers_next hs hr with ⟨r', hr', hid, hnone⟩ | ⟨handle, key, b, rfl, hbus, hid⟩
    · obtain ⟨b, s, hb, hsub⟩ := hs.reader_subscription hr'
      rw [hid] at hb hsub
      rw [subscription?_of_bus rfl (buses_next hs a hb)]
      exact Bus.isSome_applyAll (hs.buses _ _ hb) (by rw [hsub]; rfl) hnone
    · obtain ⟨n, hfind, hb⟩ := bus_eq_ok hbus
      rw [hid, subscription?_next_subscribe hs hfind hb]
      rfl
  · -- A new subscription has an identity that no reader had.
    have hfresh : ∀ {handle name : String} {b : Bus} {r : Reader},
        h.bus handle = .ok b → h.readers.find? name = some r → r.id ≠ b.nextId := by
      intro handle name b r hbus hr e
      obtain ⟨n, hfind, hb⟩ := bus_eq_ok hbus
      obtain ⟨b', s, hb', hsub⟩ := hs.reader_subscription hr
      rw [e, show b.nextId.bus = n from hs.numbered n b hb, hb] at hb'
      cases hb'
      rw [e, (hs.buses n b hb).subscription?_nextId] at hsub
      cases hsub
    rcases readers_next hs hr with ⟨t, ht, hid, -⟩ | ⟨handle, key, b, rfl, hbus, hid⟩
    · rcases readers_next hs hr' with ⟨t', ht', hid', -⟩ | ⟨handle, key, b, rfl, hbus, hid'⟩
      · exact hs.distinct name name' t t' ht ht' (by rw [hid, hid', e])
      · exact absurd (by rw [hid, e, hid']) (hfresh hbus ht)
    · rcases readers_next hs hr' with ⟨t', ht', hid', -⟩ | ⟨handle', key', b', e', -, -⟩
      · exact absurd (by rw [hid', ← e, hid]) (hfresh hbus ht')
      · cases e'
        rfl

/-- A run keeps a hub sound. -/
theorem Sound.after (hs : h.Sound) (run : List Action) : (h.after run).Sound := by
  induction run generalizing h with
  | nil => exact hs
  | cons a run ih => exact ih (hs.next a)

/-! ## A bus in a run -/

/-- A run does its operations to each bus, and nothing else. -/
theorem buses_after (hs : h.Sound) {n : Nat} {b : Bus} (hb : h.buses[n]? = some b)
    (run : List Action) :
    (h.after run).buses[n]? = some (b.applyAll (along (operations n) h run)) := by
  induction run generalizing h b with
  | nil => exact hb
  | cons a run ih =>
    rw [along_cons, Bus.applyAll_append]
    exact ih (hs.next a) (buses_next hs a hb)

/-- Nothing is done to a bus that is not there. -/
theorem operations_of_no_bus (hs : h.Sound) {n : Nat} (hn : h.buses.length ≤ n) (a : Action) :
    operations n h a = [] := by
  have hhandle : ∀ {handle}, h.handles.find? handle ≠ some n := fun hfind =>
    absurd (hs.handles _ n hfind) (Nat.not_lt.mpr hn)
  have hreader : ∀ {name r}, h.readers.find? name = some r → r.id.bus ≠ n := fun hr e => by
    obtain ⟨b, s, hb, -⟩ := hs.reader_subscription hr
    obtain ⟨hlt, -⟩ := List.getElem?_eq_some_iff.mp hb
    omega
  rw [List.eq_nil_iff_forall_not_mem]
  intro op hop
  cases cause_of_mem hop with
  | lost mem _ =>
    obtain ⟨handle, find⟩ := mem_values.mp mem
    exact hhandle find
  | publish _ find => exact hhandle find
  | subscribe _ _ find => exact hhandle find
  | unsubscribe _ _ find => exact hhandle find
  | replace _ _ owner own => exact hreader owner own
  | read _ owner own => exact hreader owner own
  | drain owner own => exact hreader owner own
  | discard owner own => exact hreader owner own

/-- Nothing is gathered from a run about a bus that is not there at its end. -/
theorem along_of_no_bus {α : Type} {f : Hub → Action → List α} {n : Nat}
    (hf : ∀ (h : Hub) (a : Action), h.Sound → h.buses.length ≤ n → f h a = [])
    {run : List Action} (hn : (after {} run).buses.length ≤ n) : along f {} run = [] := by
  induction run using List.reverseRecOn with
  | nil => rfl
  | append_singleton run a ih =>
    have hs := sound_empty.after run
    rw [after_concat] at hn
    have hbefore := Nat.le_trans (handleChange_next hs a).length_le hn
    rw [along_concat, ih hbefore, hf _ a hs hbefore]
    rfl

/-- What holds of every bus when it is made, and is kept by every step, holds of every bus in a
run. -/
theorem bus_induction {n : Nat} {P : List Action → Bus → Prop}
    (made : ∀ run a limits, (after {} run).buses.length ≤ n → limits.check = .ok () →
      (after {} (run ++ [a])).buses[n]? = some (Bus.ofLimits n limits) →
      P (run ++ [a]) (Bus.ofLimits n limits))
    (step : ∀ run a b, (after {} run).buses[n]? = some b → P run b →
      P (run ++ [a]) (b.applyAll (operations n (after {} run) a)))
    {run : List Action} {b : Bus} (hb : (after {} run).buses[n]? = some b) : P run b := by
  induction run using List.reverseRecOn generalizing b with
  | nil => cases hb
  | append_singleton run a ih =>
    have hs := sound_empty.after run
    rw [after_concat] at hb
    by_cases hn : n < (after {} run).buses.length
    · have hold := List.getElem?_eq_getElem hn
      rw [buses_next hs a hold] at hb
      cases hb
      exact step run a _ hold (ih hold)
    · have hge := Nat.le_of_not_lt hn
      -- The bus was not there before this step, so the step made it.
      obtain ⟨-, -, limits, hcheck, rfl⟩ := (handleChange_next hs a).created hge hb
      exact made run a limits hge hcheck (by rw [after_concat, hb])

/-- Every bus in a run is one of checked limits, after all operations of the run on it. -/
theorem bus_after {run : List Action} {n : Nat} {b : Bus}
    (hb : (after {} run).buses[n]? = some b) :
    ∃ limits, limits.check = .ok () ∧
      b = (Bus.ofLimits n limits).applyAll (along (operations n) {} run) := by
  refine bus_induction (P := fun run b => ∃ limits, limits.check = .ok () ∧
    b = (Bus.ofLimits n limits).applyAll (along (operations n) {} run))
    (fun run a limits hn hcheck _ => ?_) (fun run a b hb ih => ?_) hb
  · have hnone := along_of_no_bus (fun h a hs hn => operations_of_no_bus hs hn a) hn
    refine ⟨limits, hcheck, ?_⟩
    rw [along_concat, hnone, operations_of_no_bus (sound_empty.after run) hn]
    rfl
  · obtain ⟨limits, hcheck, heq⟩ := ih
    refine ⟨limits, hcheck, ?_⟩
    rw [along_concat, Bus.applyAll_append, ← heq]

end AgentPulse.Hub
