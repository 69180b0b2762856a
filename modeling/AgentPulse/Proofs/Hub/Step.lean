import AgentPulse.Proofs.Hub.Run

/-!
# What a step of a hub does

Each action by itself: what the next hub is, by the names that the action gives (`next_publish`,
`next_subscribe` and so on), and before that the parts that several actions share: replacing a
handle, discarding a reader, changing one mailbox.
-/

namespace AgentPulse.Hub

open Bus (Operation)

variable {h : Hub}

/-! ## Parts of steps -/

/-- Putting back a bus after an operation does this operation to it and nothing to the others. -/
theorem buses_setBus (hn : ∀ (n : Nat) (b : Bus), h.buses[n]? = some b → b.id = n) {b c : Bus}
    {n m : Nat} (hb : h.buses[n]? = some b) (hc : h.buses[m]? = some c) (op : Operation) :
    (h.setBus (c.apply op)).buses[n]? = some (b.applyAll (if m = n then [op] else [])) := by
  have hid : (c.apply op).id = m := (Bus.apply_frame c op).1.trans (hn m c hc)
  show (h.buses.set (c.apply op).id (c.apply op))[n]? = _
  rw [hid, List.getElem?_set]
  by_cases hm : m = n
  · subst hm
    rw [hb] at hc
    cases hc
    rw [if_pos rfl, if_pos rfl, if_pos (List.getElem?_eq_some_iff.mp hb).1]
    rfl
  · rw [if_neg hm, if_neg hm, hb]
    rfl

theorem length_setBus (b : Bus) : (h.setBus b).buses.length = h.buses.length :=
  List.length_set ..

theorem getElem?_modify {n m : Nat} (f : Bus → Bus) {b : Bus} (hb : h.buses[m]? = some b) :
    (h.buses.modify n f)[m]? = some (if m = n then f b else b) := by
  rw [List.getElem?_modify, hb]
  by_cases hm : m = n
  · simp [hm]
  · simp [hm, Ne.symm hm]

/-! ## Handles -/

theorem handles_settle (n : Nat) : (h.settle n).handles = h.handles := by
  unfold settle
  split <;> rfl

theorem handles_assign (handle : String) (n : Nat) :
    (h.assign handle n).handles = h.handles.insert handle n := by
  unfold assign
  split
  next => exact handles_settle _
  next => rfl

theorem readers_settle (n : Nat) : (h.settle n).readers = h.readers := by
  unfold settle
  split <;> rfl

theorem readers_assign (handle : String) (n : Nat) :
    (h.assign handle n).readers = h.readers := by
  unfold assign
  split
  next => exact readers_settle _
  next => rfl

theorem length_settle (n : Nat) : (h.settle n).buses.length = h.buses.length := by
  unfold settle
  split
  next => rfl
  next => exact List.length_modify ..

theorem length_assign (handle : String) (n : Nat) :
    (h.assign handle n).buses.length = h.buses.length := by
  unfold assign
  split
  next => exact length_settle _
  next => rfl

/-- Settling a number closes the bus of this number if no handle is left, and no other. -/
theorem buses_settle {n m : Nat} {b : Bus} (hb : h.buses[m]? = some b) :
    (h.settle n).buses[m]?
      = some (b.applyAll (if m = n ∧ n ∉ h.handles.values then [.close] else [])) := by
  unfold settle
  by_cases hn : n ∈ h.handles.values
  · rw [if_pos hn, if_neg (fun e => e.2 hn), hb]
    rfl
  · rw [if_neg hn]
    show (h.buses.modify n Bus.close)[m]? = _
    rw [getElem?_modify Bus.close hb]
    by_cases hm : m = n
    · rw [if_pos hm, if_pos ⟨hm, hn⟩]
      rfl
    · rw [if_neg hm, if_neg (fun e => hm e.1)]
      rfl

/-- A bus that had a handle and has none after a name is given away belonged to this name. -/
theorem lost_iff_of_insert {d : Dict Nat} {handle : String} {n m : Nat} :
    m ∈ d.values ∧ m ∉ (d.insert handle n).values
      ↔ d.find? handle = some m ∧ m ∉ (d.insert handle n).values := by
  constructor
  · rintro ⟨hmem, hnot⟩
    refine ⟨?_, hnot⟩
    obtain ⟨name, hname⟩ := mem_values.mp hmem
    by_cases e : name = handle
    · exact e ▸ hname
    · exact absurd (mem_values.mpr ⟨name, by rw [Dict.find?_insert, if_neg e, hname]⟩) hnot
  · rintro ⟨hfind, hnot⟩
    exact ⟨mem_values.mpr ⟨handle, hfind⟩, hnot⟩

theorem lost_iff_of_erase {d : Dict Nat} {handle : String} {m : Nat} :
    m ∈ d.values ∧ m ∉ (d.erase handle).values
      ↔ d.find? handle = some m ∧ m ∉ (d.erase handle).values := by
  constructor
  · rintro ⟨hmem, hnot⟩
    refine ⟨?_, hnot⟩
    obtain ⟨name, hname⟩ := mem_values.mp hmem
    by_cases e : name = handle
    · exact e ▸ hname
    · exact absurd (mem_values.mpr ⟨name, by rw [Dict.find?_erase, if_neg e, hname]⟩) hnot
  · rintro ⟨hfind, hnot⟩
    exact ⟨mem_values.mpr ⟨handle, hfind⟩, hnot⟩

/-- Giving a name to another bus closes the one that loses its last handle by it. -/
theorem buses_assign {handle : String} {n m : Nat} {b : Bus} (hb : h.buses[m]? = some b) :
    (h.assign handle n).buses[m]?
      = some (b.applyAll
          (if m ∈ h.handles.values ∧ m ∉ (h.handles.insert handle n).values
            then [.close] else [])) := by
  have hlost : m ∈ h.handles.values ∧ m ∉ (h.handles.insert handle n).values ↔ _ :=
    lost_iff_of_insert
  unfold assign
  cases hfind : h.handles.find? handle with
  | none =>
    rw [if_neg (fun e => by rw [hlost, hfind] at e; cases e.1)]
    exact hb
  | some previous =>
    -- Only the bus that the name led to before can have lost its last handle.
    show (Hub.settle { h with handles := h.handles.insert handle n } previous).buses[m]? = _
    rw [buses_settle (h := { h with handles := h.handles.insert handle n }) hb]
    have hsame : (m = previous ∧ previous ∉ (h.handles.insert handle n).values)
        ↔ m ∈ h.handles.values ∧ m ∉ (h.handles.insert handle n).values := by
      rw [hlost, hfind, Option.some.injEq]
      constructor
      · rintro ⟨rfl, hnot⟩
        exact ⟨rfl, hnot⟩
      · rintro ⟨rfl, hnot⟩
        exact ⟨rfl, hnot⟩
    simp only [hsame]

/-! ## Readers -/

/-- What becomes of a hub when the reader of a name is discarded. -/
theorem discardReader_cases (name : String) :
    (h.readers.find? name = none ∧ (h.discardReader name).1 = h) ∨
    (∃ r, h.readers.find? name = some r ∧ h.buses[r.id.bus]? = none ∧
      (h.discardReader name).1 = { h with readers := h.readers.erase name }) ∨
    (∃ r b, h.readers.find? name = some r ∧ h.buses[r.id.bus]? = some b ∧
      (h.discardReader name).1
        = { h with readers := h.readers.erase name }.setBus (b.discard r.id).1) := by
  cases hr : h.readers.find? name with
  | none => exact Or.inl ⟨rfl, by rw [discardReader, hr]⟩
  | some r =>
    right
    cases hb : h.buses[r.id.bus]? with
    | none => exact Or.inl ⟨r, rfl, hb, by simp only [discardReader, hr, hb]⟩
    | some b => exact Or.inr ⟨r, b, rfl, hb, by simp only [discardReader, hr, hb]⟩

theorem handles_discardReader (name : String) : (h.discardReader name).1.handles = h.handles := by
  obtain ⟨-, e⟩ | ⟨r, -, -, e⟩ | ⟨r, b, -, -, e⟩ := discardReader_cases (h := h) name <;> rw [e]
  rfl

theorem length_discardReader (name : String) :
    (h.discardReader name).1.buses.length = h.buses.length := by
  obtain ⟨-, e⟩ | ⟨r, -, -, e⟩ | ⟨r, b, -, -, e⟩ := discardReader_cases (h := h) name <;> rw [e]
  exact length_setBus _

theorem find?_readers_discardReader (name other : String) :
    (h.discardReader name).1.readers.find? other
      = if other = name then none else h.readers.find? other := by
  obtain ⟨hr, e⟩ | ⟨r, -, -, e⟩ | ⟨r, b, -, -, e⟩ := discardReader_cases (h := h) name
  · rw [e]
    split
    next ho => rw [ho, hr]
    next => rfl
  · rw [e, ← Dict.find?_erase]
  · rw [e, ← Dict.find?_erase]
    rfl

/-- Discarding the reader of a name discards its subscription and does nothing else to any bus. -/
theorem buses_discardReader (hn : ∀ (n : Nat) (b : Bus), h.buses[n]? = some b → b.id = n)
    (name : String) {m : Nat} {b : Bus} (hb : h.buses[m]? = some b) :
    (h.discardReader name).1.buses[m]? = some (b.applyAll (h.discards name m)) := by
  obtain ⟨hr, e⟩ | ⟨r, hr, hbus, e⟩ | ⟨r, b', hr, hbus, e⟩ := discardReader_cases (h := h) name
  · rw [e, discards, hr, hb]
    rfl
  · have hne : r.id.bus ≠ m := fun e => by rw [e, hb] at hbus; cases hbus
    simp only [e, discards, hr, if_neg hne]
    exact hb
  · have hset := buses_setBus (h := { h with readers := h.readers.erase name }) hn hb hbus
      (.discard r.id)
    rw [e, discards, hr]
    exact hset

/-! ## Each action by itself -/

theorem next_create_ok (handle : String) {limits : Limits} (hc : limits.check = .ok ()) :
    h.next (.create handle limits)
      = { h with buses := h.buses ++ [Bus.ofLimits h.buses.length limits] }.assign handle
          h.buses.length := by
  simp only [next, step, Bus.create, hc]
  rfl

theorem next_create_error (handle : String) {limits : Limits} {flaw : Limits.Flaw}
    (hc : limits.check = .error flaw) : h.next (.create handle limits) = h := by
  simp only [next, step, Bus.create, hc]
  rfl

theorem next_clone {handle : String} {b : Bus} (hb : h.bus handle = .ok b) (copy : String) :
    h.next (.clone handle copy) = h.assign copy b.id := by
  simp only [next, step, hb]
  rfl

theorem next_release {handle : String} {b : Bus} (hb : h.bus handle = .ok b) :
    h.next (.release handle) = { h with handles := h.handles.erase handle }.settle b.id := by
  simp only [next, step, hb]
  rfl

theorem step_publish {handle : String} {b : Bus} (hb : h.bus handle = .ok b) (beat : Beat) :
    h.step (.publish handle beat) = .ok
      (.delivery (b.publish beat).2.1, h.setBus (b.publish beat).1, (b.publish beat).2.2) := by
  simp only [step, hb]
  rfl

theorem next_publish {handle : String} {b : Bus} (hb : h.bus handle = .ok b) (beat : Beat) :
    h.next (.publish handle beat) = h.setBus (b.publish beat).1 := by
  rw [next, step_publish hb]

theorem step_unsubscribe {handle name : String} {b : Bus} {id : SubscriptionId}
    (hid : h.known.find? name = some id) (hb : h.bus handle = .ok b) (key : String) :
    h.step (.unsubscribe handle name key) = .ok
      (.count ((b.unsubscribe key id).1.subscriberCount key), h.setBus (b.unsubscribe key id).1,
        (b.unsubscribe key id).2) := by
  simp only [step, identity, hid, hb]
  rfl

theorem next_unsubscribe {handle name : String} {b : Bus} {id : SubscriptionId}
    (hid : h.known.find? name = some id) (hb : h.bus handle = .ok b) (key : String) :
    h.next (.unsubscribe handle name key) = h.setBus (b.unsubscribe key id).1 := by
  rw [next, step_unsubscribe hid hb]

theorem next_unsubscribe_of_no_name {name : String} (hid : h.known.find? name = none)
    (handle key : String) : h.next (.unsubscribe handle name key) = h := by
  simp only [next, step, identity, hid]
  rfl

/-- The name of the handle that an action is made through. -/
def Action.handle? : Action → Option String
  | .clone handle _ | .release handle | .publish handle _ | .subscribe handle _ _
  | .unsubscribe handle _ _ => some handle
  | _ => none

/-- The name of the reader that an action is made on. -/
def Action.owner? : Action → Option String
  | .read name _ | .drain name | .stream name | .discard name => some name
  | _ => none

/-- Where the handle of an action is unknown, nothing happens. -/
theorem next_of_no_handle (a : Action) {handle : String} (ha : a.handle? = some handle)
    (hfind : h.handles.find? handle = none) : h.next a = h := by
  have hbus := bus_of_none hfind
  cases a with
  | clone _ copy => cases ha; simp only [next, step, hbus]; rfl
  | release _ => cases ha; simp only [next, step, hbus]; rfl
  | publish _ beat => cases ha; simp only [next, step, hbus]; rfl
  | subscribe _ name key => cases ha; simp only [next, step, hbus]; rfl
  | unsubscribe _ name key =>
    cases ha
    cases hid : h.known.find? name with
    | none => exact next_unsubscribe_of_no_name hid handle key
    | some id => simp only [next, step, identity, hid, hbus]; rfl
  | _ => cases ha

/-- Where the reader of an action is unknown, nothing happens. -/
theorem next_of_no_reader (a : Action) {name : String} (ha : a.owner? = some name)
    (hr : h.readers.find? name = none) : h.next a = h := by
  cases a with
  | read _ reading => cases ha; simp only [next, step, subscription, reader, hr]; rfl
  | drain _ => cases ha; simp only [next, step, subscription, reader, hr]; rfl
  | stream _ => cases ha; simp only [next, step, reader, hr]; rfl
  | discard _ => cases ha; simp only [next, step, reader, hr]; rfl
  | _ => cases ha

theorem next_stream {name : String} {r : Reader} (hr : h.readers.find? name = some r) :
    h.next (.stream name)
      = { h with readers := h.readers.insert name { r with isStream := true } } := by
  simp only [next, step, reader, hr]
  rfl

theorem next_discard {name : String} {r : Reader} (hr : h.readers.find? name = some r) :
    h.next (.discard name) = (h.discardReader name).1 := by
  simp only [next, step, reader, hr]
  rfl

/-- Making a subscription: it is the newest of its bus, and a reader that had the name is gone. The
subscription is noted before what becomes of that reader. -/
theorem step_subscribe (hs : h.Sound) {handle : String} {b : Bus} (hb : h.bus handle = .ok b)
    (name key : String) :
    ∃ count, h.step (.subscribe handle name key) = .ok (.count count,
      (let h' := ((h.setBus (b.subscribe key).1).discardReader name).1
      { h' with
        readers := h'.readers.insert name { id := b.nextId }
        known := h'.known.insert name b.nextId }),
      (b.subscribe key).2.2 ++ ((h.setBus (b.subscribe key).1).discardReader name).2) := by
  obtain ⟨n, hfind, -⟩ := bus_eq_ok hb
  have hlt : n < ((h.setBus (b.subscribe key).1).discardReader name).1.buses.length := by
    rw [length_discardReader, length_setBus]
    exact hs.handles handle n hfind
  have hfind' : ((h.setBus (b.subscribe key).1).discardReader name).1.handles.find? handle
      = some n := by rw [handles_discardReader]; exact hfind
  have hb' := bus_of_some hfind' (List.getElem?_eq_getElem hlt)
  simp only [step, hb, bind, Except.bind]
  rw [hb']
  exact ⟨_, rfl⟩

theorem next_subscribe (hs : h.Sound) {handle : String} {b : Bus} (hb : h.bus handle = .ok b)
    (name key : String) :
    h.next (.subscribe handle name key) =
      let h' := ((h.setBus (b.subscribe key).1).discardReader name).1
      { h' with
        readers := h'.readers.insert name { id := b.nextId }
        known := h'.known.insert name b.nextId } := by
  obtain ⟨count, hstep⟩ := step_subscribe hs hb name key
  rw [next, hstep]

/-! ## Reads -/

/-- A change of one mailbox. -/
def onMailbox (h : Hub) (id : SubscriptionId) (f : Mailbox → Mailbox) : Hub :=
  { h with buses := h.buses.modify id.bus fun b => b.modifyMailbox id f }

/-- A change of one mailbox is an operation on its bus. -/
theorem buses_onMailbox {id : SubscriptionId} {f : Mailbox → Mailbox} (op : Operation)
    (hop : ∀ b : Bus, b.apply op = b.modifyMailbox id f) {m : Nat} {b : Bus}
    (hb : h.buses[m]? = some b) :
    (h.onMailbox id f).buses[m]? = some (b.applyAll (if id.bus = m then [op] else [])) := by
  show (h.buses.modify id.bus _)[m]? = _
  rw [getElem?_modify _ hb]
  by_cases hm : id.bus = m
  · rw [if_pos hm.symm, if_pos hm, Bus.applyAll_cons, hop]
    rfl
  · rw [if_neg (Ne.symm hm), if_neg hm]
    rfl

theorem onMailbox_congr {id : SubscriptionId} {f g : Mailbox → Mailbox} {b : Bus}
    (hb : h.buses[id.bus]? = some b) (hfg : b.modifyMailbox id f = b.modifyMailbox id g) :
    h.onMailbox id f = h.onMailbox id g := by
  unfold onMailbox
  refine congrArg (fun l => { h with buses := l }) (List.ext_getElem? fun m => ?_)
  rw [List.getElem?_modify, List.getElem?_modify]
  by_cases hm : id.bus = m
  · subst hm
    simp [hb, hfg]
  · simp [hm]

theorem onMailbox_self {id : SubscriptionId} {f : Mailbox → Mailbox} {b : Bus}
    (hb : h.buses[id.bus]? = some b) (hf : b.modifyMailbox id f = b) : h.onMailbox id f = h := by
  unfold onMailbox
  refine congrArg (fun l => { h with buses := l }) (List.ext_getElem? fun m => ?_)
  rw [List.getElem?_modify]
  by_cases hm : id.bus = m
  · subst hm
    simp [hb, hf]
  · simp [hm]

theorem subscription_of_reader {name : String} {r : Reader} {s : Subscription}
    (hr : h.readers.find? name = some r) (hsub : h.subscription? r.id = some s) :
    h.subscription name = .ok (r, s) := by
  simp only [subscription, reader, hr, bind, Except.bind, hsub]
  rfl

theorem reader_of_subscription {name : String} {r : Reader} {s : Subscription}
    (hsub : h.subscription name = .ok (r, s)) :
    h.readers.find? name = some r ∧ h.subscription? r.id = some s := by
  cases hr : h.readers.find? name with
  | none => simp only [subscription, reader, hr, bind, Except.bind] at hsub; cases hsub
  | some t =>
    cases hfind : h.subscription? t.id with
    | none => simp only [subscription, reader, hr, bind, Except.bind, hfind] at hsub; cases hsub
    | some u =>
      rw [subscription_of_reader hr hfind] at hsub
      cases hsub
      exact ⟨rfl, hfind⟩

/-- A read takes the oldest beat, in whichever way it is made and whether or not there is one. -/
theorem next_read (hs : h.Sound) {name : String} {r : Reader}
    (hr : h.readers.find? name = some r) (reading : Reading) :
    h.next (.read name reading) = h.onMailbox r.id (·.tryTake.2) := by
  obtain ⟨b, s, hb, hfind⟩ := hs.reader_subscription hr
  have hsound := hs.buses _ _ hb
  have hsub := subscription_of_reader hr (by rw [subscription?_of_bus rfl hb, hfind])
  -- A step puts a mailbox in place; nobody else has the identity, so it changes only this one.
  have hconst : h.onMailbox r.id (fun _ => s.mailbox.tryTake.2) = h.onMailbox r.id (·.tryTake.2) :=
    onMailbox_congr hb (Bus.modifyMailbox_const hsound hfind (·.tryTake.2))
  -- A read that is refused changes nothing, and neither would taking from an empty mailbox.
  have hnone : s.mailbox.waiting = [] → h = h.onMailbox r.id (·.tryTake.2) := fun hw =>
    (onMailbox_self hb (Bus.modifyMailbox_self hsound hfind (Mailbox.tryTake_snd_of_nil hw))).symm
  simp only [next, step, hsub, bind, Except.bind]
  cases reading with
  | attempt =>
    cases htake : s.mailbox.tryTake.1 with
    | ok beat => exact hconst
    | error e => exact hnone (Mailbox.waiting_of_tryTake_error htake)
  | poll =>
    rw [← hconst, ← Mailbox.poll_snd]
    rfl
  | wait =>
    cases htake : s.mailbox.take? with
    | none => exact hnone (Mailbox.take?_eq_none_iff.mp htake).1
    | some p =>
      obtain ⟨beat, m⟩ := p
      rw [← hconst, ← Mailbox.take?_eq_some htake]
      rfl

theorem next_drain (hs : h.Sound) {name : String} {r : Reader}
    (hr : h.readers.find? name = some r) :
    h.next (.drain name) = h.onMailbox r.id (·.drain.2) := by
  obtain ⟨b, s, hb, hfind⟩ := hs.reader_subscription hr
  have hsub := subscription_of_reader hr (by rw [subscription?_of_bus rfl hb, hfind])
  rw [← onMailbox_congr hb (Bus.modifyMailbox_const (hs.buses _ _ hb) hfind (·.drain.2))]
  simp only [next, step, hsub]
  rfl

end AgentPulse.Hub
