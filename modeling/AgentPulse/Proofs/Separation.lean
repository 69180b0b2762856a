import AgentPulse.Proofs.Hub.View

/-!
# Buses apart, handles alike

An action is about few buses (`touched`): the one that its handle leads to, the one of the
subscription that its reader owns, and the one that a name leads to before it is given to another.
All other buses and their subscriptions stay as they are (`sameBus_next`), also along a run
(`sameBus_after`). Which of the handles of a bus is used makes no difference (`step_through`), and
as long as one is left nobody notices that another is gone (`sameBus_of_given`).

Main statement: `buses_apart_handles_alike`.
-/

namespace AgentPulse.Hub

open Bus (Operation)

variable {h : Hub} {a : Action} {m n : Nat} {b : Bus}

/-! ## Names that are given away -/

/-- The name that an action gives to another handle or takes away. -/
def Action.given? : Action → Option String
  | .create handle _ | .clone _ handle | .release handle => some handle
  | _ => none

theorem known_settle (n : Nat) : (h.settle n).known = h.known := by
  unfold settle
  split <;> rfl

theorem known_assign (handle : String) (n : Nat) : (h.assign handle n).known = h.known := by
  unfold assign
  split
  next => exact known_settle _
  next => rfl

/-- What an action on a handle's name does to the names of a hub: nothing, or the name leads to a
bus from then on, or it leads nowhere. -/
theorem next_of_given (hs : h.Sound) {name : String} (ha : a.given? = some name) :
    (h.next a).known = h.known ∧
    ((h.next a).handles = h.handles ∨ (∃ k, (h.next a).handles = h.handles.insert name k) ∨
      (h.next a).handles = h.handles.erase name) := by
  cases a with
  | create handle limits =>
    cases ha
    cases hc : limits.check with
    | error flaw =>
      rw [next_create_error name hc]
      exact ⟨rfl, .inl rfl⟩
    | ok _ =>
      rw [next_create_ok name hc]
      exact ⟨known_assign _ _, .inr (.inl ⟨_, handles_assign _ _⟩)⟩
  | clone handle copy =>
    cases ha
    cases hfind : h.handles.find? handle with
    | none =>
      rw [next_of_no_handle (.clone handle name) rfl hfind]
      exact ⟨rfl, .inl rfl⟩
    | some k =>
      obtain ⟨c, -, hbus⟩ := hs.bus_of_handle hfind
      rw [next_clone hbus]
      exact ⟨known_assign _ _, .inr (.inl ⟨_, handles_assign _ _⟩)⟩
  | release handle =>
    cases ha
    cases hfind : h.handles.find? name with
    | none =>
      rw [next_of_no_handle (.release name) rfl hfind]
      exact ⟨rfl, .inl rfl⟩
    | some k =>
      obtain ⟨c, -, hbus⟩ := hs.bus_of_handle hfind
      rw [next_release hbus]
      exact ⟨known_settle _, .inr (.inr (handles_settle _))⟩
  | _ => cases ha

/-- The names of readers and of subscriptions have nothing to do with handles. -/
theorem names_of_given (hs : h.Sound) {name : String} (ha : a.given? = some name) :
    (h.next a).readers = h.readers ∧ (h.next a).known = h.known := by
  refine ⟨readers_next_eq hs ?_, (next_of_given hs ha).1⟩
  cases a with
  | create | clone | release => rfl
  | _ => cases ha

/-- All handles but the one of the name stay. -/
theorem find?_handles_of_not_given (hs : h.Sound) {other : String} (ha : a.given? ≠ some other) :
    (h.next a).handles.find? other = h.handles.find? other := by
  cases hname : a.given? with
  | none =>
    have hmoves : a.movesHandle = false := by
      cases a with
      | create | clone | release => cases hname
      | _ => rfl
    rw [(handles_next hs hmoves).1]
  | some name =>
    have hne : other ≠ name := fun e => ha (e ▸ hname)
    obtain ⟨-, hsame | ⟨k, hgiven⟩ | hgone⟩ := next_of_given hs hname
    · rw [hsame]
    · rw [hgiven, Dict.find?_insert, if_neg hne]
    · rw [hgone, Dict.find?_erase, if_neg hne]

/-! ## Buses that an action is not about -/

/-- The bus that a handle leads to. -/
def ledTo (h : Hub) (handle : String) : List Nat := (h.handles.find? handle).toList

/-- The bus of the subscription that a reader owns. -/
def ownedBy (h : Hub) (name : String) : List Nat :=
  ((h.readers.find? name).map fun r => r.id.bus).toList

/-- The buses that an action is about. A reader whose name is given to a new subscription is
dropped, and so is a handle whose name is given to another. -/
def touched (h : Hub) : Action → List Nat
  | .create handle _ | .clone _ handle | .release handle => h.ledTo handle
  | .publish handle _ | .unsubscribe handle _ _ => h.ledTo handle
  | .subscribe handle name _ => h.ledTo handle ++ h.ownedBy name
  | .read name _ | .drain name | .stream name | .discard name => h.ownedBy name

theorem mem_ledTo {handle : String} (hfind : h.handles.find? handle = some m) :
    m ∈ h.ledTo handle := by
  rw [ledTo, hfind]
  exact List.mem_singleton_self m

theorem mem_ownedBy {name : String} {r : Reader} (hr : h.readers.find? name = some r)
    (hbus : r.id.bus = m) : m ∈ h.ownedBy name := by
  rw [ownedBy, hr, ← hbus]
  exact List.mem_singleton_self _

/-- The bus that loses its last handle is the one that the name of the action led to. -/
theorem touched_of_lost (hs : h.Sound) (hmem : m ∈ h.handles.values)
    (hlost : m ∉ (h.next a).handles.values) : m ∈ h.touched a := by
  obtain ⟨name, hfind⟩ := mem_values.mp hmem
  -- A handle that is still there would lead to the bus.
  have hgone : (h.next a).handles.find? name ≠ some m := fun e => hlost (mem_values.mpr ⟨name, e⟩)
  have hgiven : a.given? = some name := by
    by_contra hnot
    exact hgone ((find?_handles_of_not_given hs hnot).trans hfind)
  cases a with
  | create | clone | release => cases hgiven; exact mem_ledTo hfind
  | _ => cases hgiven

/-- Nothing is done to a bus that an action is not about. -/
theorem operations_of_not_touched (hs : h.Sound) (hm : m ∉ h.touched a) :
    operations m h a = [] := by
  rw [List.eq_nil_iff_forall_not_mem]
  intro op hop
  refine hm ?_
  cases cause_of_mem hop with
  | lost mem gone => exact touched_of_lost hs mem gone
  | publish _ find => exact mem_ledTo find
  | subscribe _ _ find => exact List.mem_append_left _ (mem_ledTo find)
  | replace _ _ owner own => exact List.mem_append_right _ (mem_ownedBy owner own)
  | unsubscribe _ _ find => exact mem_ledTo find
  | read _ owner own => exact mem_ownedBy owner own
  | drain owner own => exact mem_ownedBy owner own
  | discard owner own => exact mem_ownedBy owner own

/-- A bus and all subscriptions made on it are the same in two hubs. -/
structure SameBus (m : Nat) (h h' : Hub) : Prop where
  bus : h'.buses[m]? = h.buses[m]?
  subscriptions : ∀ id : SubscriptionId, id.bus = m → h'.subscription? id = h.subscription? id

theorem SameBus.of_bus {h' : Hub} (hbus : h'.buses[m]? = h.buses[m]?) : SameBus m h h' where
  bus := hbus
  subscriptions := fun id hid => by rw [subscription?, subscription?, hid, hbus]

theorem sameBus_of_operations (hs : h.Sound) (hb : h.buses[m]? = some b)
    (hops : operations m h a = []) : SameBus m h (h.next a) := by
  refine .of_bus ?_
  rw [buses_next hs a hb, hops, hb]
  rfl

/-- A step leaves a bus that it is not about as it is. -/
theorem sameBus_next (hs : h.Sound) (hb : h.buses[m]? = some b) (hm : m ∉ h.touched a) :
    SameBus m h (h.next a) :=
  sameBus_of_operations hs hb (operations_of_not_touched hs hm)

/-- A run leaves a bus that none of its steps is about as it is. -/
theorem sameBus_after (hs : h.Sound) (hb : h.buses[m]? = some b) {more : List Action}
    (hm : m ∉ along touched h more) : SameBus m h (h.after more) := by
  induction more generalizing h with
  | nil => exact .of_bus rfl
  | cons a more ih =>
    rw [along_cons, List.mem_append, not_or] at hm
    have hfirst := sameBus_next hs hb hm.1
    have hlater := ih (hs.next a) (hfirst.bus.trans hb) hm.2
    exact .of_bus (hlater.bus.trans hfirst.bus)

/-! ## A subscription of another bus -/

theorem setBus_self (hs : h.Sound) (hb : h.buses[n]? = some b) : h.setBus b = h := by
  obtain ⟨hlt, hget⟩ := List.getElem?_eq_some_iff.mp hb
  show { h with buses := h.buses.set b.id b } = h
  rw [hs.numbered n b hb, ← hget, List.set_getElem_self]

/-- A bus has no entry for a subscription of another bus, under whatever key. -/
theorem not_mem_under_of_bus (hs : h.Sound) (hb : h.buses[n]? = some b) {id : SubscriptionId}
    (hid : id.bus ≠ n) (key : String) : id ∉ b.roster.under key := by
  intro hmem
  obtain ⟨s, hfind, -⟩ := ((hs.buses n b hb).entered key id).mp hmem
  exact hid (((hs.buses n b hb).issued hfind).1.trans (hs.numbered n b hb))

/-- Unsubscribing what another bus issued is granted and does nothing. -/
theorem step_unsubscribe_foreign (hs : h.Sound) {handle name : String} {id : SubscriptionId}
    (hfind : h.handles.find? handle = some n) (hb : h.buses[n]? = some b)
    (hknown : h.known.find? name = some id) (hid : id.bus ≠ n) (key : String) :
    h.step (.unsubscribe handle name key) = .ok (.count (b.subscriberCount key), h, []) := by
  have hnot := not_mem_under_of_bus hs hb hid key
  rw [step_unsubscribe hknown (bus_of_some hfind hb), Bus.unsubscribe_of_not_mem hnot,
    setBus_self hs hb]

/-! ## One handle for another -/

/-- The action with another handle in the place of its own. -/
def Action.through (a : Action) (handle : String) : Action :=
  match a with
  | .clone _ copy => .clone handle copy
  | .release _ => .release handle
  | .publish _ beat => .publish handle beat
  | .subscribe _ name key => .subscribe handle name key
  | .unsubscribe _ name key => .unsubscribe handle name key
  | a => a

/-- Through whichever handle of a bus, a step is the same: its answer, the hub after it and what is
noted. -/
theorem step_through (hs : h.Sound) {handle other : String} (ha : a.handle? = some handle)
    (hkeep : a ≠ .release handle) (hhandle : h.handles.find? handle = some n)
    (hother : h.handles.find? other = some n) : h.step (a.through other) = h.step a := by
  obtain ⟨b, hb, hbus⟩ := hs.bus_of_handle hhandle
  have hbus' : h.bus other = .ok b := bus_of_some hother hb
  cases a with
  | clone _ copy =>
    cases ha
    simp only [Action.through, step, hbus, hbus']
  | release _ =>
    cases ha
    exact absurd rfl hkeep
  | publish _ beat =>
    cases ha
    rw [Action.through, step_publish hbus, step_publish hbus']
  | subscribe _ name key =>
    cases ha
    -- The bus is looked up once more at the end, when neither handle has moved.
    have hlast : ((h.setBus (b.subscribe key).1).discardReader name).1.bus other
        = ((h.setBus (b.subscribe key).1).discardReader name).1.bus handle := by
      have hsame : ((h.setBus (b.subscribe key).1).discardReader name).1.handles = h.handles :=
        handles_discardReader name
      rw [bus, bus, hsame, hother, hhandle]
      have hlt : n < ((h.setBus (b.subscribe key).1).discardReader name).1.buses.length := by
        rw [length_discardReader, length_setBus]
        exact hs.handles handle n hhandle
      rw [Option.bind_some, List.getElem?_eq_getElem hlt]
    simp only [Action.through, step, hbus, hbus', bind, Except.bind]
    rw [hlast]
  | unsubscribe _ name key =>
    cases ha
    simp only [Action.through, step, hbus, hbus']
  | _ => cases ha

/-! ## Handles that go -/

/-- A bus that has another handle does not notice that one goes. -/
theorem sameBus_of_given (hs : h.Sound) {name other : String} (ha : a.given? = some name)
    (hnot : a.given? ≠ some other) (hother : h.handles.find? other = some m) :
    SameBus m h (h.next a) := by
  obtain ⟨b, hb, -⟩ := hs.bus_of_handle hother
  have hstill : m ∈ (h.next a).handles.values :=
    mem_values.mpr ⟨other, (find?_handles_of_not_given hs hnot).trans hother⟩
  have hcloses : h.closes a m = [] := if_neg fun e => e.2 hstill
  refine sameBus_of_operations hs hb ?_
  cases a with
  | create | clone | release => exact hcloses
  | _ => cases ha

/-! ## Main statement -/

/-- In a hub that a run leads to, with any number of buses, handles and readers:

A step leaves every bus that it is not about as it is, with all that is stored, entered and counted
there and with the mailboxes of all its subscriptions; and so does a run of steps that are not about
the bus. Unsubscribing through a handle of one bus what another bus issued does nothing at all.

An action through one handle of a bus has the same outcome through any other handle of this bus, and
whatever is asked of the bus has the same answer. When a handle is dropped, or its name is given to
another, a bus that has one more handle stays as it is, with all its subscriptions and their
readers. -/
theorem buses_apart_handles_alike (run : List Action) :
    let h := after {} run
    (∀ a m b, h.buses[m]? = some b → m ∉ h.touched a → SameBus m h (h.next a)) ∧
    (∀ more m b, h.buses[m]? = some b → m ∉ along touched h more → SameBus m h (h.after more)) ∧
    (∀ handle n b name id key, h.handles.find? handle = some n → h.buses[n]? = some b →
      h.known.find? name = some id → id.bus ≠ n →
      h.step (.unsubscribe handle name key) = .ok (.count (b.subscriberCount key), h, [])) ∧
    (∀ handle other n, h.handles.find? handle = some n → h.handles.find? other = some n →
      h.bus other = h.bus handle ∧ ∀ a : Action, a.handle? = some handle → a ≠ .release handle →
        h.step (a.through other) = h.step a) ∧
    (∀ (a : Action) name other m, a.given? = some name → other ≠ name →
      h.handles.find? other = some m →
      SameBus m h (h.next a) ∧ (h.next a).bus other = h.bus other ∧
        (h.next a).readers = h.readers ∧ (h.next a).known = h.known) := by
  intro h
  have hs : h.Sound := sound_empty.after run
  refine ⟨fun a m b hb => sameBus_next hs hb, fun more m b hb => sameBus_after hs hb,
    fun handle n b name id key hfind hb hknown hid =>
      step_unsubscribe_foreign hs hfind hb hknown hid key,
    fun handle other n hhandle hother => ⟨?_, fun a ha hkeep =>
      step_through hs ha hkeep hhandle hother⟩,
    fun a name other m ha hne hother => ?_⟩
  · obtain ⟨b, hb, hbus⟩ := hs.bus_of_handle hhandle
    rw [hbus]
    exact bus_of_some hother hb
  · have hnot : a.given? ≠ some other := fun e => hne (Option.some.inj (e.symm.trans ha))
    have hsame := sameBus_of_given hs ha hnot hother
    obtain ⟨hreaders, hknown⟩ := names_of_given hs ha
    refine ⟨hsame, ?_, hreaders, hknown⟩
    rw [bus, bus, find?_handles_of_not_given hs hnot, hother, Option.bind_some, Option.bind_some,
      hsame.bus]

/-- Two buses with one subscription each under the same key, the first bus with two handles. The
second cannot unsubscribe what the first issued, its publishing is not felt at the first, and the
first publishes the same through either handle and outlives the loss of one. -/
theorem buses_apart_handles_alike_two_buses :
    let run : List Action := [.create "a" ⟨2, 1⟩, .create "b" ⟨2, 1⟩, .clone "a" "copy",
      .subscribe "a" "x" "k", .subscribe "b" "y" "k"]
    let beat : Beat := { agent := "k", status := "idle" }
    let h := after {} run
    (∃ b, h.step (.unsubscribe "b" "x" "k") = .ok (.count b, h, [])) ∧
      SameBus 0 h (h.next (.publish "b" beat)) ∧
      h.step (.publish "copy" beat) = h.step (.publish "a" beat) ∧
      SameBus 0 h (h.next (.release "a")) := by
  intro run beat h
  obtain ⟨hframe, -, hforeign, halike, hgone⟩ := buses_apart_handles_alike run
  have ha : h.handles.find? "a" = some 0 := by decide +kernel
  have hcopy : h.handles.find? "copy" = some 0 := by decide +kernel
  have hb : h.handles.find? "b" = some 1 := by decide +kernel
  have hknown : h.known.find? "x" = some ⟨0, 0⟩ := by decide +kernel
  obtain ⟨first, hfirst⟩ : ∃ first, h.buses[0]? = some first := ⟨_, rfl⟩
  obtain ⟨second, hsecond⟩ : ∃ second, h.buses[1]? = some second := ⟨_, rfl⟩
  refine ⟨⟨_, hforeign "b" 1 second "x" ⟨0, 0⟩ "k" hb hsecond hknown (by decide)⟩, ?_, ?_, ?_⟩
  · refine hframe (.publish "b" beat) 0 first hfirst ?_
    rw [touched, ledTo, hb]
    decide
  · exact (halike "a" "copy" 0 ha hcopy).2 (.publish "a" beat) rfl nofun
  · exact (hgone (.release "a") "a" "copy" 0 rfl (by decide) hcopy).1

end AgentPulse.Hub
