import AgentPulse.Proofs.Bus.Counting
import AgentPulse.Proofs.Hub.Sound

/-!
# One subscription in a run

What a run shows of one subscription: the beats that its reader is handed (`taken`), read off the
answers of the steps, and the subscription itself after every step (`subscription?_next`). Both are
told by the operations of the step on the bus of the subscription and by nothing else, and so is
what a step publishes on a bus (`published_eq`).
-/

namespace AgentPulse

/-- The beats that an operation hands to the reader of a subscription. -/
def Subscription.given (s : Subscription) : Bus.Operation → List Beat
  | .take id => if id = s.id then s.mailbox.waiting.take 1 else []
  | .drain id => if id = s.id then s.mailbox.waiting else []
  | _ => []

namespace Hub

open Bus (Operation)

/-- The beats that an answer hands out. -/
def Answer.beats : Answer → List Beat
  | .taken (some b) | .polled (.ready (some b)) => [b]
  | .drained beats _ => beats
  | _ => []

/-- The beats that a step hands out. -/
def handed (h : Hub) (a : Action) : List Beat :=
  match h.answer a with
  | .ok x => x.beats
  | .error _ => []

/-- Whether a name is that of the reader of a subscription. -/
def isReaderOf (h : Hub) (name : String) (id : SubscriptionId) : Bool :=
  (h.readers.find? name).any fun r => r.id = id

/-- The beats that a step hands to the reader of a subscription. -/
def taken (id : SubscriptionId) (h : Hub) (a : Action) : List Beat :=
  match a with
  | .read name _ | .drain name =>
    if h.isReaderOf name id then h.handed a else []
  | _ => []

/-- The beats that a step publishes on the bus of a number. -/
def published (n : Nat) (h : Hub) : Action → List Beat
  | .publish handle beat => if h.handles.find? handle = some n then [beat] else []
  | _ => []

variable {h : Hub} {id : SubscriptionId} {s : Subscription}

/-! ## The subscription after a step -/

theorem bus_of_subscription? (hsub : h.subscription? id = some s) :
    ∃ b, h.buses[id.bus]? = some b ∧ b.subscription? id = some s :=
  Option.bind_eq_some_iff.mp hsub

theorem id_of_subscription? (hsub : h.subscription? id = some s) : s.id = id := by
  obtain ⟨b, -, hfind⟩ := bus_of_subscription? hsub
  exact Subscription.id_of_find? hfind

/-- After a step a subscription is what the operations on its bus make of it. -/
theorem subscription?_next (hs : h.Sound) (hsub : h.subscription? id = some s) (a : Action) :
    (h.next a).subscription? id = s.reactAll (operations id.bus h a) := by
  obtain ⟨b, hb, hfind⟩ := bus_of_subscription? hsub
  rw [subscription?_of_bus rfl (buses_next hs a hb),
    Bus.subscription?_applyAll (hs.buses _ b hb) _ hfind]

/-- An identity that was given away and whose reader is gone. -/
def IsGone (h : Hub) (id : SubscriptionId) : Prop :=
  h.subscription? id = none ∧ ∃ b, h.buses[id.bus]? = some b ∧ id.serial < b.issued

theorem isGone_of_next (hs : h.Sound) (hsub : h.subscription? id = some s) {a : Action}
    (hnone : (h.next a).subscription? id = none) : (h.next a).IsGone id := by
  obtain ⟨b, hb, hfind⟩ := bus_of_subscription? hsub
  exact ⟨hnone, _, buses_next hs a hb,
    Nat.lt_of_lt_of_le ((hs.buses _ b hb).issued hfind).2 (Bus.issued_le_applyAll b _)⟩

/-- Who is gone stays gone. -/
theorem IsGone.next (hg : h.IsGone id) (hs : h.Sound) (a : Action) : (h.next a).IsGone id := by
  obtain ⟨hnone, b, hb, hid⟩ := hg
  have hnext := buses_next hs a hb
  rw [subscription?_of_bus rfl hb] at hnone
  refine ⟨?_, _, hnext, Nat.lt_of_lt_of_le hid (Bus.issued_le_applyAll b _)⟩
  rw [subscription?_of_bus rfl hnext]
  exact Bus.subscription?_applyAll_of_gone (hs.buses _ b hb) hnone hid

theorem IsGone.after (hg : h.IsGone id) (hs : h.Sound) (run : List Action) :
    (h.after run).IsGone id := by
  induction run generalizing h with
  | nil => exact hg
  | cons a run ih => exact ih (hg.next hs a) (hs.next a)

theorem Sound.find?_readers_of_none (hs : h.Sound) (hnone : h.subscription? id = none)
    {name : String} {r : Reader} (hr : h.readers.find? name = some r) : r.id ≠ id := by
  intro e
  have hsome := hs.readers name r hr
  rw [e, hnone] at hsome
  cases hsome

/-! ## What a step hands out -/

theorem isReaderOf_iff {name : String} :
    h.isReaderOf name id = true ↔ ∃ r, h.readers.find? name = some r ∧ r.id = id := by
  unfold isReaderOf
  cases hr : h.readers.find? name with
  | none => simp
  | some r => simp

/-- The reader of a subscription reads from it. -/
theorem operations_of_isReaderOf {name : String} (hname : h.isReaderOf name id = true)
    (reading : Reading) :
    operations id.bus h (.read name reading) = [.take id] ∧
    operations id.bus h (.drain name) = [.drain id] := by
  obtain ⟨r, hr, rfl⟩ := isReaderOf_iff.mp hname
  simp [operations, hr]

/-- A reader of another subscription does nothing to it and is given nothing of it. -/
theorem operations_of_not_isReaderOf {name : String} (hname : ¬ h.isReaderOf name id = true)
    (hid : s.id = id) {a : Action} (ha : (∃ reading, a = .read name reading) ∨ a = .drain name) :
    s.reactAll (operations id.bus h a) = some s ∧ (operations id.bus h a).flatMap s.given = [] := by
  cases hr : h.readers.find? name with
  | none => rcases ha with ⟨reading, rfl⟩ | rfl <;> rw [operations, hr] <;> exact ⟨rfl, rfl⟩
  | some r =>
    have hrid : r.id ≠ s.id := fun e => hname (isReaderOf_iff.mpr ⟨r, hr, e.trans hid⟩)
    by_cases hbus : r.id.bus = id.bus
    · rcases ha with ⟨reading, rfl⟩ | rfl <;>
        simp [operations, hr, hbus, Subscription.reactAll, Subscription.react,
          Subscription.given, hrid]
    · rcases ha with ⟨reading, rfl⟩ | rfl <;>
        simp [operations, hr, hbus, Subscription.reactAll]

/-- What a read answers when it finds a beat. -/
def Reading.found (beat : Beat) : Reading → Except Refusal Answer
  | .attempt | .wait => .ok (.taken (some beat))
  | .poll => .ok (.polled (.ready (some beat)))

/-- What a read answers when nothing waits for now. -/
def Reading.nothingYet : Reading → Except Refusal Answer
  | .attempt => .ok (.taken none)
  | .poll => .ok (.polled .pending)
  | .wait => .error .wouldBlock

/-- What a read answers when nothing will come any more. -/
def Reading.ended : Reading → Except Refusal Answer
  | .attempt => .error (.atEnd .closed)
  | .poll => .ok (.polled (.ready none))
  | .wait => .ok (.taken none)

/-- No reader takes the one for the other. -/
theorem Reading.nothingYet_ne_ended (reading : Reading) : reading.nothingYet ≠ reading.ended := by
  cases reading <;> simp [nothingYet, ended]

/-- What a read answers, by what waits in the mailbox and whether the mailbox is closed. -/
def Reading.answer (waiting : List Beat) (isClosed : Bool) (reading : Reading) :
    Except Refusal Answer :=
  match waiting with
  | beat :: _ => reading.found beat
  | [] => if isClosed then reading.ended else reading.nothingYet

theorem answer_read {name : String} {r : Reader} (hsub : h.subscription name = .ok (r, s))
    (reading : Reading) :
    h.answer (.read name reading) = reading.answer s.mailbox.waiting s.mailbox.isClosed := by
  simp only [Hub.answer, step, hsub, bind, Except.bind]
  cases reading with
  | attempt =>
    unfold Mailbox.tryTake Reading.answer
    cases hw : s.mailbox.waiting with
    | cons b rest => rfl
    | nil => cases hc : s.mailbox.isClosed <;> rfl
  | poll =>
    unfold Mailbox.poll Reading.answer
    cases hw : s.mailbox.waiting with
    | cons b rest => rfl
    | nil => cases hc : s.mailbox.isClosed <;> rfl
  | wait =>
    unfold Mailbox.take? Reading.answer
    cases hw : s.mailbox.waiting with
    | cons b rest => rfl
    | nil => cases hc : s.mailbox.isClosed <;> rfl

theorem answer_drain {name : String} {r : Reader} (hsub : h.subscription name = .ok (r, s)) :
    h.answer (.drain name) = .ok (.drained s.mailbox.waiting s.mailbox.isClosed) := by
  simp only [answer, step, hsub]
  rfl

/-- Every way to read hands out the oldest beat, if there is one. -/
theorem handed_read {name : String} {r : Reader} (hsub : h.subscription name = .ok (r, s))
    (reading : Reading) : h.handed (.read name reading) = s.mailbox.waiting.take 1 := by
  rw [handed, answer_read hsub]
  cases hw : s.mailbox.waiting with
  | cons b rest => cases reading <;> rfl
  | nil => cases hc : s.mailbox.isClosed <;> cases reading <;> rfl

theorem handed_drain {name : String} {r : Reader} (hsub : h.subscription name = .ok (r, s)) :
    h.handed (.drain name) = s.mailbox.waiting := by
  rw [handed, answer_drain hsub]
  rfl

/-- Only reading gives anything. -/
theorem given_operations (s : Subscription) {a : Action}
    (hread : ∀ name reading, a ≠ .read name reading) (hdrain : ∀ name, a ≠ .drain name) (n : Nat) :
    (operations n h a).flatMap s.given = [] := by
  rw [List.flatMap_eq_nil_iff]
  intro op hop
  cases cause_of_mem hop with
  | read reading owner own => exact absurd rfl (hread _ reading)
  | drain owner own => exact absurd rfl (hdrain _)
  | _ => rfl

/-- A reader is handed what the operations of the step give it. -/
theorem taken_eq (hsub : h.subscription? id = some s) (a : Action) :
    taken id h a = (operations id.bus h a).flatMap s.given := by
  have hid := id_of_subscription? hsub
  cases a with
  | read name reading =>
    rw [taken]
    split
    next hname =>
      obtain ⟨r, hr, hrid⟩ := isReaderOf_iff.mp hname
      rw [handed_read (subscription_of_reader hr (hrid ▸ hsub)),
        (operations_of_isReaderOf hname reading).1]
      simp [Subscription.given, hid]
    next hname =>
      exact (operations_of_not_isReaderOf hname hid (Or.inl ⟨reading, rfl⟩)).2.symm
  | drain name =>
    rw [taken]
    split
    next hname =>
      obtain ⟨r, hr, hrid⟩ := isReaderOf_iff.mp hname
      rw [handed_drain (subscription_of_reader hr (hrid ▸ hsub)),
        (operations_of_isReaderOf hname .attempt).2]
      simp [Subscription.given, hid]
    next hname => exact (operations_of_not_isReaderOf hname hid (Or.inr rfl)).2.symm
  | _ => exact (given_operations s (by simp) (by simp) _).symm

/-- Nobody is handed what was for a reader that is gone. -/
theorem taken_of_none (hs : h.Sound) (hnone : h.subscription? id = none) (a : Action) :
    taken id h a = [] := by
  have hnot : ∀ name, ¬ h.isReaderOf name id = true := fun name e => by
    obtain ⟨r, hr, hrid⟩ := isReaderOf_iff.mp e
    exact hs.find?_readers_of_none hnone hr hrid
  cases a with
  | read name reading => exact if_neg (hnot name)
  | drain name => exact if_neg (hnot name)
  | _ => rfl

/-! ## What a step publishes and subscribes -/

theorem keys_discards (h : Hub) (name : String) (n : Nat) :
    (h.discards name n).flatMap Operation.keys = [] :=
  List.flatMap_eq_nil_iff.mpr fun op hop => by
    obtain ⟨r, -, -, rfl⟩ := mem_discards.mp hop
    rfl

/-- A step makes at most one subscription on a bus. -/
theorem keys_operations (n : Nat) (h : Hub) (a : Action) :
    (operations n h a).flatMap Operation.keys = [] ∨ ∃ handle name key,
      a = .subscribe handle name key ∧ h.handles.find? handle = some n ∧
      (operations n h a).flatMap Operation.keys = [key] := by
  by_cases ha : ∃ handle name key, a = .subscribe handle name key ∧ h.handles.find? handle = some n
  · obtain ⟨handle, name, key, rfl, hfind⟩ := ha
    refine Or.inr ⟨handle, name, key, rfl, hfind, ?_⟩
    simp only [operations, hfind, if_true, List.flatMap_append, keys_discards]
    rfl
  · refine Or.inl (List.flatMap_eq_nil_iff.mpr fun op hop => ?_)
    cases cause_of_mem hop with
    | subscribe name key find => exact absurd ⟨_, name, key, rfl, find⟩ ha
    | _ => rfl

/-- The beats that a step publishes are those of its operations. -/
theorem published_eq (n : Nat) (h : Hub) (a : Action) :
    published n h a = (operations n h a).flatMap Operation.beats := by
  have hnone : (∀ handle beat, a ≠ .publish handle beat) →
      (operations n h a).flatMap Operation.beats = [] := fun ha => by
    rw [List.flatMap_eq_nil_iff]
    intro op hop
    cases cause_of_mem hop with
    | publish beat find => exact absurd rfl (ha _ beat)
    | _ => rfl
  cases a with
  | publish handle beat => rw [published, operations]; split <;> rfl
  | _ => exact (hnone (by simp)).symm

end Hub

end AgentPulse
