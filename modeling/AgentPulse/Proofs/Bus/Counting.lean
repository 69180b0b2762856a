import AgentPulse.Proofs.Bus.View
import Mathlib.Algebra.BigOperators.Group.Finset.Piecewise

/-!
# What a bus counts

Publishing a beat counts each follower once, as delivered or as dropped (`fanOut_add`), and the
counts are sums over all subscriptions that the bus ever made (`sum_takes`, `sum_loses`), each of
which counts for itself what its mailbox takes and loses (`react_publish`). No other operation
counts anything (`counters_apply`).
-/

namespace AgentPulse

/-- The beats that an operation publishes. -/
def Bus.Operation.beats : Bus.Operation → List Beat
  | .publish beat => [beat]
  | _ => []

/-- The keys that an operation makes subscriptions under. -/
def Bus.Operation.keys : Bus.Operation → List String
  | .subscribe key => [key]
  | _ => []

namespace Bus

variable {b : Bus}

/-- Whether a subscription takes a beat when it is published. -/
def takes (b : Bus) (beat : Beat) (id : SubscriptionId) : Bool :=
  id ∈ b.roster.followers beat.agent && Round.isTakenBy b.subscriptions id

/-- Whether a subscription loses a beat when it is published. -/
def loses (b : Bus) (beat : Beat) (id : SubscriptionId) : Bool :=
  id ∈ b.roster.followers beat.agent && Round.isLostOn b.subscriptions id

/-! ## One publish -/

theorem length_followers (b : Bus) (agent : String) :
    (b.roster.followers agent).length
      = (if agent = everyAgent then 0 else b.subscriberCount agent)
        + b.subscriberCount everyAgent := by
  rw [Roster.followers, List.length_append, subscriberCount, subscriberCount, Roster.count,
    Roster.count, Roster.under_everyAgent]
  split
  next h => rw [h, Roster.byName_everyAgent]; rfl
  next h => rw [Roster.under_eq_byName _ h]

/-- Every follower of a beat's agent either gets it or loses it. -/
theorem fanOut_add (h : b.Sound) (beat : Beat) :
    (b.fanOut beat).delivered + (b.fanOut beat).dropped
      = (if beat.agent = everyAgent then 0 else b.subscriberCount beat.agent)
        + b.subscriberCount everyAgent := by
  rw [← length_followers, List.length_eq_countP_add_countP (Round.isLostOn b.subscriptions),
    Nat.add_comm]
  refine congrArg (_ + ·) (List.countP_congr fun id hid => ?_)
  rw [Round.isTakenBy_eq _ (h.isSome_of_mem_followers hid)]
  simp

/-- A subscription that exists takes or loses a published beat by itself. -/
theorem react_publish (h : b.Sound) (beat : Beat) {id : SubscriptionId} {s s' : Subscription}
    (hs : b.subscription? id = some s) (hs' : s.react (.publish beat) = some s') :
    s'.mailbox.waiting.length = s.mailbox.waiting.length + (b.takes beat id).toNat ∧
    s'.mailbox.dropped = s.mailbox.dropped + .ofNat (b.loses beat id).toNat := by
  have hfind : Subscription.find? id b.subscriptions = some s := hs
  have hmem : id ∈ b.roster.followers beat.agent ↔ _ := h.mem_followers_iff hs
  cases hs'
  split
  next hopen =>
    simp only [takes, loses, hmem.mpr hopen, Round.isTakenBy, Round.isLostOn, hfind,
      Option.any_some, decide_true, Bool.true_and, Subscription.onMailbox_mailbox, Mailbox.offer]
    split
    next hfull => simp [hfull]
    next hfull => simp [hfull]
  next hnot =>
    have hno : id ∉ b.roster.followers beat.agent := fun e => hnot (hmem.mp e)
    simp [takes, loses, hno]

/-! ## Sums over all subscriptions -/

/-- A count along a list of identities of one bus is a sum over serial numbers. -/
theorem sum_range_eq_countP {l : List SubscriptionId} {n m : Nat} (hnodup : l.Nodup)
    (hl : ∀ id ∈ l, id.bus = n ∧ id.serial < m) (p : SubscriptionId → Bool) :
    ∑ i ∈ Finset.range m, (decide ((⟨n, i⟩ : SubscriptionId) ∈ l) && p ⟨n, i⟩).toNat
      = l.countP p := by
  -- Identities of one bus are told apart by their serial numbers.
  have hinj : ((l.filter p).map (·.serial)).Nodup := by
    refine List.Nodup.map_on (fun i hi j hj e => ?_) (hnodup.filter p)
    have hbus : i.bus = j.bus :=
      (hl i (List.mem_of_mem_filter hi)).1.trans (hl j (List.mem_of_mem_filter hj)).1.symm
    cases i
    cases j
    cases hbus
    cases e
    rfl
  have hset : (Finset.range m).filter
      (fun i => (decide ((⟨n, i⟩ : SubscriptionId) ∈ l) && p ⟨n, i⟩) = true)
      = ((l.filter p).map (·.serial)).toFinset := by
    ext i
    simp only [Finset.mem_filter, Finset.mem_range, List.mem_toFinset, List.mem_map,
      List.mem_filter, Bool.and_eq_true, decide_eq_true_eq]
    constructor
    · rintro ⟨-, hmem, hp⟩
      exact ⟨⟨n, i⟩, ⟨hmem, hp⟩, rfl⟩
    · rintro ⟨⟨n', _⟩, ⟨hmem, hp⟩, rfl⟩
      obtain ⟨rfl, hlt⟩ := hl _ hmem
      exact ⟨hlt, hmem, hp⟩
  have hsum : ∀ i : Nat, (decide ((⟨n, i⟩ : SubscriptionId) ∈ l) && p ⟨n, i⟩).toNat
      = if (decide ((⟨n, i⟩ : SubscriptionId) ∈ l) && p ⟨n, i⟩) = true then 1 else 0 := fun i => by
    cases decide ((⟨n, i⟩ : SubscriptionId) ∈ l) && p ⟨n, i⟩ <;> rfl
  simp only [hsum]
  rw [← Finset.card_filter, hset, List.toFinset_card_of_nodup hinj, List.length_map,
    List.countP_eq_length_filter]

theorem issued_of_mem_followers (h : b.Sound) {agent : String} :
    ∀ id ∈ b.roster.followers agent, id.bus = b.id ∧ id.serial < b.issued := fun id hid => by
  obtain ⟨s, hs⟩ := Option.isSome_iff_exists.mp (h.isSome_of_mem_followers hid)
  exact h.issued hs

theorem sum_takes (h : b.Sound) (beat : Beat) :
    ∑ i ∈ Finset.range b.issued, (b.takes beat ⟨b.id, i⟩).toNat = (b.fanOut beat).delivered :=
  sum_range_eq_countP (h.nodup_followers _) (issued_of_mem_followers h) _

theorem sum_loses (h : b.Sound) (beat : Beat) :
    ∑ i ∈ Finset.range b.issued, (b.loses beat ⟨b.id, i⟩).toNat = (b.fanOut beat).dropped :=
  sum_range_eq_countP (h.nodup_followers _) (issued_of_mem_followers h) _

/-! ## Other operations -/

/-- Two buses that have counted the same. -/
structure SameCounters (b b' : Bus) : Prop where
  published : b'.published = b.published
  delivered : b'.delivered = b.delivered
  dropped : b'.dropped = b.dropped

theorem SameRecords.counters {b' : Bus} (h : b.SameRecords b') : b.SameCounters b' :=
  ⟨h.published, h.delivered, h.dropped⟩

/-- Only publishing counts anything. -/
theorem counters_apply (b : Bus) {op : Operation} (hop : op.beats = []) :
    b.SameCounters (b.apply op) := by
  cases op with
  | publish beat => cases hop
  | unsubscribe key id => exact (sameRecords_unsubscribe b key id).counters
  | discard id => exact (sameRecords_discard b id).counters
  | _ => exact ⟨rfl, rfl, rfl⟩

theorem counters_applyAll (b : Bus) {ops : List Operation}
    (hops : ops.flatMap Operation.beats = []) : b.SameCounters (b.applyAll ops) := by
  induction ops generalizing b with
  | nil => exact ⟨rfl, rfl, rfl⟩
  | cons op ops ih =>
    rw [List.flatMap_cons, List.append_eq_nil_iff] at hops
    obtain ⟨published, delivered, dropped⟩ := counters_apply b hops.1
    obtain ⟨published', delivered', dropped'⟩ := ih (b.apply op) hops.2
    exact ⟨published'.trans published, delivered'.trans delivered, dropped'.trans dropped⟩

/-- Only subscribing gives identities away. -/
theorem issued_apply (b : Bus) (op : Operation) :
    (b.apply op).issued = b.issued + op.keys.length := by
  cases op with
  | unsubscribe key id => exact (sameRecords_unsubscribe b key id).issued
  | discard id => exact (sameRecords_discard b id).issued
  | _ => rfl

theorem issued_applyAll (b : Bus) (ops : List Operation) :
    (b.applyAll ops).issued = b.issued + (ops.flatMap Operation.keys).length := by
  induction ops generalizing b with
  | nil => rfl
  | cons op ops ih =>
    rw [applyAll_cons, ih, issued_apply, List.flatMap_cons, List.length_append, Nat.add_assoc]

end Bus

end AgentPulse
