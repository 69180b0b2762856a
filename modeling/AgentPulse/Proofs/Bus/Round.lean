import AgentPulse.Bus.Basic
import Mathlib.Data.List.Nodup

/-!
# Rounds of offers

A round walks down a list of followers and changes one mailbox at a time. No follower is listed
twice, so what it does can be said all at once: every listed subscription is offered the beat once
and no other is touched (`subscriptions_offer`), those are kept whose readers exist (`kept_offer`),
each of them counts once, as delivered or as dropped, by what its mailbox held before the round
(`delivery_offer`), and those that drop the beat are noted (`notices_offer`).
-/

namespace AgentPulse

namespace Subscription

variable {id other : SubscriptionId} {s : Subscription} {l : List Subscription}

@[simp] theorem onMailbox_id (f : Mailbox → Mailbox) : (s.onMailbox f).id = s.id := rfl

@[simp] theorem onMailbox_key (f : Mailbox → Mailbox) : (s.onMailbox f).key = s.key := rfl

@[simp] theorem onMailbox_mailbox (f : Mailbox → Mailbox) :
    (s.onMailbox f).mailbox = f s.mailbox := rfl

theorem id_of_find? (h : find? id l = some s) : s.id = id := by
  simpa using List.find?_some h

theorem mem_of_find? (h : find? id l = some s) : s ∈ l := List.mem_of_find?_eq_some h

theorem find?_eq_none_iff : find? id l = none ↔ ∀ s ∈ l, s.id ≠ id := by
  simp [find?, List.find?_eq_none]

/-- Where no identity occurs twice, a subscription is found under its own. -/
theorem find?_eq_some_iff (h : (l.map (·.id)).Nodup) :
    find? id l = some s ↔ s ∈ l ∧ s.id = id := by
  constructor
  · intro hs
    exact ⟨mem_of_find? hs, id_of_find? hs⟩
  · rintro ⟨hs, rfl⟩
    cases hfind : find? s.id l with
    | none => exact absurd rfl (find?_eq_none_iff.mp hfind s hs)
    | some t =>
      have hid : t.id = s.id := id_of_find? hfind
      rw [List.inj_on_of_nodup_map h (mem_of_find? hfind) hs hid]

/-- A change that keeps identities is seen through the look-up. -/
theorem find?_map {g : Subscription → Subscription} (hg : ∀ s, (g s).id = s.id) :
    find? id (l.map g) = (find? id l).map g := by
  unfold find?
  rw [List.find?_map]
  congr 2
  funext s
  simp [hg]

theorem find?_modify (f : Mailbox → Mailbox) :
    find? id (modify other f l)
      = (find? id l).map fun s => if s.id = other then s.onMailbox f else s :=
  find?_map fun s => by split <;> rfl

theorem find?_modify_ne (f : Mailbox → Mailbox) (h : id ≠ other) :
    find? id (modify other f l) = find? id l := by
  rw [find?_modify]
  cases hfind : find? id l with
  | none => rfl
  | some s =>
    have hs : s.id ≠ other := fun e => h (id_of_find? hfind ▸ e)
    simp [hs]

theorem isSome_find?_modify (f : Mailbox → Mailbox) :
    (find? id (modify other f l)).isSome = (find? id l).isSome := by
  rw [find?_modify, Option.isSome_map]

end Subscription

theorem Delivery.add_eq (a b : Delivery) :
    a + b = ⟨a.delivered + b.delivered, a.dropped + b.dropped⟩ := rfl

namespace Round

open Subscription (find? modify)

variable (beat : Beat) (l : List Subscription) (ids : List SubscriptionId)

/-- Whether a beat would be lost for a subscription. -/
def isLostOn (id : SubscriptionId) : Bool := (find? id l).any (·.mailbox.isFull)

/-- Whether a beat would be taken by the mailbox of a subscription. -/
def isTakenBy (id : SubscriptionId) : Bool := (find? id l).any (!·.mailbox.isFull)

/-- Whoever exists either takes a beat or loses it. -/
theorem isTakenBy_eq {id : SubscriptionId} (h : (find? id l).isSome) :
    isTakenBy l id = !isLostOn l id := by
  obtain ⟨s, hs⟩ := Option.isSome_iff_exists.mp h
  simp [isTakenBy, isLostOn, hs]

variable {l}

theorem isLostOn_modify_ne {id other : SubscriptionId} (f : Mailbox → Mailbox) (h : id ≠ other) :
    isLostOn (modify other f l) id = isLostOn l id := by
  rw [isLostOn, isLostOn, Subscription.find?_modify_ne f h]

theorem isTakenBy_modify_ne {id other : SubscriptionId} (f : Mailbox → Mailbox) (h : id ≠ other) :
    isTakenBy (modify other f l) id = isTakenBy l id := by
  rw [isTakenBy, isTakenBy, Subscription.find?_modify_ne f h]

/-! ## What a round does -/

variable {ids}

/-- A round keeps the followers whose readers exist, in their order. -/
theorem kept_offer : (offer beat l ids).kept = ids.filter fun id => (find? id l).isSome := by
  induction ids generalizing l with
  | nil => rfl
  | cons id rest ih =>
    rw [offer]
    split
    next hnone => rw [List.filter_cons, hnone]; exact ih
    next s hs =>
      have hrest : (offer beat (modify id (Mailbox.offer · beat) l) rest).kept
          = rest.filter fun i => (find? i l).isSome := by
        rw [ih]
        simp only [Subscription.isSome_find?_modify]
      rw [List.filter_cons, hs]
      split <;> simp [hrest]

/-- A round offers the beat once to every listed subscription and touches no other. -/
theorem subscriptions_offer (h : ids.Nodup) :
    (offer beat l ids).subscriptions
      = l.map fun s => if s.id ∈ ids then s.onMailbox (Mailbox.offer · beat) else s := by
  induction ids generalizing l with
  | nil => simp [offer]
  | cons id rest ih =>
    obtain ⟨hid, hrest⟩ := List.nodup_cons.mp h
    rw [offer]
    split
    next hnone =>
      -- Nobody has the identity, so to be listed is to be listed further down.
      show (offer beat l rest).subscriptions = _
      rw [ih hrest]
      refine List.map_congr_left fun s hs => ?_
      have hne : s.id ≠ id := Subscription.find?_eq_none_iff.mp hnone s hs
      simp [hne]
    next t ht =>
      have hmap : (offer beat (modify id (Mailbox.offer · beat) l) rest).subscriptions
          = l.map fun s =>
              if s.id ∈ id :: rest then s.onMailbox (Mailbox.offer · beat) else s := by
        rw [ih hrest, Subscription.modify, List.map_map]
        refine List.map_congr_left fun s _ => ?_
        by_cases hs : s.id = id
        · simp [hs, hid]
        · simp [hs]
      split <;> exact hmap

/-- Each listed subscription that exists counts once, by what its mailbox held before. -/
theorem delivery_offer (h : ids.Nodup) :
    (offer beat l ids).delivery = ⟨ids.countP (isTakenBy l), ids.countP (isLostOn l)⟩ := by
  induction ids generalizing l with
  | nil => rfl
  | cons id rest ih =>
    obtain ⟨hid, hrest⟩ := List.nodup_cons.mp h
    rw [offer]
    split
    next hnone =>
      have htaken : isTakenBy l id = false := by simp [isTakenBy, hnone]
      have hlost : isLostOn l id = false := by simp [isLostOn, hnone]
      show (offer beat l rest).delivery = _
      rw [ih hrest, List.countP_cons, List.countP_cons, htaken, hlost]
      rfl
    next t ht =>
      have hne : ∀ i ∈ rest, i ≠ id := fun i hi e => hid (e ▸ hi)
      have hdelivery := ih (l := modify id (Mailbox.offer · beat) l) hrest
      have hall : rest.countP (isTakenBy (modify id (Mailbox.offer · beat) l))
          = rest.countP (isTakenBy l) :=
        List.countP_congr fun i hi => by rw [isTakenBy_modify_ne _ (hne i hi)]
      have hnone : rest.countP (isLostOn (modify id (Mailbox.offer · beat) l))
          = rest.countP (isLostOn l) :=
        List.countP_congr fun i hi => by rw [isLostOn_modify_ne _ (hne i hi)]
      rw [hall, hnone] at hdelivery
      have htaken : isTakenBy l id = !t.mailbox.isFull := by simp [isTakenBy, ht]
      have hlost : isLostOn l id = t.mailbox.isFull := by simp [isLostOn, ht]
      rw [List.countP_cons, List.countP_cons, htaken, hlost]
      split
      next hfull => simp [hdelivery, hfull]
      next hfull => simp [hdelivery, hfull]

/-- Of followers that exist, those are noted for whom the beat is lost. -/
theorem notices_offer (h : ids.Nodup) (hexists : ∀ id ∈ ids, (find? id l).isSome) :
    (offer beat l ids).notices = (ids.filter (isLostOn l)).map (.mailboxFull beat.agent) := by
  induction ids generalizing l with
  | nil => rfl
  | cons id rest ih =>
    obtain ⟨hid, hrest⟩ := List.nodup_cons.mp h
    obtain ⟨t, ht⟩ := Option.isSome_iff_exists.mp (hexists id List.mem_cons_self)
    have hlater := ih (l := modify id (Mailbox.offer · beat) l) hrest fun i hi => by
      rw [Subscription.isSome_find?_modify]
      exact hexists i (List.mem_cons_of_mem _ hi)
    -- The first one's mailbox has changed by then, but no later follower asks about it.
    have hsame : rest.filter (isLostOn (modify id (Mailbox.offer · beat) l))
        = rest.filter (isLostOn l) :=
      List.filter_congr fun i hi => isLostOn_modify_ne _ fun e => hid (e ▸ hi)
    rw [hsame] at hlater
    have hlost : isLostOn l id = t.mailbox.isFull := by simp [isLostOn, ht]
    simp only [offer, ht, List.filter_cons, hlost]
    split
    next => exact congrArg (.mailboxFull beat.agent id :: ·) hlater
    next => exact hlater

/-- A round down two lists is a round down the one and then down the other. -/
theorem offer_append (more : List SubscriptionId) :
    offer beat l (ids ++ more)
      = let first := offer beat l ids
        let second := offer beat first.subscriptions more
        ⟨second.subscriptions, first.kept ++ second.kept, first.delivery + second.delivery,
          first.notices ++ second.notices⟩ := by
  induction ids generalizing l with
  | nil => simp [offer, Delivery.add_eq]
  | cons id rest ih =>
    rw [List.cons_append, offer, offer]
    cases hfind : find? id l with
    | none => simp only [ih]; rfl
    | some s =>
      simp only [ih]
      split
      next => simp [Delivery.add_eq, Nat.add_right_comm]
      next => simp [Delivery.add_eq, Nat.add_right_comm]

end Round

end AgentPulse
