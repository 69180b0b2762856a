import AgentPulse.Proofs.Bus.Counting
import AgentPulse.Proofs.Bus.Enrolled
import Mathlib.Algebra.GroupWithZero.Nat

/-!
# Many beats in a row

Beats that are published one after the other, with nothing in between, fill each open mailbox up to
its capacity and are lost to it from then on (`Mailbox.offerAll_eq`). What a subscription takes and
loses by it (`Subscription.accepted`, `Subscription.refused`) depends on its own matching beats
alone, and a bus adds both up over its subscriptions (`Bus.publishAll_eq`). The order of the beats
shows only in the archive and in which of the matching beats a mailbox has taken.
-/

namespace AgentPulse

namespace Mailbox

variable (m : Mailbox)

/-- How many more beats may wait. -/
def room : Nat := m.capacity - m.waiting.length

/-- A mailbox after beats were offered to it, one after the other. -/
def offerAll (beats : List Beat) : Mailbox := beats.foldl offer m

@[simp] theorem isClosed_offerAll (beats : List Beat) :
    (m.offerAll beats).isClosed = m.isClosed := by
  induction beats generalizing m with
  | nil => rfl
  | cons beat beats ih => exact (ih (m.offer beat)).trans (m.isClosed_offer beat)

/-- The first beats are taken, as many as there is room for, and all others are lost. -/
theorem offerAll_eq (beats : List Beat) :
    m.offerAll beats =
      { m with
        waiting := m.waiting ++ beats.take m.room
        dropped := m.dropped + .ofNat (beats.length - m.room) } := by
  induction beats generalizing m with
  | nil => simp [offerAll]
  | cons beat beats ih =>
    rw [offerAll, List.foldl_cons, ← offerAll, ih, offer]
    by_cases hfull : m.capacity ≤ m.waiting.length
    · -- There is no room before the beat and none after it.
      have hroom : m.room = 0 := Nat.sub_eq_zero_of_le hfull
      rw [if_pos (by simpa [isFull] using hfull),
        show room { m with dropped := m.dropped + 1 } = 0 from hroom, hroom, List.take_zero,
        List.take_zero, Nat.sub_zero, Nat.sub_zero, List.length_cons, Nat.add_comm beats.length,
        UInt64.ofNat_add, ← UInt64.add_assoc]
      rfl
    · have hroom : m.room = room { m with waiting := m.waiting ++ [beat] } + 1 := by
        simp only [room, List.length_append, List.length_singleton]
        omega
      rw [if_neg (by simpa [isFull] using hfull), hroom, List.take_succ_cons, List.length_cons,
        Nat.add_sub_add_right, List.append_assoc, List.singleton_append]

end Mailbox

namespace Subscription

variable (s : Subscription)

/-- The beats among some that are for a subscription. -/
def matching (beats : List Beat) : List Beat := beats.filter fun beat => follows s.key beat.agent

/-- A subscription after beats were published on its bus. -/
def receive (beats : List Beat) : Subscription :=
  if s.mailbox.isClosed then s else s.onMailbox (·.offerAll (s.matching beats))

/-- How many of the beats published on its bus a subscription takes. -/
def accepted (beats : List Beat) : Nat :=
  if s.mailbox.isClosed then 0 else min s.mailbox.room (s.matching beats).length

/-- How many of the beats published on its bus a subscription loses. -/
def refused (beats : List Beat) : Nat :=
  if s.mailbox.isClosed then 0 else (s.matching beats).length - s.mailbox.room

theorem matching_cons (beat : Beat) (beats : List Beat) :
    s.matching (beat :: beats) = s.matching [beat] ++ s.matching beats := by
  rw [matching, matching, matching, ← List.filter_append, List.singleton_append]

theorem receive_of_open {s : Subscription} (h : s.mailbox.isClosed = false) (beats : List Beat) :
    s.receive beats = s.onMailbox (·.offerAll (s.matching beats)) := by
  rw [receive, if_neg (by rw [h]; exact Bool.false_ne_true)]

theorem receive_of_closed {s : Subscription} (h : s.mailbox.isClosed = true) (beats : List Beat) :
    s.receive beats = s := if_pos h

/-- Nothing published changes what a subscription is called, what it follows and whether it is
open. -/
theorem receive_frame (beats : List Beat) :
    (s.receive beats).id = s.id ∧ (s.receive beats).key = s.key ∧
    (s.receive beats).mailbox.isClosed = s.mailbox.isClosed := by
  unfold receive
  split
  · exact ⟨rfl, rfl, rfl⟩
  · exact ⟨rfl, rfl, Mailbox.isClosed_offerAll _ _⟩

theorem matching_receive (first beats : List Beat) :
    (s.receive first).matching beats = s.matching beats := by
  rw [matching, matching, (s.receive_frame first).2.1]

theorem receive_nil : s.receive [] = s := by
  unfold receive
  split <;> rfl

theorem counts_nil : s.accepted [] = 0 ∧ s.refused [] = 0 := by
  unfold accepted refused matching
  cases s.mailbox.isClosed <;> simp

theorem receive_cons (beat : Beat) (beats : List Beat) :
    s.receive (beat :: beats) = (s.receive [beat]).receive beats := by
  cases hc : s.mailbox.isClosed with
  | true => rw [receive_of_closed hc, receive_of_closed hc, receive_of_closed hc]
  | false =>
    have hopen : (s.receive [beat]).mailbox.isClosed = false :=
      (s.receive_frame [beat]).2.2.trans hc
    rw [receive_of_open hopen, matching_receive, receive_of_open hc, receive_of_open hc,
      matching_cons, onMailbox, Mailbox.offerAll, List.foldl_append]
    rfl

/-- An open mailbox takes and loses what it takes and loses of the first beat and of the others. -/
theorem counts_cons (beat : Beat) (beats : List Beat) :
    s.accepted (beat :: beats) = s.accepted [beat] + (s.receive [beat]).accepted beats ∧
    s.refused (beat :: beats) = s.refused [beat] + (s.receive [beat]).refused beats := by
  unfold accepted refused
  rw [matching_receive, (s.receive_frame [beat]).2.2]
  cases hc : s.mailbox.isClosed with
  | true => exact ⟨rfl, rfl⟩
  | false =>
    have hroom : (s.receive [beat]).mailbox.room
        = s.mailbox.room - (s.matching [beat]).length := by
      rw [receive_of_open hc, onMailbox, Mailbox.offerAll_eq]
      simp only [Mailbox.room, List.length_append, List.length_take]
      omega
    rw [hroom, matching_cons, List.length_append]
    simp only [Bool.false_eq_true, if_false]
    omega

/-- One beat counts once at an open subscription that it is for. -/
theorem counts_singleton (beat : Beat) :
    s.accepted [beat] = (if s.mailbox.isClosed = false ∧ follows s.key beat.agent = true
      then (!s.mailbox.isFull).toNat else 0) ∧
    s.refused [beat] = (if s.mailbox.isClosed = false ∧ follows s.key beat.agent = true
      then s.mailbox.isFull.toNat else 0) := by
  unfold accepted refused
  cases hc : s.mailbox.isClosed with
  | true => exact ⟨rfl, rfl⟩
  | false =>
    rw [matching, List.filter_singleton, Mailbox.room, Mailbox.isFull]
    cases follows s.key beat.agent with
    | false => simp
    | true =>
      rcases Nat.lt_or_ge s.mailbox.waiting.length s.mailbox.capacity with hlt | hge
      · rw [decide_eq_false (Nat.not_le.mpr hlt)]
        exact ⟨Nat.min_eq_right (Nat.sub_pos_of_lt hlt),
          Nat.sub_eq_zero_of_le (Nat.sub_pos_of_lt hlt)⟩
      · rw [decide_eq_true hge, Nat.sub_eq_zero_of_le hge]
        exact ⟨rfl, rfl⟩

theorem react_publish_eq (beat : Beat) : s.react (.publish beat) = some (s.receive [beat]) := by
  rw [react]
  cases hc : s.mailbox.isClosed with
  | true => rw [receive_of_closed hc, if_neg (by simp)]
  | false =>
    rw [receive_of_open hc, matching, List.filter_singleton]
    cases hf : follows s.key beat.agent <;> rfl

/-- What is published fares at a subscription on its own as it does at the bus. -/
theorem reactAll_publish (beats : List Beat) :
    s.reactAll (beats.map .publish) = some (s.receive beats) := by
  induction beats generalizing s with
  | nil => rw [receive_nil]; rfl
  | cons beat beats ih =>
    rw [List.map_cons, reactAll, react_publish_eq, Option.bind_some, ih, ← receive_cons]

end Subscription

namespace Bus

variable {b : Bus}

/-- The subscriptions of a bus after a beat, each on its own. -/
theorem subscriptions_publish_eq (h : b.Sound) (beat : Beat) :
    (b.publish beat).1.subscriptions = b.subscriptions.map (·.receive [beat]) := by
  rw [subscriptions_publish h]
  refine List.map_congr_left fun s hs => ?_
  have hreact := s.react_publish_eq beat
  rw [Subscription.react, Option.some.injEq] at hreact
  rw [offered, ← hreact]
  simp only [h.mem_followers_iff (h.mem_iff.mp hs)]

/-- The followers of an agent, as they stand among the subscriptions. -/
theorem perm_followers (h : b.Sound) (agent : String) :
    (b.roster.followers agent).Perm
      ((b.openOnes.filter fun s => follows s.key agent).map (·.id)) := by
  have hnodup : ((b.openOnes.filter fun s => follows s.key agent).map (·.id)).Nodup :=
    h.nodup_ids.sublist ((List.filter_sublist.trans List.filter_sublist).map _)
  refine (List.perm_ext_iff_of_nodup (h.nodup_followers agent) hnodup).mpr fun id => ?_
  rw [List.mem_map]
  constructor
  · intro hid
    obtain ⟨s, hs⟩ := Option.isSome_iff_exists.mp (h.isSome_of_mem_followers hid)
    obtain ⟨hopen, hfollows⟩ := (h.mem_followers_iff hs).mp hid
    have e : s.id = id := Subscription.id_of_find? hs
    exact ⟨s, List.mem_filter.mpr ⟨h.mem_openOnes.mpr ⟨e ▸ hs, hopen⟩, hfollows⟩, e⟩
  · rintro ⟨s, hs, rfl⟩
    obtain ⟨hmem, hfollows⟩ := List.mem_filter.mp hs
    obtain ⟨hfind, hopen⟩ := h.mem_openOnes.mp hmem
    exact (h.mem_followers_iff hfind).mpr ⟨hopen, hfollows⟩

/-- Counting followers is adding up over all subscriptions. -/
theorem countP_followers (h : b.Sound) {agent : String} {p : SubscriptionId → Bool}
    {count : Subscription → Nat}
    (hcount : ∀ s ∈ b.subscriptions,
      count s = if s.mailbox.isClosed = false ∧ follows s.key agent = true then (p s.id).toNat
        else 0) :
    (b.roster.followers agent).countP p = (b.subscriptions.map count).sum := by
  rw [(perm_followers h agent).countP_eq, List.countP_map, List.countP_filter, openOnes,
    List.countP_filter]
  generalize b.subscriptions = l at hcount
  induction l with
  | nil => rfl
  | cons s l ih =>
    rw [List.countP_cons, ih fun t ht => hcount t (List.mem_cons_of_mem s ht), List.map_cons,
      List.sum_cons, hcount s List.mem_cons_self, Nat.add_comm]
    cases s.mailbox.isClosed <;> cases follows s.key agent <;> cases hp : p s.id <;> simp [hp]

/-- A beat is delivered to those who take it and dropped for those who lose it. -/
theorem fanOut_eq (h : b.Sound) (beat : Beat) :
    b.fanOut beat = ⟨(b.subscriptions.map (·.accepted [beat])).sum,
      (b.subscriptions.map (·.refused [beat])).sum⟩ := by
  have hlook : ∀ s ∈ b.subscriptions, Subscription.find? s.id b.subscriptions = some s :=
    fun s hs => h.mem_iff.mp hs
  rw [fanOut, countP_followers h fun s hs => ?_, countP_followers h fun s hs => ?_]
  · rw [(s.counts_singleton beat).2, Round.isLostOn, hlook s hs, Option.any_some]
  · rw [(s.counts_singleton beat).1, Round.isTakenBy, hlook s hs, Option.any_some]

/-- Beats published one after the other: each subscription receives them as if on its own, and what
was delivered and dropped is what all of them took and lost. -/
theorem publishAll_eq (h : b.Sound) (beats : List Beat) :
    b.applyAll (beats.map .publish) =
      { b with
        archive := beats.foldl (fun a beat => a.append beat.agent beat) b.archive
        subscriptions := b.subscriptions.map (·.receive beats)
        published := b.published + .ofNat beats.length
        delivered := b.delivered + .ofNat (b.subscriptions.map (·.accepted beats)).sum
        dropped := b.dropped + .ofNat (b.subscriptions.map (·.refused beats)).sum } := by
  induction beats generalizing b with
  | nil => simp [Subscription.receive_nil, Subscription.counts_nil]
  | cons beat beats ih =>
    have hbus : b.apply (.publish beat) = _ := (publish_eq h beat).1
    rw [← subscriptions_publish h, subscriptions_publish_eq h, fanOut_eq h] at hbus
    rw [List.map_cons, applyAll_cons, ih (h.apply (.publish beat)), hbus]
    simp only [List.map_map, Function.comp_def, List.foldl_cons, List.length_cons,
      Subscription.receive_cons _ beat beats, (Subscription.counts_cons _ beat beats).1,
      (Subscription.counts_cons _ beat beats).2, List.sum_map_add, UInt64.ofNat_add]
    ac_rfl

end Bus

end AgentPulse
