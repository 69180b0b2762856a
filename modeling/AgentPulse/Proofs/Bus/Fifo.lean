import AgentPulse.Beat.Basic

/-!
# A bounded queue on its own

A queue that knows nothing of buses, keys or other queues: it is offered beats and it is read. What
is offered while it is full is lost and counted. It remembers all that was taken from it.

What was taken and what waits, one after the other, is what was offered less what was lost: each
offer X (`feedAll_of_no_offer`).
-/

namespace AgentPulse

/-- A bounded queue, with what was taken from it and how much it lost. -/
structure Fifo where
  /-- How many beats may wait. -/
  capacity : Nat
  /-- The waiting beats, oldest first. -/
  queue : List Beat := []
  /-- The beats taken so far, oldest first. -/
  taken : List Beat := []
  /-- How many beats were offered while the queue was full. -/
  lost : Nat := 0

namespace Fifo

/-- What can be done to a queue. -/
inductive Input where
  | offer (b : Beat)
  | take

/-- The beat that is offered, if one is. -/
def Input.beat? : Input → Option Beat
  | .offer b => some b
  | .take => none

/-- The queue after an input. -/
def feed (f : Fifo) : Input → Fifo
  | .offer b =>
    if f.queue.length < f.capacity then { f with queue := f.queue ++ [b] }
    else { f with lost := f.lost + 1 }
  | .take =>
    match f.queue with
    | [] => f
    | b :: rest => { f with queue := rest, taken := f.taken ++ [b] }

/-- The queue after inputs, one after the other. -/
def feedAll (f : Fifo) (inputs : List Input) : Fifo := inputs.foldl feed f

variable (f : Fifo)

@[simp] theorem feedAll_nil : f.feedAll [] = f := rfl

@[simp] theorem feedAll_cons (i : Input) (inputs : List Input) :
    f.feedAll (i :: inputs) = (f.feed i).feedAll inputs := rfl

theorem feedAll_append (inputs more : List Input) :
    f.feedAll (inputs ++ more) = (f.feedAll inputs).feedAll more := List.foldl_append ..

theorem feed_offer_of_lt {b : Beat} (h : f.queue.length < f.capacity) :
    f.feed (.offer b) = { f with queue := f.queue ++ [b] } := if_pos h

theorem feed_offer_of_le {b : Beat} (h : f.capacity ≤ f.queue.length) :
    f.feed (.offer b) = { f with lost := f.lost + 1 } := if_neg (Nat.not_lt.mpr h)

variable {f} in
theorem feed_take_cons {b : Beat} {rest : List Beat} (h : f.queue = b :: rest) :
    f.feed .take = { f with queue := rest, taken := f.taken ++ [b] } := by
  rw [feed, h]

variable {f} in
theorem feed_take_nil (h : f.queue = []) : f.feed .take = f := by
  rw [feed, h]

/-- Reading until nothing is found takes all that waits. -/
theorem feedAll_take_all :
    f.feedAll (List.replicate (f.queue.length + 1) .take)
      = { f with queue := [], taken := f.taken ++ f.queue } := by
  obtain ⟨capacity, queue, taken, lost⟩ := f
  induction queue generalizing taken with
  | nil => simp [feedAll, feed]
  | cons b rest ih =>
    rw [List.length_cons, List.replicate_succ, feedAll_cons, feed_take_cons rfl]
    simpa using ih (taken ++ [b])

/-! ## What becomes of the offers -/

theorem sublist_feed (i : Input) :
    ((f.feed i).taken ++ (f.feed i).queue).Sublist (f.taken ++ f.queue ++ i.beat?.toList) := by
  cases i with
  | offer b =>
    rcases Nat.lt_or_ge f.queue.length f.capacity with hlt | hge
    · rw [feed_offer_of_lt f hlt, ← List.append_assoc]
      exact List.Sublist.refl _
    · rw [feed_offer_of_le f hge]
      exact List.sublist_append_left _ _
  | take =>
    cases hq : f.queue with
    | nil => rw [feed_take_nil hq, hq]; simp [Input.beat?]
    | cons b rest => rw [feed_take_cons hq]; simp [Input.beat?]

/-- Each offer enters at most once, and in its turn. -/
theorem sublist_feedAll (inputs : List Input) :
    ((f.feedAll inputs).taken ++ (f.feedAll inputs).queue).Sublist
      (f.taken ++ f.queue ++ inputs.filterMap Input.beat?) := by
  induction inputs generalizing f with
  | nil => simp
  | cons i inputs ih =>
    refine (ih (f.feed i)).trans ?_
    rw [List.filterMap_cons]
    cases hb : i.beat? with
    | none =>
      have hstep := f.sublist_feed i
      rw [hb] at hstep
      exact (by simpa using hstep : List.Sublist _ _).append_right _
    | some b =>
      have hstep := f.sublist_feed i
      rw [hb] at hstep
      rw [List.append_cons]
      exact (by simpa using hstep : List.Sublist _ _).append_right _

/-- As long as nothing is offered, what waits is taken in order and nothing is lost. -/
theorem feedAll_of_no_offer {inputs : List Input} (h : inputs.filterMap Input.beat? = []) :
    (f.feedAll inputs).taken ++ (f.feedAll inputs).queue = f.taken ++ f.queue ∧
    (f.feedAll inputs).lost = f.lost := by
  induction inputs generalizing f with
  | nil => exact ⟨rfl, rfl⟩
  | cons i inputs ih =>
    cases i with
    | offer b => cases h
    | take =>
      obtain ⟨hqueue, hlost⟩ := ih (f.feed .take) h
      rw [feedAll_cons, hqueue, hlost]
      cases hq : f.queue with
      | nil => rw [feed_take_nil hq, hq]; exact ⟨rfl, rfl⟩
      | cons b rest => rw [feed_take_cons hq]; exact ⟨(List.append_cons ..).symm, rfl⟩

/-! ## What is taken stays taken -/

theorem taken_prefix_feed (i : Input) : f.taken <+: (f.feed i).taken := by
  cases i with
  | offer b =>
    rw [feed]
    split <;> exact List.prefix_refl _
  | take =>
    cases hq : f.queue with
    | nil => simp only [feed_take_nil hq, List.prefix_rfl]
    | cons b rest => rw [feed_take_cons hq]; exact List.prefix_append ..

theorem taken_prefix_feedAll (inputs : List Input) : f.taken <+: (f.feedAll inputs).taken := by
  induction inputs generalizing f with
  | nil => exact List.prefix_refl _
  | cons i inputs ih => exact (f.taken_prefix_feed i).trans (ih (f.feed i))

/-- As long as nothing is taken, the first offers fill the queue and all others are lost. -/
theorem feedAll_of_nothing_taken {inputs : List Input}
    (h : (f.feedAll inputs).taken = f.taken) :
    f.feedAll inputs =
      { f with
        queue := f.queue
          ++ (inputs.filterMap Input.beat?).take (f.capacity - f.queue.length)
        lost := f.lost
          + ((inputs.filterMap Input.beat?).length - (f.capacity - f.queue.length)) } := by
  induction inputs generalizing f with
  | nil => simp
  | cons i inputs ih =>
    rw [feedAll_cons] at h ⊢
    cases i with
    | offer b =>
      rw [List.filterMap_cons_some (rfl : Input.beat? (.offer b) = some b)]
      rcases Nat.lt_or_ge f.queue.length f.capacity with hlt | hge
      · rw [feed_offer_of_lt f hlt] at h ⊢
        have hroom : f.capacity - f.queue.length
            = f.capacity - (f.queue ++ [b]).length + 1 := by
          rw [List.length_append, List.length_singleton]
          omega
        rw [ih _ h, hroom, List.take_succ_cons, List.length_cons, Nat.add_sub_add_right,
          List.append_assoc, List.singleton_append]
      · rw [feed_offer_of_le f hge] at h ⊢
        rw [ih _ h]
        simp only [Nat.sub_eq_zero_of_le hge, List.take_zero, Nat.sub_zero, List.length_cons,
          Nat.add_assoc, Nat.add_comm 1]
    | take =>
      rw [List.filterMap_cons_none (rfl : Input.beat? .take = none)]
      cases hq : f.queue with
      | nil =>
        rw [feed_take_nil hq] at h ⊢
        rw [ih f h, hq]
      | cons b rest =>
        -- This would have been taken, and it would still be.
        rw [feed_take_cons hq] at h
        have hlong := (taken_prefix_feedAll { f with queue := rest, taken := f.taken ++ [b] }
          inputs).length_le
        rw [h, List.length_append, List.length_singleton] at hlong
        omega

end Fifo

end AgentPulse
