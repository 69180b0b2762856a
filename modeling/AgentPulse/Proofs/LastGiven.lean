import Mathlib.Data.List.Basic

/-!
# What is given last stays

Steps of one kind may each give a value for something, in the stead of the value that was there.
After any number of them there is what was given last, and what was there at first if none of them
gave anything (`foldl_eq_lastGiven`).
-/

namespace AgentPulse

universe u v w

variable {α : Type u} {β : Type v} {σ : Type w} {f : α → Option β} {l l' : List α} {a : α}

/-- The last of the values that are given along a list. -/
def lastGiven (f : α → Option β) (l : List α) : Option β := (l.filterMap f).getLast?

theorem lastGiven_append : lastGiven f (l ++ l') = (lastGiven f l').or (lastGiven f l) := by
  rw [lastGiven, lastGiven, lastGiven, List.filterMap_append, List.getLast?_append]

theorem lastGiven_singleton : lastGiven f [a] = f a := by
  rw [lastGiven, List.filterMap_cons]
  cases f a <;> rfl

theorem lastGiven_cons : lastGiven f (a :: l) = (lastGiven f l).or (f a) := by
  rw [← List.singleton_append, lastGiven_append, lastGiven_singleton]

theorem lastGiven_eq_none_iff : lastGiven f l = none ↔ ∀ a ∈ l, f a = none := by
  rw [lastGiven, List.getLast?_eq_none_iff, List.filterMap_eq_nil_iff]

/-- A value that is given is given by one of the list, and nothing is given for it after that. -/
theorem lastGiven_eq_some_iff {b : β} : lastGiven f l = some b ↔
    ∃ before a after, l = before ++ a :: after ∧ f a = some b ∧ ∀ a' ∈ after, f a' = none := by
  constructor
  · intro h
    induction l with
    | nil => cases h
    | cons a l ih =>
      rw [lastGiven_cons] at h
      cases hl : lastGiven f l with
      | none =>
        -- Nothing is given later on, so it is the head that gives the value.
        rw [hl, Option.none_or] at h
        exact ⟨[], a, l, rfl, h, lastGiven_eq_none_iff.mp hl⟩
      | some b' =>
        rw [hl, Option.some_or] at h
        obtain ⟨before, a', after, hsplit, ha', hafter⟩ := ih (hl.trans h)
        exact ⟨a :: before, a', after, by rw [hsplit, List.cons_append], ha', hafter⟩
  · rintro ⟨before, a, after, rfl, ha, hafter⟩
    rw [lastGiven_append, lastGiven_cons, lastGiven_eq_none_iff.mpr hafter, Option.none_or, ha,
      Option.some_or]

/-- If each step lets its own value be seen, or else what was seen before it, then in the end the
value that was given last is seen. -/
theorem foldl_eq_lastGiven {step : σ → α → σ} (view : σ → Option β)
    (h : ∀ s a, view (step s a) = (f a).or (view s)) (l : List α) (s : σ) :
    view (l.foldl step s) = (lastGiven f l).or (view s) := by
  induction l generalizing s with
  | nil => rfl
  | cons a l ih => rw [List.foldl_cons, ih, h, lastGiven_cons, Option.or_assoc]

end AgentPulse
