import AgentPulse.Metrics.Board

/-!
# Runs of a board

A board is used in two ways: a label is registered, or the meter under a label is shown totals. A
meter stays under its label from its registration on, whatever else the board is used for, and it
has been shown the totals that were meant for its label and no others (`meter?_after`). The labels
of a board are those that were registered (`mem_keys_after`).
-/

namespace AgentPulse.Board

variable {b b' : Board} {label : String} {m : Meter}

/-! ## One use -/

theorem mem_keys : label ∈ b.meters.keys ↔ ∃ m, b.meter? label = some m := by
  rw [Dict.mem_keys, Option.isSome_iff_exists]
  rfl

theorem register_of_none (h : b.meter? label = none) :
    b.register label = .ok { b with meters := b.meters.insert label {} } := by
  rw [meter?] at h
  rw [register, Dict.contains, h]
  rfl

theorem register_of_some (h : b.meter? label = some m) : b.register label = .error .taken := by
  rw [meter?] at h
  rw [register, Dict.contains, h]
  rfl

/-- A label that can be registered has no meter yet, and gets a new one. -/
theorem register_eq_ok (h : b.register label = .ok b') :
    b.meter? label = none ∧
    ∀ other, b'.meter? other = if other = label then some {} else b.meter? other := by
  cases hm : b.meter? label with
  | some m =>
    rw [register_of_some hm] at h
    cases h
  | none =>
    rw [register_of_none hm] at h
    cases h
    exact ⟨rfl, fun other => Dict.find?_insert ..⟩

theorem meter?_observe (b : Board) (label other : String) (t : Totals) :
    (b.observe label t).meter? other
      = if other = label then (b.meter? label).map (·.observe t) else b.meter? other := by
  cases hm : b.meter? label with
  | some m =>
    rw [observe, hm]
    exact Dict.find?_insert ..
  | none =>
    simp only [observe, hm]
    split
    next h => rw [h, hm]; rfl
    next => rfl

/-- What a board is used for. -/
inductive Use where
  | register (label : String)
  | observe (label : String) (t : Totals)

/-- The board after a use. A registration that is refused leaves it as it is. -/
def next (b : Board) : Use → Board
  | .register label =>
    match b.register label with
    | .ok b' => b'
    | .error _ => b
  | .observe label t => b.observe label t

/-- The totals that a use shows to the meter under a label. -/
def shown? (label : String) : Use → Option Totals
  | .register _ => none
  | .observe other t => if other = label then some t else none

theorem meter?_next (hm : b.meter? label = some m) (u : Use) :
    (b.next u).meter? label
      = some (match shown? label u with
        | some t => m.observe t
        | none => m) := by
  cases u with
  | register other =>
    cases hr : b.register other with
    | error e =>
      rw [next, hr]
      exact hm
    | ok b' =>
      obtain ⟨hnone, hb'⟩ := register_eq_ok hr
      -- The label of the meter is taken, so it was another one that was registered.
      have hne : label ≠ other := by
        rintro rfl
        rw [hm] at hnone
        cases hnone
      rw [next, hr]
      exact (hb' label).trans ((if_neg hne).trans hm)
  | observe other t =>
    rw [next, meter?_observe, shown?]
    by_cases h : other = label
    · rw [if_pos h.symm, if_pos h, h, hm]
      rfl
    · rw [if_neg (Ne.symm h), if_neg h, hm]

/-- A label that is registered is there from then on, and no other one comes to be. -/
theorem mem_keys_next (b : Board) (u : Use) (label : String) :
    label ∈ (b.next u).meters.keys ↔ label ∈ b.meters.keys ∨ u = .register label := by
  rw [mem_keys, mem_keys]
  cases u with
  | register other =>
    cases hm : b.meter? other with
    | none =>
      have hregister := register_of_none hm
      rw [next, hregister, (register_eq_ok hregister).2]
      by_cases hother : label = other
      · simp [hother]
      · simp [hother, Ne.symm hother]
    | some m =>
      rw [next, register_of_some hm]
      refine ⟨.inl, ?_⟩
      rintro (h | h)
      · exact h
      · cases h
        exact ⟨m, hm⟩
  | observe other t =>
    rw [next, meter?_observe]
    by_cases hother : label = other
    · rw [if_pos hother, hother]
      cases b.meter? other <;> simp
    · simp [hother]

/-! ## One use after the other -/

/-- The board after uses, one after the other. -/
def after (b : Board) (run : List Use) : Board := run.foldl next b

/-- The totals that a run shows to the meter under a label. -/
def shown (label : String) (run : List Use) : List Totals := run.filterMap (shown? label)

/-- A meter has been shown what was meant for its label. -/
theorem meter?_after (hm : b.meter? label = some m) (run : List Use) :
    (b.after run).meter? label = some ((shown label run).foldl Meter.observe m) := by
  induction run generalizing b m with
  | nil => exact hm
  | cons u run ih =>
    have hnext := meter?_next hm u
    show ((b.next u).after run).meter? label = _
    rw [ih hnext, shown, shown, List.filterMap_cons]
    cases shown? label u <;> rfl

/-- The labels of a board are those that were registered at some time. -/
theorem mem_keys_after (b : Board) (uses : List Use) (label : String) :
    label ∈ (b.after uses).meters.keys ↔ label ∈ b.meters.keys ∨ .register label ∈ uses := by
  induction uses generalizing b with
  | nil => simp [after]
  | cons u uses ih =>
    show label ∈ ((b.next u).after uses).meters.keys ↔ _
    rw [ih, mem_keys_next, List.mem_cons, or_assoc, eq_comm (a := u)]

end AgentPulse.Board
