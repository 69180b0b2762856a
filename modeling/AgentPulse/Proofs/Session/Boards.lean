import AgentPulse.Proofs.Session.Run

/-!
# The boards of a session

A step of a session uses a board for one thing or for nothing (`uses`), also the step in which a
reader waits while another step is taken, and a use is of one of the two boards. Each board is what
its own uses make of it (`board_step`), so along all steps neither is touched by what is done with
the other (`board_after`).
-/

namespace AgentPulse.Session

variable {s : Session}

/-- What a step uses a board for. -/
def uses (scope : Scope) (s : Session) : Step → List Board.Use
  | .registerMeter _ label target => if target = scope then [.register label] else []
  | .observe name source =>
    match s.meters.find? name with
    | some (target, label) =>
      if target = scope then
        (told (target, label) s (.observe name source)).toList.map (.observe label)
      else []
    | none => []
  | .waitDuring reader other =>
    match s.hub.lend reader with
    | .ok (lent, hub) => uses scope { s with hub := (hub.takeFor lent).2 } other
    | .error _ => []
  | _ => []

/-- No step uses both boards. -/
theorem uses_one (s : Session) (x : Step) : uses .shared s x = [] ∨ uses .own s x = [] := by
  induction x generalizing s with
  | registerMeter name label target => cases target <;> simp [uses]
  | observe name source =>
    rw [uses, uses]
    cases s.meters.find? name with
    | none => exact .inl rfl
    | some place =>
      obtain ⟨target, label⟩ := place
      cases target <;> simp
  | waitDuring reader other ih =>
    rw [uses, uses]
    cases s.hub.lend reader with
    | error e => exact .inl rfl
    | ok lent => exact ih _
  | _ => exact .inl rfl

/-- What steps use a board for, one after the other. -/
def usesAlong (scope : Scope) (s : Session) : List Step → List Board.Use
  | [] => []
  | x :: rest => uses scope s x ++ usesAlong scope (s.step x).session rest

theorem board_registerMeter (name label : String) (target scope : Scope) :
    (s.step (.registerMeter name label target)).session.board scope
      = (s.board scope).after (uses scope s (.registerMeter name label target)) := by
  rw [uses]
  cases hr : (s.board target).register label with
  | error e =>
    rw [step_registerMeter_of_error hr]
    split
    next htarget =>
      rw [← htarget]
      show _ = (s.board target).next (.register label)
      rw [Board.next, hr]
    next => rfl
  | ok b =>
    rw [step_registerMeter_of_ok hr]
    show (s.setBoard b target).board scope = _
    rw [board_setBoard]
    by_cases htarget : target = scope
    · rw [if_pos htarget.symm, if_pos htarget, ← htarget]
      show b = (s.board target).next (.register label)
      rw [Board.next, hr]
    · rw [if_neg (Ne.symm htarget), if_neg htarget]
      rfl

theorem board_observe (name : String) (source : Totals ⊕ String) (scope : Scope) :
    (s.step (.observe name source)).session.board scope
      = (s.board scope).after (uses scope s (.observe name source)) := by
  rw [uses]
  rcases observe_cases (s := s) name source with ⟨place, t, hplace, htold, hstep⟩ | ⟨htold, hstep⟩
  · rw [hstep, session_meterObserve t hplace, hplace, board_setBoard]
    dsimp only
    rw [htold]
    by_cases htarget : place.1 = scope
    · rw [if_pos htarget.symm, if_pos htarget, ← htarget]
      rfl
    · rw [if_neg (Ne.symm htarget), if_neg htarget]
      rfl
  · rw [hstep]
    cases s.meters.find? name with
    | none => rfl
    | some place =>
      dsimp only
      rw [htold]
      split <;> rfl

/-- A step leaves a board as its uses of this board leave it. -/
theorem board_step (s : Session) (x : Step) (scope : Scope) :
    (s.step x).session.board scope = (s.board scope).after (uses scope s x) := by
  induction x generalizing s with
  | registerMeter name label target => exact board_registerMeter name label target scope
  | observe name source => exact board_observe name source scope
  | waitDuring reader other ih =>
    rw [step, uses]
    cases s.hub.lend reader with
    | error e => rfl
    | ok lent =>
      have hother := ih { s with hub := (lent.2.takeFor lent.1).2 }
      -- What the reader gets in the end does not matter to the boards.
      dsimp only
      split <;> exact hother
  | onHub a =>
    rw [step, onHub]
    cases s.hub.step a <;> rfl
  | publishMany handle beat count | report handle beat | produce handle producers count agents =>
    rw [step]
    cases s.bus handle <;> rfl
  | _ => exact congrFun (sameBooks_step rfl).board scope

/-- Steps leave each of the boards as their uses of this board leave it. -/
theorem board_after (s : Session) (steps : List Step) (scope : Scope) :
    (s.after steps).board scope = (s.board scope).after (usesAlong scope s steps) := by
  induction steps generalizing s with
  | nil => rfl
  | cons x steps ih =>
    rw [after_cons, ih, usesAlong, board_step, Board.after, Board.after, Board.after,
      List.foldl_append]

/-- At the start of a session its boards are empty. -/
theorem board_after_start (steps : List Step) (scope : Scope) :
    (start.after steps).board scope = Board.empty.after (usesAlong scope start steps) := by
  have hstart : start.board scope = Board.empty := by cases scope <;> rfl
  rw [board_after, hstart]

end AgentPulse.Session
