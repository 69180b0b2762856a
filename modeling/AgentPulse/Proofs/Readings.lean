/-!
# Readings that may be refused

A reading is a value or the reason why there is none. Two readings that differ in the reason only
are told apart no more once it is dropped (`Except.toOption`).
-/

namespace AgentPulse

variable {ε α β σ : Type}

theorem bind_eq_ok {r : Except ε α} {f : α → Except ε β} {y : β} :
    r >>= f = .ok y ↔ ∃ x, r = .ok x ∧ f x = .ok y := by
  cases r with
  | ok x => exact ⟨fun h => ⟨x, rfl, h⟩, fun ⟨_, hx, h⟩ => by cases hx; exact h⟩
  | error e => exact ⟨nofun, fun ⟨_, h, _⟩ => nomatch h⟩

theorem map_eq_ok_iff {r : Except ε α} {f : α → β} {y : β} :
    r.map f = .ok y ↔ ∃ x, r = .ok x ∧ f x = y := by
  cases r with
  | error e => exact ⟨nofun, fun ⟨_, h, _⟩ => nomatch h⟩
  | ok x => exact ⟨fun h => ⟨x, rfl, Except.ok.inj h⟩, by rintro ⟨_, ⟨⟩, rfl⟩; rfl⟩

theorem exists_map_eq_ok_iff {r : Except ε α} {f : α → β} :
    (∃ y, r.map f = .ok y) ↔ ∃ x, r = .ok x := by
  cases r with
  | error e => exact ⟨fun ⟨_, h⟩ => (nomatch h), fun ⟨_, h⟩ => (nomatch h)⟩
  | ok x => exact ⟨fun _ => ⟨x, rfl⟩, fun _ => ⟨f x, rfl⟩⟩

/-! ## Without a reason -/

theorem toOption_eq_some {r : Except ε α} {x : α} : r.toOption = some x ↔ r = .ok x := by
  cases r with
  | ok y => exact ⟨fun h => congrArg Except.ok (Option.some.inj h), fun h => by cases h; rfl⟩
  | error e => exact ⟨nofun, nofun⟩

theorem toOption_eq_none {r : Except ε α} : r.toOption = none ↔ ¬∃ x, r = .ok x := by
  cases r with
  | ok y => exact ⟨nofun, fun h => absurd ⟨y, rfl⟩ h⟩
  | error e => exact ⟨fun _ ⟨_, h⟩ => (nomatch h), fun _ => rfl⟩

theorem toOption_bind (r : Except ε α) (f : α → Except ε β) :
    (r >>= f).toOption = r.toOption.bind fun x => (f x).toOption := by
  cases r <;> rfl

theorem toOption_map (r : Except ε α) (f : α → β) : (r.map f).toOption = r.toOption.map f := by
  cases r <;> rfl

theorem toOption_mapError {ε' : Type} (r : Except ε α) (f : ε → ε') :
    (r.mapError f).toOption = r.toOption := by
  cases r <;> rfl

theorem toOption_foldlM (f : σ → α → Except ε σ) (l : List α) (d : σ) :
    (l.foldlM f d).toOption = l.foldlM (fun d a => (f d a).toOption) d := by
  induction l generalizing d with
  | nil => rfl
  | cons a l ih =>
    rw [List.foldlM_cons, List.foldlM_cons, toOption_bind]
    exact congrArg _ (funext ih)

/-- What is done for members one after the other is the same in any order of the members, if it is
so for each two of them. -/
theorem foldlM_perm {take : σ → α → Option σ} {R : α → α → Prop} (hsymm : ∀ {a b}, R a b → R b a)
    (hcomm : ∀ d a b, R a b → (take d a).bind (take · b) = (take d b).bind (take · a))
    {l l' : List α} (hperm : l.Perm l') (hl : l.Pairwise R) (d : σ) :
    l.foldlM take d = l'.foldlM take d := by
  induction hperm generalizing d with
  | nil => rfl
  | cons a _ ih =>
    rw [List.pairwise_cons] at hl
    rw [List.foldlM_cons, List.foldlM_cons]
    exact congrArg (take d a >>= ·) (funext fun d => ih hl.2 d)
  | swap a b rest =>
    rw [List.pairwise_cons] at hl
    have hswap := congrArg (Option.bind · (rest.foldlM take ·))
      (hcomm d b a (hl.1 a List.mem_cons_self))
    simp only [Option.bind_assoc] at hswap
    exact hswap
  | trans hfirst _ ih₁ ih₂ =>
    exact (ih₁ hl d).trans (ih₂ (hfirst.pairwise hl hsymm) d)

end AgentPulse
