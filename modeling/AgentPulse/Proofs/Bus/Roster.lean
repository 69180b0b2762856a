import AgentPulse.Bus.Roster

/-!
# Laws of the roster

Every change of a roster is seen through `under`: it touches the list of one key and no other
(`under_register`, `under_remove`, `under_keep`). A roster is `Tidy` when no agent goes by the name
`*` in it and no list under an agent's name is empty; keeping a tidy roster's own list changes
nothing at all (`keep_byName_self`), so a round of offers that keeps every follower leaves the
roster as it was.
-/

namespace AgentPulse

theorem isEveryAgent_iff {key : String} : isEveryAgent key = true ↔ key = everyAgent := by
  simp [isEveryAgent]

theorem follows_iff {key agent : String} :
    follows key agent = true ↔ key = everyAgent ∨ key = agent := by
  simp [follows, isEveryAgent_iff]

namespace Roster

variable (r : Roster) (key other agent : String) (id : SubscriptionId) (ids : List SubscriptionId)

/-! ## The lists of a roster -/

theorem under_everyAgent : r.under everyAgent = r.everyone := by simp [under, isEveryAgent]

@[simp] theorem under_empty : empty.under key = [] := by
  unfold under
  split <;> rfl

variable {key} in
theorem under_eq_byName (h : key ≠ everyAgent) : r.under key = r.byName key := by
  have hkey : ¬ isEveryAgent key = true := fun e => h (isEveryAgent_iff.mp e)
  rw [under, byName, if_neg hkey, if_neg hkey]

@[simp] theorem byName_everyAgent : r.byName everyAgent = [] := by simp [byName, isEveryAgent]

/-- Whoever follows an agent by name or follows everyone was entered under that key. -/
theorem mem_followers :
    id ∈ r.followers agent ↔ ∃ k, follows k agent = true ∧ id ∈ r.under k := by
  rw [followers, List.mem_append]
  constructor
  · rintro (h | h)
    · by_cases e : agent = everyAgent
      · subst e
        rw [byName_everyAgent] at h
        exact absurd h List.not_mem_nil
      · exact ⟨agent, follows_iff.mpr (Or.inr rfl), by rwa [under_eq_byName r e]⟩
    · exact ⟨everyAgent, follows_iff.mpr (Or.inl rfl), by rwa [under_everyAgent]⟩
  · rintro ⟨k, hk, hid⟩
    by_cases e : k = everyAgent
    · subst e
      exact Or.inr (by rwa [under_everyAgent] at hid)
    · rcases follows_iff.mp hk with hE | hA
      · exact absurd hE e
      · subst hA
        exact Or.inl (by rwa [under_eq_byName r e] at hid)

/-! ## What each change does to the lists -/

theorem under_keep :
    (r.keep agent ids).under other
      = if other = agent ∧ agent ≠ everyAgent then ids else r.under other := by
  unfold keep
  by_cases ha : agent = everyAgent
  · rw [if_pos (isEveryAgent_iff.mpr ha), if_neg (fun h => h.2 ha)]
  · rw [if_neg (fun e => ha (isEveryAgent_iff.mp e))]
    by_cases ho : other = everyAgent
    · -- The list of those who follow everyone is not touched.
      subst ho
      have hother : ¬ (everyAgent = agent ∧ agent ≠ everyAgent) := fun h => ha h.1.symm
      rw [if_neg hother, under_everyAgent, under_everyAgent]
      split <;> rfl
    · have hsame : (other = agent ∧ agent ≠ everyAgent) ↔ other = agent :=
        ⟨fun h => h.1, fun h => ⟨h, ha⟩⟩
      simp only [hsame]
      split
      next hempty =>
        rw [under_eq_byName _ ho, byName, Dict.find?_erase, under_eq_byName r ho, byName]
        have hids : ids = [] := by simpa using hempty
        split
        next e => exact absurd (isEveryAgent_iff.mp e) ho
        next => split <;> simp [hids]
      next =>
        rw [under_eq_byName _ ho, byName, Dict.find?_insert, under_eq_byName r ho, byName]
        split
        next e => exact absurd (isEveryAgent_iff.mp e) ho
        next => split <;> simp

theorem under_register :
    (r.register key id).under other
      = if other = key then r.under other ++ [id] else r.under other := by
  unfold register
  split
  next h =>
    rw [isEveryAgent_iff] at h
    subst h
    by_cases ho : other = everyAgent
    · subst ho
      rw [if_pos rfl, under_everyAgent, under_everyAgent]
    · rw [if_neg ho, under_eq_byName _ ho, under_eq_byName r ho]
      rfl
  next h =>
    have hkey : key ≠ everyAgent := fun e => h (isEveryAgent_iff.mpr e)
    by_cases ho : other = everyAgent
    · subst ho
      rw [if_neg (Ne.symm hkey), under_everyAgent, under_everyAgent]
    · rw [under_eq_byName _ ho, byName, Dict.find?_insert]
      have hother : ¬ isEveryAgent other = true := fun e => ho (isEveryAgent_iff.mp e)
      rw [if_neg hother]
      split
      next e => subst e; rfl
      next => rw [under_eq_byName r ho, byName, if_neg hother]

theorem under_remove :
    (r.remove key id).under other
      = if other = key then (r.under other).erase id else r.under other := by
  unfold remove
  split
  next h =>
    rw [isEveryAgent_iff] at h
    subst h
    by_cases ho : other = everyAgent
    · subst ho
      rw [if_pos rfl, under_everyAgent, under_everyAgent]
    · rw [if_neg ho, under_eq_byName _ ho, under_eq_byName r ho]
      rfl
  next h =>
    have hkey : key ≠ everyAgent := fun e => h (isEveryAgent_iff.mpr e)
    rw [under_keep]
    by_cases ho : other = key
    · subst ho
      rw [if_pos ⟨rfl, hkey⟩, if_pos rfl, under_eq_byName r hkey]
    · rw [if_neg (fun e => ho e.1), if_neg ho]

/-! ## Tidy rosters -/

/-- No agent goes by the name `*`, and whoever is listed is followed. -/
structure Tidy (r : Roster) : Prop where
  everyAgent_absent : r.exact.find? everyAgent = none
  nonempty : ∀ agent, r.exact.find? agent ≠ some []

theorem tidy_empty : empty.Tidy := ⟨rfl, fun _ h => by cases h⟩

variable {r}

theorem Tidy.keep (h : r.Tidy) : (r.keep agent ids).Tidy := by
  unfold Roster.keep
  split
  next => exact h
  next ha =>
    have hne : everyAgent ≠ agent := fun e => ha (isEveryAgent_iff.mpr e.symm)
    split
    next =>
      refine ⟨?_, fun k => ?_⟩
      · rw [Dict.find?_erase, if_neg hne]
        exact h.everyAgent_absent
      · rw [Dict.find?_erase]
        split
        next => simp
        next => exact h.nonempty k
    next hids =>
      refine ⟨?_, fun k => ?_⟩
      · rw [Dict.find?_insert, if_neg hne]
        exact h.everyAgent_absent
      · rw [Dict.find?_insert]
        split
        next => simpa using hids
        next => exact h.nonempty k

theorem Tidy.register (h : r.Tidy) : (r.register key id).Tidy := by
  unfold Roster.register
  split
  next => exact ⟨h.everyAgent_absent, h.nonempty⟩
  next hk =>
    have hne : everyAgent ≠ key := fun e => hk (isEveryAgent_iff.mpr e.symm)
    refine ⟨?_, fun k => ?_⟩
    · rw [Dict.find?_insert, if_neg hne]
      exact h.everyAgent_absent
    · rw [Dict.find?_insert]
      split
      next => simp
      next => exact h.nonempty k

theorem Tidy.remove (h : r.Tidy) : (r.remove key id).Tidy := by
  unfold Roster.remove
  split
  next => exact ⟨h.everyAgent_absent, h.nonempty⟩
  next => exact h.keep key _

/-- Keeping the whole list of an agent changes nothing. -/
theorem keep_byName_self (h : r.Tidy) : r.keep agent (r.byName agent) = r := by
  unfold Roster.keep
  split
  next => rfl
  next ha =>
    have hlist : r.byName agent = (r.exact.find? agent).getD [] := by rw [byName, if_neg ha]
    cases hfind : r.exact.find? agent with
    | none =>
      rw [hlist, hfind]
      have herase : r.exact.erase agent = r.exact := Dict.ext_find? fun k => by
        rw [Dict.find?_erase]
        split
        next e => rw [e, hfind]
        next => rfl
      simp [herase]
    | some l =>
      have hl : l ≠ [] := fun e => h.nonempty agent (e ▸ hfind)
      have hinsert : r.exact.insert agent l = r.exact := Dict.ext_find? fun k => by
        rw [Dict.find?_insert]
        split
        next e => rw [e, hfind]
        next => rfl
      rw [hlist, hfind]
      simp [hl, hinsert]

end Roster

end AgentPulse
