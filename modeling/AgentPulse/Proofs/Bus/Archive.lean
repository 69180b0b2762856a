import AgentPulse.Bus.Archive
import Mathlib.Algebra.BigOperators.Group.Finset.Basic
import Mathlib.Algebra.GroupWithZero.Nat

/-!
# What an archive holds

An archive forgets, but only what is old: under every key it holds the end of all that was ever
stored there. `Archive.Keeps` says this of a whole log of beats, each stored under its agent's key,
and everything that can be read off an archive follows from it (`history_eq`, `mem_keys_iff`,
`keyCount_eq`, `total_eq`). Two archives of one capacity that keep the same log are the same
(`Keeps.unique`). What the keys, their number and the number of all beats have to do with each other
needs no log, only that no shelf is empty (`Archive.IsFilled`).
-/

namespace AgentPulse

/-- The beats of one agent in a log. -/
def beatsOf (agent : String) (log : List Beat) : List Beat :=
  log.filter fun beat => beat.agent = agent

/-- The agents that have a beat in a log. -/
def agentsOf (log : List Beat) : Finset String := (log.map (·.agent)).toFinset

section

variable (agent : String) (log : List Beat) (beat : Beat)

theorem beatsOf_append :
    beatsOf agent (log ++ [beat])
      = if agent = beat.agent then beatsOf agent log ++ [beat] else beatsOf agent log := by
  rw [beatsOf, List.filter_append]
  split
  next h => simp [beatsOf, h]
  next h => simp [beatsOf, Ne.symm h]

theorem mem_agentsOf : agent ∈ agentsOf log ↔ beatsOf agent log ≠ [] := by
  simp [agentsOf, beatsOf]

end

namespace Archive

/-! ## The end of a list -/

variable {α : Type}

@[simp] theorem length_lastOf (n : Nat) (l : List α) : (lastOf n l).length = min n l.length := by
  rw [lastOf, List.length_drop]
  omega

theorem lastOf_of_length_le {n : Nat} {l : List α} (h : l.length ≤ n) : lastOf n l = l := by
  rw [lastOf, Nat.sub_eq_zero_of_le h, List.drop_zero]

/-- The end of a list and what is added to it have the same end as the whole. -/
theorem lastOf_lastOf_append (n : Nat) (l more : List α) :
    lastOf n (lastOf n l ++ more) = lastOf n (l ++ more) := by
  simp only [lastOf, List.drop_append, List.drop_drop, List.length_append, List.length_drop]
  congr 2 <;> omega

theorem lastOf_lastOf (m n : Nat) (l : List α) : lastOf m (lastOf n l) = lastOf (min m n) l := by
  simp only [lastOf, List.drop_drop, List.length_drop]
  congr 1
  omega

theorem lastOf_min_length (n : Nat) (l : List α) : lastOf (min n l.length) l = lastOf n l := by
  unfold lastOf
  congr 1
  omega

theorem lastOf_eq_nil_iff {n : Nat} (hn : 0 < n) {l : List α} : lastOf n l = [] ↔ l = [] := by
  rw [← List.length_eq_zero_iff, length_lastOf, ← List.length_eq_zero_iff]
  omega

theorem getLast?_lastOf {n : Nat} (hn : 0 < n) (l : List α) :
    (lastOf n l).getLast? = l.getLast? := by
  unfold lastOf
  rw [List.getLast?_drop]
  split
  next h =>
    have hl : l = [] := List.length_eq_zero_iff.mp (by omega)
    rw [hl]
    rfl
  next => rfl

/-! ## Archives whose shelves are filled -/

/-- On every shelf there is a beat, and there are no more than the capacity. -/
def IsFilled (a : Archive) : Prop :=
  ∀ key shelf, a.shelves.find? key = some shelf → shelf ≠ [] ∧ shelf.length ≤ a.capacity

section

variable {a : Archive}

theorem history_of_mem_entries {e : String × List Beat} (he : e ∈ a.shelves.entries) :
    a.history e.1 = e.2 := by
  rw [history, Dict.mem_entries.mp he]
  rfl

/-- Every shelf counts, so the keys are listed as they stand. -/
theorem IsFilled.keys_eq (h : a.IsFilled) : a.keys = a.shelves.keys := by
  rw [keys, List.filter_eq_self.mpr, Dict.keys]
  rintro ⟨key, shelf⟩ hmem
  simpa using (h key shelf (Dict.mem_entries.mp hmem)).1

theorem IsFilled.keys_ascending (h : a.IsFilled) : a.keys.Pairwise (· < ·) := by
  rw [h.keys_eq]
  exact a.shelves.keys_ascending

theorem IsFilled.mem_keys_iff (h : a.IsFilled) (key : String) :
    key ∈ a.keys ↔ a.history key ≠ [] := by
  rw [h.keys_eq, Dict.mem_keys, history]
  cases hfind : a.shelves.find? key with
  | none => simp
  | some shelf => simpa using (h key shelf hfind).1

theorem IsFilled.keyCount_eq (h : a.IsFilled) : a.keyCount = a.keys.length := by
  have hall : a.keyCount = a.shelves.values.length := by
    refine List.countP_eq_length.mpr fun shelf hshelf => ?_
    obtain ⟨⟨key, _⟩, hmem, rfl⟩ := List.mem_map.mp hshelf
    simpa using (h key _ (Dict.mem_entries.mp hmem)).1
  rw [hall, h.keys_eq, Dict.values, Dict.keys, List.length_map, List.length_map]

theorem IsFilled.total_eq (h : a.IsFilled) : a.total = (a.keys.map a.sizeOf).sum := by
  have hsize : ∀ e ∈ a.shelves.entries, e.2.length = a.sizeOf e.1 := fun e he => by
    rw [sizeOf, history_of_mem_entries he]
  rw [h.keys_eq, total, List.length_flatten, Dict.values, Dict.keys, List.map_map, List.map_map]
  exact congrArg List.sum (List.map_congr_left hsize)

theorem IsFilled.sizeOf_le (h : a.IsFilled) (key : String) : a.sizeOf key ≤ a.capacity := by
  rw [sizeOf, history]
  cases hfind : a.shelves.find? key with
  | none => exact Nat.zero_le _
  | some shelf => exact (h key shelf hfind).2

end

/-! ## Archives that keep a log -/

/-- An archive holds the end of a log under each agent's key, and no key without a beat. -/
def Keeps (a : Archive) (log : List Beat) : Prop :=
  ∀ agent, a.shelves.find? agent
    = if beatsOf agent log = [] then none else some (lastOf a.capacity (beatsOf agent log))

theorem keeps_ofCapacity (n : Nat) : (ofCapacity n).Keeps [] := fun _ => rfl

variable {a a' : Archive} {log : List Beat}

/-- Everything kept under a key is the end of all that was published for it. -/
theorem Keeps.history_eq (h : a.Keeps log) (agent : String) :
    a.history agent = lastOf a.capacity (beatsOf agent log) := by
  rw [history, h agent]
  split
  next hnone => rw [hnone, lastOf_of_length_le (Nat.zero_le _)]; rfl
  next => rfl

/-- One more beat: it enters at the end of its own shelf, and the other shelves stay. -/
theorem Keeps.append (h : a.Keeps log) (beat : Beat) :
    (a.append beat.agent beat).Keeps (log ++ [beat]) := by
  intro agent
  show (a.shelves.insert _ _).find? agent = _
  rw [Dict.find?_insert, beatsOf_append, h.history_eq, lastOf_lastOf_append]
  split
  next e => rw [e, if_neg (by simp)]; rfl
  next => exact h agent

/-- What an archive holds is decided by the log and the capacity. -/
theorem Keeps.unique (h : a.Keeps log) (h' : a'.Keeps log) (hc : a.capacity = a'.capacity) :
    a = a' := by
  have hshelves : a.shelves = a'.shelves := Dict.ext_find? fun agent => by rw [h, h', hc]
  cases a
  cases a'
  cases hc
  cases hshelves
  rfl

/-! ## What is read off an archive -/

theorem Keeps.recent_eq (h : a.Keeps log) (agent : String) (count : Nat) :
    a.recent agent count = lastOf (min count a.capacity) (beatsOf agent log) := by
  rw [recent, h.history_eq, lastOf_lastOf]

theorem Keeps.latest?_eq (h : a.Keeps log) (agent : String) :
    a.latest? agent = (beatsOf agent log).getLast? := by
  rw [latest?, h.history_eq, getLast?_lastOf a.capacity_pos]

theorem Keeps.isFilled (h : a.Keeps log) : a.IsFilled := by
  intro agent shelf hshelf
  rw [h agent] at hshelf
  split at hshelf
  next => cases hshelf
  next hne =>
    cases hshelf
    rw [Ne, lastOf_eq_nil_iff a.capacity_pos, length_lastOf]
    exact ⟨hne, Nat.min_le_left ..⟩

theorem Keeps.mem_keys_iff (h : a.Keeps log) (agent : String) :
    agent ∈ a.keys ↔ beatsOf agent log ≠ [] := by
  rw [h.isFilled.mem_keys_iff, h.history_eq, Ne, lastOf_eq_nil_iff a.capacity_pos]

theorem Keeps.keys_ascending (h : a.Keeps log) : a.keys.Pairwise (· < ·) :=
  h.isFilled.keys_ascending

theorem Keeps.toFinset_keys (h : a.Keeps log) : a.keys.toFinset = agentsOf log := by
  ext agent
  rw [List.mem_toFinset, h.mem_keys_iff, mem_agentsOf]

theorem Keeps.nodup_keys (h : a.Keeps log) : a.keys.Nodup :=
  h.isFilled.keys_eq ▸ a.shelves.keys_nodup

theorem Keeps.keyCount_eq (h : a.Keeps log) : a.keyCount = (agentsOf log).card := by
  rw [h.isFilled.keyCount_eq, ← h.toFinset_keys, List.toFinset_card_of_nodup h.nodup_keys]

theorem Keeps.total_eq (h : a.Keeps log) :
    a.total = ∑ agent ∈ agentsOf log, min a.capacity (beatsOf agent log).length := by
  -- What stands on a shelf is the end of what was published for its agent.
  have hsize : ∀ agent, a.sizeOf agent = min a.capacity (beatsOf agent log).length := by
    intro agent
    rw [sizeOf, h.history_eq, length_lastOf]
  rw [h.isFilled.total_eq, ← h.toFinset_keys, List.sum_toFinset _ h.nodup_keys]
  exact congrArg List.sum (List.map_congr_left fun agent _ => hsize agent)

end Archive

end AgentPulse
