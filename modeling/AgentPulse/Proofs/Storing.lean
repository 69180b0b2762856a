import AgentPulse.Proofs.Bus.Archive

/-!
# An archive on its own

Beats may be stored in an archive under any keys, whatever agents they are of. Each key has a shelf
of its own, on which the beats stand in the order of storing; a beat that is too many pushes the
oldest one off. Main statement: `observers_agree`. A step changes one shelf (`history_append`) and
leaves no shelf empty or too long (`IsFilled.append`), so a run leaves on each shelf the end of what
was stored there (`history_storeAll`).
-/

namespace AgentPulse.Archive

/-! ## One beat -/

section

variable {α : Type}

/-- Give up items from the front as long as there are more than `n`. -/
def trim (n : Nat) : List α → List α
  | [] => []
  | x :: rest => if n < (x :: rest).length then trim n rest else x :: rest

theorem trim_eq_lastOf (n : Nat) (l : List α) : trim n l = lastOf n l := by
  induction l with
  | nil => exact (lastOf_of_length_le (Nat.zero_le n)).symm
  | cons x rest ih =>
    rw [trim]
    split
    next hlong =>
      have hmore : (x :: rest).length - n = rest.length - n + 1 := by
        rw [List.length_cons] at hlong ⊢
        omega
      rw [ih, lastOf, lastOf, hmore, List.drop_succ_cons]
    next hshort => rw [lastOf_of_length_le (Nat.not_lt.mp hshort)]

/-- One item more than there may be pushes the first one off. -/
theorem lastOf_concat {n : Nat} {l : List α} (h : l.length ≤ n) (hn : 0 < n) (x : α) :
    lastOf n (l ++ [x]) = (if l.length = n then l.tail else l) ++ [x] := by
  split
  next hfull =>
    obtain ⟨y, rest, rfl⟩ := List.exists_cons_of_length_pos (hfull ▸ hn)
    rw [List.length_cons] at hfull
    rw [lastOf, List.length_append, List.length_cons, List.length_singleton, hfull,
      Nat.add_sub_cancel_left]
    rfl
  next hroom =>
    refine lastOf_of_length_le ?_
    rw [List.length_append, List.length_singleton]
    exact Nat.lt_of_le_of_ne h hroom

end

variable {a : Archive}

/-- A shelf that is there takes the beat at its end and gives up what is too old; else a shelf is
made for the beat. -/
theorem find?_append (a : Archive) (key other : String) (beat : Beat) :
    (a.append key beat).shelves.find? other
      = if other = key then
          some (match a.shelves.find? key with
            | some shelf => trim a.capacity (shelf ++ [beat])
            | none => [beat])
        else a.shelves.find? other := by
  rw [append, Dict.find?_insert, history]
  cases a.shelves.find? key with
  | some shelf => simp only [trim_eq_lastOf, Option.getD_some]
  | none =>
    have hsingle : lastOf a.capacity [beat] = [beat] := lastOf_of_length_le a.capacity_pos
    simp only [Option.getD_none, List.nil_append, hsingle]

theorem history_append (a : Archive) (key other : String) (beat : Beat) :
    (a.append key beat).history other
      = if other = key then lastOf a.capacity (a.history key ++ [beat]) else a.history other := by
  rw [history, append, Dict.find?_insert]
  split <;> rfl

theorem isFilled_ofCapacity (n : Nat) : (ofCapacity n).IsFilled := fun _ _ h => nomatch h

/-- No shelf becomes empty or too long. -/
theorem IsFilled.append (h : a.IsFilled) (key : String) (beat : Beat) :
    (a.append key beat).IsFilled := by
  intro other shelf hshelf
  rw [Archive.append, Dict.find?_insert] at hshelf
  split at hshelf
  next =>
    cases hshelf
    rw [Ne, lastOf_eq_nil_iff a.capacity_pos, length_lastOf]
    exact ⟨List.concat_ne_nil _ _, Nat.min_le_left ..⟩
  next => exact h other shelf hshelf

/-! ## Beats one after the other -/

/-- An archive after beats were stored, each under some key. -/
def storeAll (a : Archive) (stored : List (String × Beat)) : Archive :=
  stored.foldl (fun a e => a.append e.1 e.2) a

/-- The beats that were stored under a key. -/
def beatsUnder (key : String) (stored : List (String × Beat)) : List Beat :=
  (stored.filter fun e => e.1 = key).map (·.2)

theorem capacity_storeAll (a : Archive) (stored : List (String × Beat)) :
    (a.storeAll stored).capacity = a.capacity := by
  induction stored generalizing a with
  | nil => rfl
  | cons e stored ih => exact ih (a.append e.1 e.2)

theorem IsFilled.storeAll (h : a.IsFilled) (stored : List (String × Beat)) :
    (a.storeAll stored).IsFilled := by
  induction stored generalizing a with
  | nil => exact h
  | cons e stored ih => exact ih (h.append e.1 e.2)

/-- On each shelf there is the end of what was stored there. -/
theorem history_storeAll (h : a.IsFilled) (key : String) (stored : List (String × Beat)) :
    (a.storeAll stored).history key
      = lastOf a.capacity (a.history key ++ beatsUnder key stored) := by
  induction stored generalizing a with
  | nil =>
    rw [beatsUnder, List.filter_nil, List.map_nil, List.append_nil]
    exact (lastOf_of_length_le (h.sizeOf_le key)).symm
  | cons e stored ih =>
    show ((a.append e.1 e.2).storeAll stored).history key = _
    rw [ih (h.append e.1 e.2), history_append, beatsUnder, beatsUnder, List.filter_cons]
    by_cases hkey : key = e.1
    · -- The beat is one more of this key; what it pushes off is not among the last ones.
      rw [if_pos hkey, if_pos (decide_eq_true hkey.symm), List.map_cons, hkey]
      show lastOf a.capacity (lastOf a.capacity _ ++ _) = _
      rw [lastOf_lastOf_append, List.append_assoc, List.singleton_append]
    · rw [if_neg hkey, if_neg fun e => hkey (of_decide_eq_true e).symm]
      rfl

/-- Two archives that hold the same under a key, for all that can be asked about it. -/
structure SameUnder (key : String) (a a' : Archive) : Prop where
  history : a'.history key = a.history key
  recent : ∀ count, a'.recent key count = a.recent key count
  latest? : a'.latest? key = a.latest? key
  sizeOf : a'.sizeOf key = a.sizeOf key
  listed : key ∈ a'.keys ↔ key ∈ a.keys

theorem IsFilled.sameUnder {a' : Archive} (h : a.IsFilled) (h' : a'.IsFilled) {key : String}
    (hsame : a'.history key = a.history key) : SameUnder key a a' where
  history := hsame
  recent count := by rw [Archive.recent, Archive.recent, hsame]
  latest? := by rw [Archive.latest?, Archive.latest?, hsame]
  sizeOf := by rw [Archive.sizeOf, Archive.sizeOf, hsame]
  listed := by rw [h'.mem_keys_iff, h.mem_keys_iff, hsame]

/-- An archive of any capacity, of which zero acts as one, after any beats were stored under any
keys. On each shelf there is the end of what was stored there, in as far as the capacity goes.

One more beat is seen under its own key only: a shelf that is there takes it at its end and a shelf
is made for it otherwise, there is one beat more until the capacity is reached, and the oldest one
goes exactly if there were so many already. All that can be asked about an archive agrees. -/
theorem observers_agree (n : Nat) (stored : List (String × Beat)) :
    let a := (ofCapacity n).storeAll stored
    (a.capacity = max n 1 ∧
      ∀ key, a.history key = lastOf (max n 1) (beatsUnder key stored)) ∧
    (∀ key beat,
      (∀ other, other ≠ key → SameUnder other a (a.append key beat)) ∧
      (a.append key beat).shelves.find? key
        = some (match a.shelves.find? key with
          | some shelf => trim (max n 1) (shelf ++ [beat])
          | none => [beat]) ∧
      (a.append key beat).sizeOf key = min (a.sizeOf key + 1) (max n 1) ∧
      (a.append key beat).history key
        = (if a.sizeOf key = max n 1 then (a.history key).tail else a.history key) ++ [beat]) ∧
    (∀ key count, a.recent key count <:+ a.history key ∧
      (a.recent key count).length = min count (a.sizeOf key)) ∧
    (∀ key, a.latest? key = (a.history key).getLast? ∧ a.sizeOf key = (a.history key).length ∧
      a.sizeOf key ≤ max n 1) ∧
    (a.keys.Pairwise (· < ·) ∧ ∀ key, key ∈ a.keys ↔ 0 < a.sizeOf key) ∧
    a.keyCount = a.keys.length ∧ a.total = (a.keys.map a.sizeOf).sum := by
  intro a
  have hfilled : a.IsFilled := (isFilled_ofCapacity n).storeAll stored
  have hcapacity : a.capacity = max n 1 := capacity_storeAll (ofCapacity n) stored
  have hsize : ∀ key, a.sizeOf key ≤ max n 1 := fun key => hcapacity ▸ hfilled.sizeOf_le key
  refine ⟨⟨hcapacity, fun key => history_storeAll (isFilled_ofCapacity n) key stored⟩,
    fun key beat => ⟨fun other hother => ?_, ?_, ?_, ?_⟩, fun key count => ⟨?_, ?_⟩,
    fun key => ⟨rfl, rfl, hsize key⟩, ⟨hfilled.keys_ascending, fun key => ?_⟩,
    hfilled.keyCount_eq, hfilled.total_eq⟩
  · refine hfilled.sameUnder (hfilled.append key beat) ?_
    rw [history_append, if_neg hother]
  · rw [find?_append, if_pos rfl, hcapacity]
  · rw [Archive.sizeOf, history_append, if_pos rfl, length_lastOf, hcapacity, Nat.min_comm,
      List.length_append, List.length_singleton]
    rfl
  · rw [history_append, if_pos rfl, hcapacity]
    exact lastOf_concat (hsize key) (Nat.le_max_right ..) beat
  · exact List.drop_suffix ..
  · exact length_lastOf ..
  · rw [hfilled.mem_keys_iff, Archive.sizeOf, List.length_pos_iff]

/-- An archive without capacity in which an agent's beats stand under other keys. -/
theorem observers_agree_zero_capacity :
    let idle : Beat := { agent := "a", status := "idle" }
    let waiting : Beat := { agent := "a", status := "waiting" }
    let a := (ofCapacity 0).storeAll [("x", idle), ("", idle), ("x", waiting)]
    "" ≠ "x" ∧ SameUnder "" a (a.append "x" idle) ∧ (a.append "x" idle).history "x" = [idle] ∧
    a.history "x" = [waiting] ∧ a.history "a" = [] ∧ a.keys = ["", "x"] ∧ a.keyCount = 2 ∧
    a.total = 2 := by
  intro idle waiting a
  obtain ⟨⟨-, hhistory⟩, happend, -, -, -, hcount, htotal⟩ :=
    observers_agree 0 [("x", idle), ("", idle), ("x", waiting)]
  obtain ⟨hother, -, -, hpushed⟩ := happend "x" idle
  have hkeys : a.keys = ["", "x"] := by decide +kernel
  have hx : a.history "x" = [waiting] := hhistory "x"
  have hempty : a.history "" = [idle] := hhistory ""
  have hsize : a.sizeOf "x" = max 0 1 := congrArg List.length hx
  refine ⟨by decide, hother "" (by decide), ?_, hx, hhistory "a", hkeys, ?_, ?_⟩
  · rw [hpushed, if_pos hsize, hx]
    rfl
  · rw [hcount, hkeys]
    rfl
  · rw [htotal, hkeys, List.map_cons, List.map_cons, hsize, sizeOf, hempty]
    rfl

end AgentPulse.Archive
