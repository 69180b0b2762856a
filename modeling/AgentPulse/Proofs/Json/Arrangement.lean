import AgentPulse.Proofs.Json.RoundTrip
import AgentPulse.Proofs.Readings

/-!
# One value in several arrangements

A value may be written with the members of its objects in another order. `Arranges j v` says that
`j` is such an arrangement of `v`: no object of `j` names a member twice, and with the members of
every object in order it is `v`. An orderly value is an arrangement of itself (`Arranges.refl`), and
an arrangement is whole and nests exactly as the value does (`Arranges.isWhole`, `Arranges.depth`).
Whatever is read off a document is orderly (`orderly_read`).
-/

namespace AgentPulse.Json

mutual
/-- No object in the value has two members of one name. -/
def IsDistinct : Json → Prop
  | .array items => IsDistinctItems items
  | .object members => (members.map (·.1)).Nodup ∧ IsDistinctMembers members
  | _ => True
  termination_by structural j => j

/-- `IsDistinct` for each of some values. -/
def IsDistinctItems : List Json → Prop
  | [] => True
  | j :: rest => IsDistinct j ∧ IsDistinctItems rest
  termination_by structural items => items

/-- `IsDistinct` for the value of each of some members. -/
def IsDistinctMembers : List (String × Json) → Prop
  | [] => True
  | (_, j) :: rest => IsDistinct j ∧ IsDistinctMembers rest
  termination_by structural members => members
end

mutual
/-- Names that ascend are distinct. -/
theorem isDistinct_of_orderly (j : Json) (h : Orderly j) : IsDistinct j := by
  match j with
  | .null | .boolean _ | .number _ | .text _ => trivial
  | .array items => exact isDistinctItems_of_orderly items h
  | .object members =>
    have hnodup : (members.map (·.1)).Nodup := Dict.keys_nodup ⟨members, h.1⟩
    exact ⟨hnodup, isDistinctMembers_of_orderly members h.2⟩
  termination_by structural j

theorem isDistinctItems_of_orderly (items : List Json) (h : OrderlyItems items) :
    IsDistinctItems items := by
  match items with
  | [] => trivial
  | j :: rest => exact ⟨isDistinct_of_orderly j h.1, isDistinctItems_of_orderly rest h.2⟩
  termination_by structural items

theorem isDistinctMembers_of_orderly (members : List (String × Json)) (h : OrderlyMembers members) :
    IsDistinctMembers members := by
  match members with
  | [] => trivial
  | (_, j) :: rest => exact ⟨isDistinct_of_orderly j h.1, isDistinctMembers_of_orderly rest h.2⟩
  termination_by structural members
end

/-! ## Members put in order -/

theorem map_fst_canonicalMembers (members : List (String × Json)) :
    (canonicalMembers members).map (·.1) = members.map (·.1) := by
  induction members with
  | nil => rfl
  | cons m rest ih => exact congrArg (m.1 :: ·) ih

theorem length_canonicalItems (items : List Json) :
    (canonicalItems items).length = items.length := by
  induction items with
  | nil => rfl
  | cons j rest ih => exact congrArg (· + 1) ih

/-- Distinct members put in order are the same members. -/
theorem entries_canonical_perm {members : List (String × Json)}
    (h : (members.map (·.1)).Nodup) :
    (Dict.ofList (canonicalMembers members)).entries.Perm (canonicalMembers members) :=
  Dict.entries_ofList_perm (map_fst_canonicalMembers members ▸ h)

mutual
theorem isWhole_canonical (j : Json) (h : IsDistinct j) : IsWhole (canonical j) ↔ IsWhole j := by
  match j with
  | .null | .boolean _ | .number _ | .text _ => exact Iff.rfl
  | .array items => exact isWholeItems_canonical items h
  | .object members =>
    have hperm := isWholeMembers_perm (entries_canonical_perm h.1)
    exact hperm.trans (isWholeMembers_canonical members h.2)
  termination_by structural j

theorem isWholeItems_canonical (items : List Json) (h : IsDistinctItems items) :
    IsWholeItems (canonicalItems items) ↔ IsWholeItems items := by
  match items with
  | [] => exact Iff.rfl
  | j :: rest => exact and_congr (isWhole_canonical j h.1) (isWholeItems_canonical rest h.2)
  termination_by structural items

theorem isWholeMembers_canonical (members : List (String × Json)) (h : IsDistinctMembers members) :
    IsWholeMembers (canonicalMembers members) ↔ IsWholeMembers members := by
  match members with
  | [] => exact Iff.rfl
  | (_, j) :: rest => exact and_congr (isWhole_canonical j h.1) (isWholeMembers_canonical rest h.2)
  termination_by structural members
end

mutual
theorem depth_canonical (j : Json) (h : IsDistinct j) : depth (canonical j) = depth j := by
  match j with
  | .null | .boolean _ | .number _ | .text _ => rfl
  | .array items => exact congrArg (· + 1) (depthItems_canonical items h)
  | .object members =>
    have hperm := depthMembers_perm (entries_canonical_perm h.1)
    exact congrArg (· + 1) (hperm.trans (depthMembers_canonical members h.2))
  termination_by structural j

theorem depthItems_canonical (items : List Json) (h : IsDistinctItems items) :
    depthItems (canonicalItems items) = depthItems items := by
  match items with
  | [] => rfl
  | j :: rest =>
    rw [canonicalItems, depthItems, depthItems, depth_canonical j h.1,
      depthItems_canonical rest h.2]
  termination_by structural items

theorem depthMembers_canonical (members : List (String × Json)) (h : IsDistinctMembers members) :
    depthMembers (canonicalMembers members) = depthMembers members := by
  match members with
  | [] => rfl
  | (_, j) :: rest =>
    rw [canonicalMembers, depthMembers, depthMembers, depth_canonical j h.1,
      depthMembers_canonical rest h.2]
  termination_by structural members
end

/-! ## Arrangements -/

/-- `j` is the value `v` with the members of its objects in some order. -/
structure Arranges (j v : Json) : Prop where
  distinct : IsDistinct j
  canonical_eq : canonical j = v

namespace Arranges

variable {j v : Json}

theorem refl (h : Orderly v) : Arranges v v := ⟨isDistinct_of_orderly v h, canonical_of_orderly v h⟩

theorem isWhole (h : Arranges j v) (hv : IsWhole v) : IsWhole j :=
  (isWhole_canonical j h.distinct).mp (h.canonical_eq ▸ hv)

theorem depth (h : Arranges j v) : j.depth = v.depth :=
  (depth_canonical j h.distinct).symm.trans (congrArg Json.depth h.canonical_eq)

end Arranges

/-! ## Values read -/

theorem orderlyMembers_iff {members : List (String × Json)} :
    OrderlyMembers members ↔ ∀ m ∈ members, Orderly m.2 := by
  induction members with
  | nil => exact ⟨fun _ => nofun, fun _ => trivial⟩
  | cons m rest ih =>
    rw [List.forall_mem_cons, ← ih]
    rfl

theorem orderlyMembers_insert {d : Dict Json} (hd : OrderlyMembers d.entries) {j : Json}
    (hj : Orderly j) (name : String) : OrderlyMembers (d.insert name j).entries := by
  rw [orderlyMembers_iff] at hd ⊢
  rintro ⟨key, v⟩ hm
  rw [Dict.mem_entries, Dict.find?_insert] at hm
  split at hm
  next => exact Option.some.inj hm ▸ hj
  next => exact hd (key, v) (Dict.mem_entries.mpr hm)

mutual
theorem orderly_read (n : Node) {levels : Nat} {j : Json} (h : n.read levels = .ok j) :
    Orderly j := by
  match n, levels with
  | .null, _ | .boolean _, _ =>
    cases h
    trivial
  | .number num, _ =>
    obtain ⟨v, -, rfl⟩ := map_eq_ok_iff.mp h
    trivial
  | .text us, _ =>
    obtain ⟨s, -, rfl⟩ := map_eq_ok_iff.mp h
    trivial
  | .array items ending, 0 => cases h
  | .array items ending, levels + 1 =>
    obtain ⟨js, hitems, rfl⟩ := map_eq_ok_iff.mp h
    exact orderlyItems_readItems items hitems
  | .object members ending, 0 => cases h
  | .object members ending, levels + 1 =>
    obtain ⟨d, hmembers, rfl⟩ := map_eq_ok_iff.mp h
    exact ⟨d.ascending, orderlyMembers_readMembers members hmembers trivial⟩
  | .broken b, _ => cases h
  termination_by structural n

theorem orderlyItems_readItems (items : List Node) {levels : Nat} {ending : Option Break}
    {js : List Json} (h : Node.readItems levels items ending = .ok js) : OrderlyItems js := by
  match items with
  | [] =>
    obtain ⟨_, -, rfl⟩ := map_eq_ok_iff.mp h
    trivial
  | n :: rest =>
    rw [Node.readItems] at h
    cases hn : n.read levels with
    | error e =>
      rw [hn] at h
      cases h
    | ok j =>
      rw [hn] at h
      obtain ⟨js, hrest, rfl⟩ := map_eq_ok_iff.mp h
      exact ⟨orderly_read n hn, orderlyItems_readItems rest hrest⟩
  termination_by structural items

theorem orderlyMembers_readMembers (members : List (Node × Node)) {levels : Nat}
    {ending : Option Break} {d d' : Dict Json}
    (h : Node.readMembers levels members ending d = .ok d') (hd : OrderlyMembers d.entries) :
    OrderlyMembers d'.entries := by
  match members with
  | [] =>
    obtain ⟨_, -, rfl⟩ := map_eq_ok_iff.mp h
    exact hd
  | (name, n) :: rest =>
    rw [Node.readMembers] at h
    cases hname : name.readName with
    | error e =>
      rw [hname] at h
      cases h
    | ok key =>
      rw [hname] at h
      change (n.read levels >>= fun j => Node.readMembers levels rest ending (d.insert key j))
        = .ok d' at h
      cases hn : n.read levels with
      | error e =>
        rw [hn] at h
        cases h
      | ok j =>
        rw [hn] at h
        have hj := orderly_read n hn
        exact orderlyMembers_readMembers rest h (orderlyMembers_insert hd hj key)
  termination_by structural members
end

end AgentPulse.Json
