import AgentPulse.Proofs.Dict
import AgentPulse.Proofs.Json.Tree

/-!
# Compact text read back

Reading the node of a value gives the value back, with the members of every object in order
(`read_toNode`). So the compact text of a value whose numbers are integers of 64 bits and which is
not nested too deep is parsed as the value with its members in order (`parse_compact`), which is the
value itself if its members are in order already (`canonical_of_orderly`). Whoever only passes over
the node finds nothing wrong with it (`isFormed_toNode`, `Node.skip_of_isFormed`).
-/

namespace AgentPulse.Json

/-! ## Members in another order -/

variable {members others : List (String × Json)}

theorem isWholeMembers_perm (h : members.Perm others) :
    IsWholeMembers members ↔ IsWholeMembers others := by
  induction h with
  | nil => rfl
  | cons _ _ ih => exact and_congr_right fun _ => ih
  | swap _ _ _ => exact and_left_comm
  | trans _ _ ih₁ ih₂ => exact ih₁.trans ih₂

theorem orderlyMembers_perm (h : members.Perm others) :
    OrderlyMembers members ↔ OrderlyMembers others := by
  induction h with
  | nil => rfl
  | cons _ _ ih => exact and_congr_right fun _ => ih
  | swap _ _ _ => exact and_left_comm
  | trans _ _ ih₁ ih₂ => exact ih₁.trans ih₂

theorem depthMembers_perm (h : members.Perm others) :
    depthMembers members = depthMembers others := by
  induction h with
  | nil => rfl
  | cons m _ ih => exact congrArg (max (depth m.2)) ih
  | swap _ _ _ => exact Nat.max_left_comm _ _ _
  | trans _ _ ih₁ ih₂ => exact ih₁.trans ih₂

/-! ## Members in order -/

mutual
/-- The value with the members of every object in order; under a repeated name the last one
stays. -/
def canonical : Json → Json
  | .array items => .array (canonicalItems items)
  | .object members => .object (Dict.ofList (canonicalMembers members)).entries
  | j => j
  termination_by structural j => j

/-- `canonical` of each of some values. -/
def canonicalItems : List Json → List Json
  | [] => []
  | j :: rest => canonical j :: canonicalItems rest
  termination_by structural items => items

/-- `canonical` of the value of each of some members. -/
def canonicalMembers : List (String × Json) → List (String × Json)
  | [] => []
  | (name, j) :: rest => (name, canonical j) :: canonicalMembers rest
  termination_by structural members => members
end

mutual
theorem canonical_of_orderly (j : Json) (h : Orderly j) : canonical j = j := by
  match j with
  | .null | .boolean _ | .number _ | .text _ => rfl
  | .array items => rw [canonical, canonicalItems_of_orderly items h]
  | .object members =>
    rw [canonical, canonicalMembers_of_orderly members h.2]
    exact congrArg (fun d => Json.object d.entries) (Dict.ofList_entries ⟨members, h.1⟩)
  termination_by structural j

theorem canonicalItems_of_orderly (items : List Json) (h : OrderlyItems items) :
    canonicalItems items = items := by
  match items with
  | [] => rfl
  | j :: rest =>
    rw [canonicalItems, canonical_of_orderly j h.1, canonicalItems_of_orderly rest h.2]
  termination_by structural items

theorem canonicalMembers_of_orderly (members : List (String × Json)) (h : OrderlyMembers members) :
    canonicalMembers members = members := by
  match members with
  | [] => rfl
  | (name, j) :: rest =>
    rw [canonicalMembers, canonical_of_orderly j h.1, canonicalMembers_of_orderly rest h.2]
  termination_by structural members
end

/-- In order already, the values of members stay as they are in any order of the members. -/
theorem canonicalMembers_of_perm (h : members.Perm others) (hothers : OrderlyMembers others) :
    canonicalMembers members = members :=
  canonicalMembers_of_orderly members ((orderlyMembers_perm h).mpr hothers)

/-! ## Nodes read -/

theorem readName_units (name : String) : Node.readName (.text (units name)) = .ok name :=
  readText_units name

mutual
/-- The node of a value is read as the value with its members in order. -/
theorem read_toNode (j : Json) (hj : j.IsWhole) (levels : Nat) (hdepth : j.depth ≤ levels) :
    (toNode j).read levels = .ok (canonical j) := by
  match j with
  | .null => rfl
  | .boolean b => rfl
  | .number (.integer n) =>
    have hread : Node.readNumber (numeral n) = .ok (.integer n) := by
      rw [Node.readNumber, number?_numeral hj]
    show (Node.readNumber (numeral n)).map Json.number = _
    rw [hread]
    rfl
  | .number (.double d) => exact hj.elim
  | .text s =>
    show (readText (units s)).map Json.text = _
    rw [readText_units]
    rfl
  | .array items =>
    cases levels with
    | zero => exact absurd hdepth (Nat.not_succ_le_zero _)
    | succ levels =>
      have hitems := readItems_toNodes items hj levels (Nat.le_of_succ_le_succ hdepth)
      show (Node.readItems levels (toNodes items) none).map Json.array = _
      rw [hitems]
      rfl
  | .object members =>
    cases levels with
    | zero => exact absurd hdepth (Nat.not_succ_le_zero _)
    | succ levels =>
      have hmembers := readMembers_toMemberNodes members hj levels
        (Nat.le_of_succ_le_succ hdepth) Dict.empty
      show (Node.readMembers levels (toMemberNodes members) none Dict.empty).map
        (fun d => Json.object d.entries) = _
      rw [hmembers]
      rfl
  termination_by structural j

theorem readItems_toNodes (items : List Json) (hitems : IsWholeItems items) (levels : Nat)
    (hdepth : depthItems items ≤ levels) :
    Node.readItems levels (toNodes items) none = .ok (canonicalItems items) := by
  match items with
  | [] => rfl
  | j :: rest =>
    obtain ⟨hhead, htail⟩ := Nat.max_le.mp hdepth
    rw [toNodes, Node.readItems, read_toNode j hitems.1 levels hhead]
    show (Node.readItems levels (toNodes rest) none).map (canonical j :: ·) = _
    rw [readItems_toNodes rest hitems.2 levels htail]
    rfl
  termination_by structural items

theorem readMembers_toMemberNodes (members : List (String × Json))
    (hmembers : IsWholeMembers members) (levels : Nat) (hdepth : depthMembers members ≤ levels)
    (d : Dict Json) :
    Node.readMembers levels (toMemberNodes members) none d
      = .ok (d.insertAll (canonicalMembers members)) := by
  match members with
  | [] => rfl
  | (name, j) :: rest =>
    obtain ⟨hhead, htail⟩ := Nat.max_le.mp hdepth
    rw [toMemberNodes, Node.readMembers, readName_units, read_toNode j hmembers.1 levels hhead]
    exact readMembers_toMemberNodes rest hmembers.2 levels htail _
  termination_by structural members
end

/-! ## Well-formed values -/

namespace Node

mutual
/-- No part of the value is missing or malformed. -/
def IsFormed : Node → Prop
  | .array items ending => IsFormedItems items ∧ ending = none
  | .object members ending => IsFormedMembers members ∧ ending = none
  | .broken _ => False
  | _ => True
  termination_by structural n => n

/-- `IsFormed` for each of some values. -/
def IsFormedItems : List Node → Prop
  | [] => True
  | n :: rest => IsFormed n ∧ IsFormedItems rest
  termination_by structural items => items

/-- Names in quotes, and `IsFormed` for the value of each. -/
def IsFormedMembers : List (Node × Node) → Prop
  | [] => True
  | (name, n) :: rest => (∃ units, name = .text units) ∧ IsFormed n ∧ IsFormedMembers rest
  termination_by structural members => members
end

mutual
/-- Whoever passes over a well-formed value finds nothing wrong with it. -/
theorem skip_of_isFormed (n : Node) (h : n.IsFormed) : n.skip = .ok () := by
  cases n with
  | array items ending =>
    obtain ⟨hitems, rfl⟩ := h
    exact skipItems_of_isFormed items hitems
  | object members ending =>
    obtain ⟨hmembers, rfl⟩ := h
    exact skipMembers_of_isFormed members hmembers
  | broken b => exact h.elim
  | null | boolean | number | text => rfl
  termination_by structural n

theorem skipItems_of_isFormed (items : List Node) (h : IsFormedItems items) :
    skipItems items none = .ok () := by
  cases items with
  | nil => rfl
  | cons n rest =>
    rw [skipItems, skip_of_isFormed n h.1]
    exact skipItems_of_isFormed rest h.2
  termination_by structural items

theorem skipMembers_of_isFormed (members : List (Node × Node)) (h : IsFormedMembers members) :
    skipMembers members none = .ok () := by
  cases members with
  | nil => rfl
  | cons m rest =>
    obtain ⟨name, n⟩ := m
    obtain ⟨⟨units, rfl⟩, hn, hrest⟩ := h
    rw [skipMembers, skip_of_isFormed n hn]
    exact skipMembers_of_isFormed rest hrest
  termination_by structural members
end

end Node

mutual
/-- What is written is well formed. -/
theorem isFormed_toNode (j : Json) : (toNode j).IsFormed := by
  match j with
  | .null | .boolean _ | .number _ | .text _ => trivial
  | .array items => exact ⟨isFormedItems_toNodes items, rfl⟩
  | .object members => exact ⟨isFormedMembers_toMemberNodes members, rfl⟩
  termination_by structural j

theorem isFormedItems_toNodes (items : List Json) : Node.IsFormedItems (toNodes items) := by
  match items with
  | [] => trivial
  | j :: rest => exact ⟨isFormed_toNode j, isFormedItems_toNodes rest⟩
  termination_by structural items

theorem isFormedMembers_toMemberNodes (members : List (String × Json)) :
    Node.IsFormedMembers (toMemberNodes members) := by
  match members with
  | [] => trivial
  | (name, j) :: rest =>
    exact ⟨⟨_, rfl⟩, isFormed_toNode j, isFormedMembers_toMemberNodes rest⟩
  termination_by structural members
end

/-! ## Texts parsed -/

/-- A compact text is parsed as its value, with the members of every object in order. -/
theorem parse_compact {j : Json} (hj : j.IsWhole) {levels : Nat} (hdepth : j.depth ≤ levels) :
    parse levels (compact j) = .ok (canonical j) := by
  rw [parse, Document.ofText_compact hj]
  show ((toNode j).read levels >>= fun j => if false = true then _ else .ok j) = _
  rw [read_toNode j hj levels hdepth]
  rfl

end AgentPulse.Json
