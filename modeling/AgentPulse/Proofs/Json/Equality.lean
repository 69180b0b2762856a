import AgentPulse.Proofs.Json.RoundTrip

/-!
# Values that count as equal

Two values count as equal if they are the same apart from the signs of zeros. So each value has an
essence, in which every zero is the positive one, and values count as equal exactly if they have one
essence (`same_iff_essence_eq`). That this is an equivalence needs no proof of its own then. A value
whose numbers are integers is its own essence (`essence_of_isWhole`).
-/

namespace AgentPulse

/-! ## Numbers -/

/-- The double with no sign on a zero. -/
def Double.essence (d : Double) : Double := if d.significand = 0 then .zero false else d

theorem Double.same_iff_essence_eq (a b : Double) : a.same b = true ↔ a.essence = b.essence := by
  unfold Double.same Double.essence
  by_cases ha : a.significand = 0 <;> by_cases hb : b.significand = 0
  · simp [ha, hb]
  · -- A zero is no other number, and neither is its essence.
    have hne : a ≠ b := fun e => hb (e ▸ ha)
    have hessence : Double.zero false ≠ b := fun e => hb (e ▸ rfl)
    simp [ha, hb, hne, hessence]
  · have hne : a ≠ b := fun e => ha (e ▸ hb)
    have hessence : a ≠ Double.zero false := fun e => ha (e ▸ rfl)
    simp [ha, hb, hne, hessence]
  · simp [ha, hb]

/-- The number with no sign on a zero. -/
def Number.essence : Number → Number
  | .integer n => .integer n
  | .double d => .double d.essence

theorem Number.same_iff_essence_eq (a b : Number) : a.same b = true ↔ a.essence = b.essence := by
  cases a with
  | integer m =>
    cases b with
    | integer n => simp [Number.same, Number.essence]
    | double e => exact ⟨nofun, nofun⟩
  | double d =>
    cases b with
    | integer n => exact ⟨nofun, nofun⟩
    | double e =>
      rw [Number.essence, Number.essence, Number.double.injEq]
      exact Double.same_iff_essence_eq d e

namespace Json

/-! ## Values -/

mutual
/-- The value with no sign on any zero. -/
def essence : Json → Json
  | .number n => .number n.essence
  | .array items => .array (essenceItems items)
  | .object members => .object (essenceMembers members)
  | j => j
  termination_by structural j => j

/-- `essence` of each of some values. -/
def essenceItems : List Json → List Json
  | [] => []
  | j :: rest => essence j :: essenceItems rest
  termination_by structural items => items

/-- `essence` of the value of each of some members. -/
def essenceMembers : List (String × Json) → List (String × Json)
  | [] => []
  | (name, j) :: rest => (name, essence j) :: essenceMembers rest
  termination_by structural members => members
end

theorem essenceMembers_eq_map (members : List (String × Json)) :
    essenceMembers members = members.map fun m => (m.1, essence m.2) := by
  induction members with
  | nil => rfl
  | cons m rest ih => exact congrArg ((m.1, essence m.2) :: ·) ih

mutual
/-- Values count as equal exactly if they are the same apart from the signs of zeros. -/
theorem same_iff_essence_eq (j k : Json) : same j k = true ↔ essence j = essence k := by
  match j with
  | .null => cases k <;> simp [same, essence]
  | .boolean b => cases k <;> simp [same, essence]
  | .text s => cases k <;> simp [same, essence]
  | .number n =>
    cases k with
    | number m =>
      rw [same, essence, essence, Json.number.injEq]
      exact n.same_iff_essence_eq m
    | _ => simp [same, essence]
  | .array items =>
    cases k with
    | array others =>
      rw [same, essence, essence, Json.array.injEq]
      exact sameItems_iff_essenceItems_eq items others
    | _ => simp [same, essence]
  | .object members =>
    cases k with
    | object others =>
      rw [same, essence, essence, Json.object.injEq]
      exact sameMembers_iff_essenceMembers_eq members others
    | _ => simp [same, essence]
  termination_by structural j

theorem sameItems_iff_essenceItems_eq (items others : List Json) :
    sameItems items others = true ↔ essenceItems items = essenceItems others := by
  match items with
  | [] => cases others <;> simp [sameItems, essenceItems]
  | j :: rest =>
    cases others with
    | nil => simp [sameItems, essenceItems]
    | cons k others =>
      rw [sameItems, Bool.and_eq_true, essenceItems, essenceItems, List.cons.injEq]
      exact and_congr (same_iff_essence_eq j k) (sameItems_iff_essenceItems_eq rest others)
  termination_by structural items

theorem sameMembers_iff_essenceMembers_eq (members others : List (String × Json)) :
    sameMembers members others = true ↔ essenceMembers members = essenceMembers others := by
  match members with
  | [] => cases others <;> simp [sameMembers, essenceMembers]
  | (name, j) :: rest =>
    cases others with
    | nil => simp [sameMembers, essenceMembers]
    | cons m others =>
      obtain ⟨other, k⟩ := m
      rw [sameMembers, Bool.and_eq_true, Bool.and_eq_true, beq_iff_eq, essenceMembers,
        essenceMembers, List.cons.injEq, Prod.mk.injEq]
      exact and_congr (and_congr Iff.rfl (same_iff_essence_eq j k))
        (sameMembers_iff_essenceMembers_eq rest others)
  termination_by structural members
end

mutual
/-- There are no zeros with a sign among integers. -/
theorem essence_of_isWhole (j : Json) (h : IsWhole j) : essence j = j := by
  match j with
  | .null | .boolean _ | .text _ | .number (.integer _) => rfl
  | .number (.double _) => exact h.elim
  | .array items => rw [essence, essenceItems_of_isWhole items h]
  | .object members => rw [essence, essenceMembers_of_isWhole members h]
  termination_by structural j

theorem essenceItems_of_isWhole (items : List Json) (h : IsWholeItems items) :
    essenceItems items = items := by
  match items with
  | [] => rfl
  | j :: rest => rw [essenceItems, essence_of_isWhole j h.1, essenceItems_of_isWhole rest h.2]
  termination_by structural items

theorem essenceMembers_of_isWhole (members : List (String × Json)) (h : IsWholeMembers members) :
    essenceMembers members = members := by
  match members with
  | [] => rfl
  | (name, j) :: rest =>
    rw [essenceMembers, essence_of_isWhole j h.1, essenceMembers_of_isWhole rest h.2]
  termination_by structural members
end

/-! ## Values that may be missing -/

/-- Both are missing, or both are there and count as equal. -/
def Agree : Option Json → Option Json → Prop := Option.Rel fun v w => v.same w = true

theorem agree_iff (x y : Option Json) : Agree x y ↔ x.map essence = y.map essence := by
  cases x with
  | none =>
    cases y with
    | none => exact ⟨fun _ => rfl, fun _ => .none⟩
    | some w => exact ⟨nofun, nofun⟩
  | some v =>
    cases y with
    | none => exact ⟨nofun, nofun⟩
    | some w =>
      rw [Option.map_some, Option.map_some, Option.some.injEq, ← same_iff_essence_eq]
      constructor
      · rintro (⟨h⟩ | _)
        exact h
      · exact fun h => Option.Rel.some h

end Json

end AgentPulse
