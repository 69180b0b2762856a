import AgentPulse.Beat.Wire
import AgentPulse.Proofs.Beat.Instant
import AgentPulse.Proofs.Readings

/-!
# Beats written

A beat can be written exactly if it is not from before 1970 (`exists_toJson_iff`,
`exists_toText_iff`). Its value has the fields in the order of their names (`exists_inOrder`). Its
texts have them in the order of the record and the details in any order; with the members of every
object in order they are the value (`canonical_layout`).
-/

namespace AgentPulse.Beat

open Json (IsWholeMembers OrderlyMembers canonical canonicalMembers depthMembers)

/-! ## What is written -/

/-- The member for the details, which is left out if there are none. -/
def detailMembers (details : List (String × Json)) : List (String × Json) :=
  if details.isEmpty then [] else [("metadata", .object details)]

/-- The fields in the order of the record, with the details in some order. -/
def layout (b : Beat) (time details : List (String × Json)) : List (String × Json) :=
  [("agent_key", .text b.agent), ("job_id", .text b.job), ("status", .text b.status),
    ("timestamp", .object time)] ++ detailMembers details

/-- The fields in the order of their names. -/
def inOrder (b : Beat) (time : List (String × Json)) : List (String × Json) :=
  [("agent_key", .text b.agent), ("job_id", .text b.job)] ++ detailMembers b.details.entries
    ++ [("status", .text b.status), ("timestamp", .object time)]

/-- A text of a beat has the fields in the order of the record and the details in any order. -/
def IsTextOf (b : Beat) (text : String) : Prop :=
  ∃ time details, b.time.members = .ok time ∧ details.Perm b.details.entries
    ∧ text = (Json.object (b.layout time details)).compact

variable {b : Beat} {secs nanos : Nat}

theorem members_eq (b : Beat) :
    b.members = b.time.members.map (b.layout · b.details.entries) := rfl

theorem inOrder_ascending (b : Beat) (time : List (String × Json)) :
    (b.inOrder time).Pairwise fun x y => x.1 < y.1 := by
  rw [← List.pairwise_map (f := Prod.fst) (R := (· < ·)), inOrder, detailMembers]
  by_cases hempty : b.details.entries.isEmpty
  · rw [if_pos hempty]
    show ["agent_key", "job_id", "status", "timestamp"].Pairwise (· < ·)
    decide
  · rw [if_neg hempty]
    show ["agent_key", "job_id", "metadata", "status", "timestamp"].Pairwise (· < ·)
    decide

theorem layout_perm (b : Beat) (time : List (String × Json)) :
    (b.layout time b.details.entries).Perm (b.inOrder time) := by
  rw [inOrder, List.append_assoc]
  show ([_, _] ++ ([_, _] ++ detailMembers b.details.entries)).Perm _
  exact List.perm_append_comm.append_left _

theorem entries_ofList_layout (b : Beat) (time : List (String × Json)) :
    (Dict.ofList (b.layout time b.details.entries)).entries = b.inOrder time := by
  rw [Dict.ofList_of_perm (d := ⟨_, b.inOrder_ascending time⟩) (b.layout_perm time)]

theorem canonicalMembers_detailMembers {details : List (String × Json)}
    (hperm : details.Perm b.details.entries) (horderly : OrderlyMembers b.details.entries) :
    canonicalMembers (detailMembers details) = detailMembers b.details.entries := by
  have hdetails := Json.canonicalMembers_of_perm hperm horderly
  rw [detailMembers, detailMembers, hperm.isEmpty_eq]
  split
  · rfl
  · rw [canonicalMembers, canonical, hdetails, Dict.ofList_of_perm hperm, canonicalMembers]

/-- Whatever order the details are written in, the members in order are those of the value. -/
theorem canonical_layout {details : List (String × Json)} (hperm : details.Perm b.details.entries)
    (horderly : OrderlyMembers b.details.entries) :
    canonical (.object (b.layout (Instant.fields secs nanos) details))
      = .object (b.inOrder (Instant.fields secs nanos).reverse) := by
  have hmembers : canonicalMembers (b.layout (Instant.fields secs nanos) details)
      = b.layout (Instant.fields secs nanos).reverse b.details.entries := by
    show (_, canonical (.text b.agent)) :: (_, canonical (.text b.job))
      :: (_, canonical (.text b.status)) :: (_, canonical (.object (Instant.fields secs nanos)))
      :: canonicalMembers (detailMembers details) = _
    rw [Instant.canonical_fields, canonicalMembers_detailMembers hperm horderly]
    rfl
  -- The fields themselves are put in order last.
  rw [canonical, hmembers, entries_ofList_layout]

theorem sorted_layout (b : Beat) :
    sorted (b.layout (Instant.fields secs nanos) b.details.entries)
      = b.inOrder (Instant.fields secs nanos).reverse := by
  rw [← entries_ofList_layout, sorted]
  congr 2
  rw [layout, List.map_append]
  simp only [List.map_cons, List.map_nil, Instant.entries_ofList_fields]
  rw [layout]
  congr 1
  rw [detailMembers]
  split
  · rfl
  · show [("metadata", Json.object (Dict.ofList b.details.entries).entries)] = _
    rw [Dict.ofList_entries]

/-! ## Values and texts -/

theorem toJson_eq (b : Beat) :
    b.toJson = b.time.members.map fun time =>
      .object (sorted (b.layout time b.details.entries)) := by
  rw [toJson, members_eq]
  cases b.time.members <;> rfl

theorem toText_eq (b : Beat) :
    b.toText = b.time.members.map fun time =>
      (Json.object (b.layout time b.details.entries)).compact := by
  rw [toText, members_eq]
  cases b.time.members <;> rfl

/-- A beat has a value exactly if it is not from before 1970. -/
theorem exists_toJson_iff : (∃ j, b.toJson = .ok j) ↔ 0 ≤ b.time.nanos := by
  rw [toJson_eq, exists_map_eq_ok_iff, Instant.exists_members_iff]

theorem exists_toText_iff : (∃ text, b.toText = .ok text) ↔ 0 ≤ b.time.nanos := by
  rw [toText_eq, exists_map_eq_ok_iff, Instant.exists_members_iff]

theorem isTextOf_toText {text : String} (h : b.toText = .ok text) : b.IsTextOf text := by
  rw [toText_eq] at h
  obtain ⟨time, htime, rfl⟩ := map_eq_ok_iff.mp h
  exact ⟨time, b.details.entries, htime, .refl _, rfl⟩

theorem exists_toJson_of_isTextOf {text : String} (h : b.IsTextOf text) :
    ∃ j, b.toJson = .ok j := by
  obtain ⟨time, -, htime, -, -⟩ := h
  rw [toJson_eq, exists_map_eq_ok_iff]
  exact ⟨time, htime⟩

/-- A beat that a program can hold: its time is no later than a clock can be, and the objects in its
details are in order. -/
structure IsProper (b : Beat) : Prop where
  fits : b.time.Fits
  orderly : OrderlyMembers b.details.entries

/-- The value of a beat has all fields in order. -/
theorem exists_inOrder (hfits : b.time.Fits) {j : Json} (hj : b.toJson = .ok j) :
    ∃ secs nanos, b.time.members = .ok (Instant.fields secs nanos) ∧ b.time.Amount secs nanos
      ∧ j = .object (b.inOrder (Instant.fields secs nanos).reverse) := by
  obtain ⟨time, htime, rfl⟩ := map_eq_ok_iff.mp (b.toJson_eq ▸ hj)
  obtain ⟨secs, nanos, rfl, hamount⟩ := Instant.exists_amount hfits htime
  exact ⟨secs, nanos, htime, hamount, by rw [sorted_layout]⟩

/-- The value of a beat names the job, and the details unless there are none. -/
theorem member?_inOrder (b : Beat) (time : List (String × Json)) :
    (Json.object (b.inOrder time)).member? "job_id" = some (.text b.job)
      ∧ ((Json.object (b.inOrder time)).member? "metadata" = none ↔ b.details = Dict.empty) := by
  refine ⟨rfl, ?_⟩
  rw [← Dict.isEmpty_iff, Dict.isEmpty, inOrder, detailMembers]
  split
  case isTrue hempty => exact ⟨fun _ => hempty, fun _ => rfl⟩
  case isFalse hempty => exact ⟨nofun, fun h => absurd h hempty⟩

/-! ## Numbers and nesting -/

theorem isWholeMembers_layout (h : b.time.Amount secs nanos) {details : List (String × Json)}
    (hdetails : IsWholeMembers details) :
    IsWholeMembers (b.layout (Instant.fields secs nanos) details) := by
  have hmembers : IsWholeMembers (detailMembers details) := by
    rw [detailMembers]
    split
    · trivial
    · exact ⟨hdetails, trivial⟩
  exact ⟨trivial, trivial, trivial, Instant.isWholeMembers_fields h, hmembers⟩

/-- A beat is nested two levels deeper than its details. -/
theorem depth_layout (b : Beat) {time : List (String × Json)} (htime : depthMembers time = 0)
    (details : List (String × Json)) :
    (Json.object (b.layout time details)).depth = depthMembers details + 2 := by
  have hmembers : max 1 (depthMembers (detailMembers details)) = depthMembers details + 1 := by
    rw [detailMembers]
    split
    case isTrue hempty =>
      rw [List.isEmpty_iff.mp hempty]
      rfl
    case isFalse =>
      show max 1 (max (depthMembers details + 1) 0) = _
      omega
  show max 0 (max 0 (max 0 (max (depthMembers time + 1) (depthMembers (detailMembers details)))))
    + 1 = _
  rw [htime, hmembers, Nat.zero_max, Nat.zero_max, Nat.zero_max]

theorem depth_inOrder (b : Beat) {time : List (String × Json)} (htime : depthMembers time = 0) :
    (Json.object (b.inOrder time)).depth = depthMembers b.details.entries + 2 := by
  rw [← b.depth_layout htime, Json.depth, Json.depth,
    Json.depthMembers_perm (b.layout_perm time)]

end AgentPulse.Beat
