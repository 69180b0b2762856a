import AgentPulse.Proofs.Beat.RoundTrip
import AgentPulse.Proofs.Json.Arrangement
import AgentPulse.Proofs.Record.Setting

/-!
# The fields of a beat

A beat is read off an open record. Each of its fields is found as `Requires` says, with the default
of one that is left out; so the time or the details can be read anew and the rest stays as it is
(`ofDraft_set_time`, `ofNode_fill`). Whatever is read, its details are in order
(`orderly_details`).
-/

namespace AgentPulse.Beat

open Record (Draft Setting Shape)
open Json (Node)

variable {d : Draft Part Part.Value} {b b₀ : Beat} {levels : Nat}

theorem isOpen : shape.IsOpen where
  names := rfl
  order := by decide
  tag := tag?_name
  check _ := rfl

/-- The fields of a draft, those that are left out included, are those of a beat. -/
structure Requires (d : Draft Part Part.Value) (b : Beat) : Prop where
  agent : shape.require d .agent = .ok b.agent
  job : shape.require d .job = .ok b.job
  status : shape.require d .status = .ok b.status
  time : shape.require d .time = .ok b.time
  details : shape.require d .details = .ok b.details

theorem ofDraft_eq_ok_iff : ofDraft d = .ok b ↔ Requires d b := by
  constructor
  · intro h
    obtain ⟨agent, hagent, h⟩ := bind_eq_ok.mp h
    obtain ⟨job, hjob, h⟩ := bind_eq_ok.mp h
    obtain ⟨status, hstatus, h⟩ := bind_eq_ok.mp h
    obtain ⟨time, htime, h⟩ := bind_eq_ok.mp h
    obtain ⟨details, hdetails, h⟩ := bind_eq_ok.mp h
    cases h
    exact ⟨hagent, hjob, hstatus, htime, hdetails⟩
  · intro h
    rw [ofDraft, h.agent, h.job, h.status, h.time, h.details]
    rfl

theorem ofDraft_set_time (h : ofDraft d = .ok b) (t : Instant) :
    ofDraft (d.set .time t) = .ok (b.withTime t) := by
  rw [ofDraft_eq_ok_iff] at h ⊢
  exact ⟨h.agent, h.job, h.status, rfl, h.details⟩

theorem ofDraft_set_details (h : ofDraft d = .ok b) (details : Dict Json) :
    ofDraft (d.set .details details) = .ok { b with details } := by
  rw [ofDraft_eq_ok_iff] at h ⊢
  exact ⟨h.agent, h.job, h.status, h.time, rfl⟩

/-- A beat depends on what is found when its fields are asked for only. -/
theorem ofDraft_congr (d d' : Draft Part Part.Value) (h : shape.require d = shape.require d') :
    ofDraft d = ofDraft d' := by
  rw [ofDraft, ofDraft, h]

/-- In an event that can be read with some time, any other time is read on its own. -/
theorem ofNode_fill {c : Setting Node Node} (hc : c.IsNodeAt shape .time) {n₀ : Node}
    (h : ofNode (levels + 1) (c.fill n₀) = .ok b₀) (n : Node) :
    ofNode (levels + 1) (c.fill n) = (Instant.ofNode levels n).map b₀.withTime :=
  Shape.made_of_fill isOpen ofDraft_set_time hc h n

theorem ofJson_fill {c : Setting String Json} (hc : c.IsValueAt shape .time) {j₀ : Json}
    (h : ofJson (c.fillJson j₀) = .ok b₀) (j : Json) :
    ofJson (c.fillJson j) = (Instant.ofJson j).map b₀.withTime :=
  Shape.made_of_fillJson isOpen ofDraft_set_time hc h j

/-! ## Details in order -/

/-- Objects in what a field holds are in order. -/
def Part.IsOrderly : (i : Part) → i.Value → Prop
  | .details, d => Json.OrderlyMembers d.entries
  | _, _ => True

theorem isOrderly_of_field (levels : Nat) (i : Part) (n : Node) (x : i.Value)
    (h : (shape.field i).ofNode levels n = .ok x) : i.IsOrderly x := by
  cases i with
  | agent | job | status | time => trivial
  | details =>
    have hmismatch : ∀ n, Record.Field.jsonMap.ofNode levels n = Record.mismatchNode n "a map" →
        Record.Field.jsonMap.ofNode levels n ≠ .ok x := fun _ hn => Record.ne_ok_of_mismatch hn x
    cases n with
    | object members ending =>
      cases levels with
      | zero => cases h
      | succ levels =>
        cases hread : Node.readMembers levels members ending Dict.empty with
        | error e =>
          change Record.ofForm (Node.readMembers levels members ending Dict.empty) = .ok x at h
          rw [hread] at h
          cases h
        | ok details =>
          change Record.ofForm (Node.readMembers levels members ending Dict.empty) = .ok x at h
          rw [hread] at h
          cases h
          exact Json.orderlyMembers_readMembers members hread trivial
    | null | boolean | number | text | array | broken => exact absurd h (hmismatch _ rfl)

/-- A beat that is read off a document has its details in order. -/
theorem orderly_details {n : Node} (h : ofNode levels n = .ok b) :
    Json.OrderlyMembers b.details.entries := by
  obtain ⟨d, hd, hb⟩ := bind_eq_ok.mp h
  have hall := Shape.ofNode_forall isOpen isOrderly_of_field hd
  have hdetails := (ofDraft_eq_ok_iff.mp (Record.ofContent_eq_ok.mp hb)).details
  rw [Shape.require] at hdetails
  cases hread : d .details with
  | some x =>
    rw [hread] at hdetails
    cases hdetails
    exact hall .details _ hread
  | none =>
    rw [hread] at hdetails
    have hempty : Dict.empty = b.details := Except.ok.inj hdetails
    rw [← hempty]
    trivial

end AgentPulse.Beat
