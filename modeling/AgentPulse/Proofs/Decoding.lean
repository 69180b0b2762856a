import AgentPulse.Beat.Wire
import AgentPulse.Bus.Totals
import AgentPulse.Beat.Status
import AgentPulse.Proofs.Record.Agreement
import AgentPulse.Server.Basic

/-!
# Reading values and reading texts

A status, a beat, totals and a server are each read off a value, or off a text as it goes by. Main
statement: `read_alike`. Both ways take the same values and make the same of them, however odd a
value is and in whichever order its text has the members of its objects.
-/

namespace AgentPulse

open Record (Field Shape mismatchNode)
open Json (Node canonical toNode units)

theorem Instant.agrees : Instant.field.Agrees := by
  have hfields : ∀ i, (Instant.shape.field i).Agrees := by
    intro i
    cases i with
    | secs | nanos => exact Field.word_agrees ..
  exact Shape.agrees hfields Instant.ofDraft

theorem Beat.agrees : Field.Agrees ⟨Beat.ofJson, Beat.ofNode⟩ := by
  have hfields : ∀ i, (Beat.shape.field i).Agrees := by
    intro i
    cases i with
    | agent | job | status => exact Field.text_agrees
    | time => exact Instant.agrees
    | details => exact Field.jsonMap_agrees
  exact Shape.agrees hfields Beat.ofDraft

theorem Totals.agrees : Field.Agrees ⟨Totals.ofJson, Totals.ofNode⟩ := by
  have hfields : ∀ i, (Totals.shape.field i).Agrees := by
    intro i
    cases i with
    | keys | buffered | subscriptions | published | delivered | dropped =>
      exact Field.word_agrees ..
  exact Shape.agrees hfields Totals.ofDraft

theorem Server.agrees : Field.Agrees ⟨Server.ofJson, Server.ofNode⟩ := by
  have hfields : ∀ i, (Server.shape.field i).Agrees := by
    intro i
    cases i with
    | name | command => exact Field.text_agrees
    | args => exact Field.texts_agrees
    | env => exact Field.textMap_agrees
  exact Shape.agrees hfields Server.ofDraft

namespace Status

/-- A word with anything but null after it is refused in both ways. -/
theorem toOption_ofNode_single (levels : Nat) (word : String) (content : Json) :
    (ofNode (levels + 1) (toNode (.object [(word, content)]))).toOption
      = (ofJson (.object [(word, canonical content)])).toOption := by
  show (Record.ofForm (Node.readName (.text (units word))) >>= fun word => _).toOption = _
  rw [Record.ofForm_readName]
  show (Record.ofContent (ofVariant word) >>= fun s => _).toOption
    = (ofVariant word >>= fun s => _).toOption
  rw [toOption_bind, toOption_bind, Record.toOption_ofContent]
  refine congrArg _ (funext fun s => ?_)
  cases content with
  | null | boolean | array | object => rfl
  | number | text =>
    show (mismatchNode _ "unit" >>= fun _ => _).toOption = none
    rw [toOption_bind, Record.toOption_mismatchNode]
    rfl

/-- More than one member is refused, at the second at the latest. -/
theorem toOption_ofNode_many (levels : Nat) (first second : String × Json)
    (rest : List (String × Json)) :
    (ofNode (levels + 1) (toNode (.object (first :: second :: rest)))).toOption = none := by
  obtain ⟨word, content⟩ := first
  show (Record.ofForm (Node.readName (.text (units word))) >>= fun word => _).toOption = none
  rw [Record.ofForm_readName]
  show (Record.ofContent (ofVariant word) >>= fun s => _).toOption = none
  rw [toOption_bind]
  cases (Record.ofContent (ofVariant word)).toOption with
  | none => rfl
  | some s =>
    cases content with
    | null | boolean | array | object => rfl
    | number | text =>
      show (mismatchNode _ "unit" >>= fun _ => _).toOption = none
      rw [toOption_bind, Record.toOption_mismatchNode]
      rfl

theorem ofJson_many {members : List (String × Json)} (h : 2 ≤ members.length) :
    (ofJson (.object members)).toOption = none := by
  obtain _ | ⟨_, _ | ⟨_, _⟩⟩ := members
  · simp at h
  · simp at h
  · rfl

/-- A status is no record: it is a word, or an object of one member. -/
theorem agrees : Field.Agrees ⟨ofJson, ofNode⟩ := by
  intro j levels hdistinct hwhole hdepth
  show (ofNode levels (toNode j)).toOption = (ofJson (canonical j)).toOption
  cases j with
  | null | boolean | number | array => rfl
  | text word =>
    show (Record.ofForm (Json.readText (units word)) >>= fun word =>
      Record.ofContent (ofVariant word)).toOption = (ofVariant word).toOption
    rw [Json.readText_units]
    exact Record.toOption_ofContent _
  | object members =>
    cases levels with
    | zero => exact absurd hdepth (Nat.not_succ_le_zero _)
    | succ levels =>
      match members with
      | [] => rfl
      | [(word, content)] => exact toOption_ofNode_single levels word content
      | first :: second :: rest =>
        have hlength := (Json.entries_canonical_perm hdistinct.1).length_eq
        rw [toOption_ofNode_many]
        refine (ofJson_many ?_).symm
        rw [hlength]
        simp [Json.canonicalMembers]

end Status

/-- A status, a beat, totals and a server are read off a value whose numbers are integers of 64 bits
and which is not nested too deep exactly if they are read off a text of it, and they are the same
then. The text may have the members of objects in order, as the value has them, or in any other. -/
theorem read_alike {v : Json} (horderly : v.Orderly) (hwhole : v.IsWhole)
    (hdepth : v.depth ≤ Json.maxLevels) :
    v.Arranges v ∧ ∀ j : Json, j.Arranges v →
      (∀ x, Status.ofJson v = .ok x ↔ Record.ofText Status.ofNode j.compact = .ok x) ∧
      (∀ x, Beat.ofJson v = .ok x ↔ Beat.ofText j.compact = .ok x) ∧
      (∀ x, Totals.ofJson v = .ok x ↔ Totals.ofText j.compact = .ok x) ∧
      (∀ x, Server.ofJson v = .ok x ↔ Server.ofText j.compact = .ok x) :=
  ⟨.refl horderly, fun _ hj =>
    ⟨Record.ofText_iff Status.agrees hj hwhole hdepth,
      Record.ofText_iff Beat.agrees hj hwhole hdepth,
      Record.ofText_iff Totals.agrees hj hwhole hdepth,
      Record.ofText_iff Server.agrees hj hwhole hdepth⟩⟩

/-- A beat with its time as an array in which the nanoseconds are more than a second, and without a
job and details, is read off its value and off its text with the members in reverse. -/
theorem read_alike_reversed :
    let members : List (String × Json) := [("agent_key", .text "a"), ("status", .text "idle"),
      ("timestamp", .array [.number (.integer 1), .number (.integer 1500000000)])]
    let beat : Beat := { agent := "a", status := "idle", time := ⟨2500000000⟩ }
    Beat.ofJson (.object members) = .ok beat ∧
      Beat.ofText (Json.object members.reverse).compact = .ok beat := by
  intro members beat
  have hvalue : Beat.ofJson (.object members) = .ok beat := rfl
  have horderly : (Json.object members).Orderly :=
    ⟨by decide, trivial, trivial, ⟨trivial, trivial, trivial⟩, trivial⟩
  have hwhole : (Json.object members).IsWhole :=
    ⟨trivial, trivial, ⟨rfl, rfl, trivial⟩, trivial⟩
  have hreverse : (Json.object members.reverse).Arranges (.object members) :=
    ⟨⟨by decide, ⟨trivial, trivial, trivial⟩, trivial, trivial, trivial⟩, rfl⟩
  obtain ⟨-, hread⟩ := read_alike horderly hwhole (by decide)
  exact ⟨hvalue, ((hread _ hreverse).2.1 beat).mp hvalue⟩

end AgentPulse
