import AgentPulse.Beat.Instant
import AgentPulse.Proofs.Record.Reading

/-!
# Instants read back

An instant is written exactly if it is not before 1970 (`members_of_nonneg`, `members_of_neg`), and
what is written is read back as the instant in both ways, unless it is later than instants go
(`field_reads`).
-/

namespace AgentPulse.Instant

open Record (Draft Shape)

/-- Whether an instant is no later than a clock can hold. -/
def Fits (t : Instant) : Prop := t.nanos < (maxSeconds + 1) * perSecond

instance (t : Instant) : Decidable t.Fits := inferInstanceAs (Decidable (_ < _))

/-- The fields of whole seconds and of the nanoseconds on top. -/
def fields (secs nanos : Nat) : List (String × Json) :=
  [("secs_since_epoch", .number (.integer secs)), ("nanos_since_epoch", .number (.integer nanos))]

variable {t : Instant}

theorem members_of_nonneg (h : 0 ≤ t.nanos) :
    t.members = .ok (fields (t.nanos.toNat / perSecond) (t.nanos.toNat % perSecond)) := by
  obtain ⟨n, hn⟩ := Int.eq_ofNat_of_zero_le h
  rw [members, parts, hn]
  rfl

theorem members_of_neg (h : t.nanos < 0) : t.members = .error .beforeEpoch := by
  obtain ⟨n, hn⟩ := Int.eq_negSucc_of_lt_zero h
  rw [members, parts, hn]
  rfl

/-- An instant can be written exactly if it is not before 1970. -/
theorem exists_members_iff : (∃ time, t.members = .ok time) ↔ 0 ≤ t.nanos := by
  constructor
  · rintro ⟨time, h⟩
    refine Int.not_lt.mp fun hneg => ?_
    rw [members_of_neg hneg] at h
    cases h
  · exact fun h => ⟨_, members_of_nonneg h⟩

/-- Two instants are not written alike. -/
theorem eq_of_members_eq {t' : Instant} {time : List (String × Json)} (h : t.members = .ok time)
    (h' : t'.members = .ok time) : t = t' := by
  have hnonneg : 0 ≤ t.nanos := exists_members_iff.mp ⟨time, h⟩
  have hnonneg' : 0 ≤ t'.nanos := exists_members_iff.mp ⟨time, h'⟩
  rw [members_of_nonneg hnonneg] at h
  rw [members_of_nonneg hnonneg', ← Except.ok.inj h, Except.ok.injEq] at h'
  obtain ⟨hsecs, hnanos⟩ : t'.nanos.toNat / perSecond = t.nanos.toNat / perSecond ∧
      t'.nanos.toNat % perSecond = t.nanos.toNat % perSecond := by
    simp only [fields, List.cons.injEq, Prod.mk.injEq, Json.number.injEq, Number.integer.injEq,
      Int.natCast_inj, true_and, and_true] at h'
    exact h'
  -- The same seconds and the same nanoseconds on top are the same number of nanoseconds.
  have hnat : t.nanos.toNat = t'.nanos.toNat := by
    rw [← Nat.div_add_mod t.nanos.toNat perSecond, ← hsecs, ← hnanos, Nat.div_add_mod]
  have hint : t.nanos = t'.nanos := by omega
  cases t
  cases t'
  exact congrArg Instant.mk hint

/-- Seconds and nanoseconds that amount to an instant. -/
structure Amount (t : Instant) (secs nanos : Nat) : Prop where
  sum : t = ofParts secs nanos
  secs_le : secs ≤ maxSeconds
  nanos_lt : nanos < perSecond

/-- What is written are seconds and nanoseconds that amount to the instant. -/
theorem exists_amount (hfits : t.Fits) {time : List (String × Json)} (h : t.members = .ok time) :
    ∃ secs nanos, time = fields secs nanos ∧ t.Amount secs nanos := by
  rcases Int.lt_or_le t.nanos 0 with hneg | hnonneg
  · rw [members_of_neg hneg] at h
    cases h
  · rw [members_of_nonneg hnonneg] at h
    refine ⟨_, _, (Except.ok.inj h).symm, ⟨?_, ?_, Nat.mod_lt _ (by decide)⟩⟩
    · have hsum : ((t.nanos.toNat / perSecond : Nat) : Int) * perSecond
          + ((t.nanos.toNat % perSecond : Nat) : Int) = t.nanos := by
        rw [← Int.natCast_mul, ← Int.natCast_add, Nat.div_add_mod', Int.toNat_of_nonneg hnonneg]
      rw [ofParts, hsum]
    · have hlt : t.nanos.toNat < perSecond * (maxSeconds + 1) := by
        rw [Nat.mul_comm]
        exact (Int.toNat_lt hnonneg).mpr hfits
      exact Nat.le_of_lt_succ (Nat.div_lt_of_lt_mul hlt)

variable {secs nanos : Nat}

theorem isWholeMembers_fields (h : t.Amount secs nanos) : Json.IsWholeMembers (fields secs nanos) :=
  ⟨Json.isWord_natCast (Nat.lt_of_le_of_lt h.secs_le (by decide)),
    Json.isWord_natCast (Nat.lt_trans h.nanos_lt (by decide)), trivial⟩

/-- However the two fields came into a draft, it passes and gives the instant. -/
theorem ofDraft_of_amount (h : t.Amount secs nanos) {d : Draft Part fun _ => Nat}
    (hsecs : d .secs = some secs) (hnanos : d .nanos = some nanos) :
    shape.check d = .ok () ∧ ofDraft d = .ok t := by
  have hwhole : wholeSeconds secs nanos = secs := by
    rw [wholeSeconds, Nat.div_eq_of_lt h.nanos_lt, Nat.add_zero]
  have hsize : ¬ UInt64.size ≤ secs :=
    Nat.not_le.mpr (Nat.lt_of_le_of_lt h.secs_le (by decide))
  have hrequire : shape.require d .secs = .ok secs ∧ shape.require d .nanos = .ok nanos := by
    constructor
    · rw [Shape.require, hsecs]
    · rw [Shape.require, hnanos]
  constructor
  · show checkParts (d .secs) (d .nanos) = _
    rw [hsecs, hnanos, checkParts, hwhole, if_neg hsize]
  · rw [ofDraft, hrequire.1, hrequire.2]
    show ofSum secs nanos = _
    rw [ofSum, hwhole, if_neg (Nat.not_lt.mpr h.secs_le), h.sum]

/-- In order of their names the nanoseconds come first. -/
theorem entries_ofList_fields :
    (Dict.ofList (fields secs nanos)).entries = (fields secs nanos).reverse := by
  have hascending : (fields secs nanos).reverse.Pairwise fun a b => a.1 < b.1 :=
    List.pairwise_pair.mpr (show "nanos_since_epoch" < "secs_since_epoch" by decide)
  rw [Dict.ofList_of_perm (d := ⟨_, hascending⟩) (List.reverse_perm _).symm]

theorem canonical_fields :
    Json.canonical (.object (fields secs nanos)) = .object (fields secs nanos).reverse :=
  congrArg Json.object entries_ofList_fields

theorem tag?_name (i : Part) : shape.tag? (shape.name i) = some i := by cases i <;> rfl

/-- An instant is read back in both ways. -/
theorem field_reads (h : t.Amount secs nanos) (levels : Nat) :
    field.Reads (levels + 1) (.object (fields secs nanos)) t := by
  have hsecs := Record.Field.word_reads (Nat.le_refl UInt64.size) "u64" levels
    (Nat.lt_of_le_of_lt h.secs_le (by decide))
  have hnanos := Record.Field.word_reads (show UInt32.size ≤ UInt64.size by decide) "u32" levels
    (Nat.lt_trans h.nanos_lt (show perSecond < UInt32.size by decide))
  -- In the value the nanoseconds come first, in the text the seconds; both drafts are the same to
  -- what asks for the fields.
  constructor
  · obtain ⟨hcheck, hdraft⟩ := ofDraft_of_amount h
      (d := (Draft.blank.set .nanos nanos).set .secs secs) rfl rfl
    have hgather := calc shape.gather (fields secs nanos).reverse Draft.blank
      _ = shape.gather [("secs_since_epoch", .number (.integer secs))]
            (Draft.blank.set .nanos nanos) :=
        Shape.gather_cons (tag?_name .nanos) rfl hnanos.ofJson _
      _ = shape.gather [] ((Draft.blank.set .nanos nanos).set .secs secs) :=
        Shape.gather_cons (tag?_name .secs) rfl hsecs.ofJson _
      _ = .ok ((Draft.blank.set .nanos nanos).set .secs secs) := by
        rw [Shape.gather, hcheck]
        rfl
    rw [canonical_fields]
    show (shape.gather (fields secs nanos).reverse Draft.blank >>= ofDraft) = _
    rw [hgather]
    exact hdraft
  · obtain ⟨hcheck, hdraft⟩ := ofDraft_of_amount h
      (d := (Draft.blank.set .secs secs).set .nanos nanos) rfl rfl
    have hgather := calc
      shape.gatherNodes levels (Json.toMemberNodes (fields secs nanos)) none Draft.blank
      _ = shape.gatherNodes levels
            (Json.toMemberNodes [("nanos_since_epoch", .number (.integer nanos))]) none
            (Draft.blank.set .secs secs) :=
        Shape.gatherNodes_cons (tag?_name .secs) rfl hsecs.ofNode _ _
      _ = shape.gatherNodes levels [] none ((Draft.blank.set .secs secs).set .nanos nanos) :=
        Shape.gatherNodes_cons (tag?_name .nanos) rfl hnanos.ofNode _ _
      _ = .ok ((Draft.blank.set .secs secs).set .nanos nanos) := by
        rw [Shape.gatherNodes, hcheck]
        rfl
    show ofNode (levels + 1) _ = _
    rw [ofNode, Json.toNode, Shape.ofNode_object, hgather]
    show Record.ofContent (ofDraft _) = _
    rw [hdraft]
    rfl

end AgentPulse.Instant
