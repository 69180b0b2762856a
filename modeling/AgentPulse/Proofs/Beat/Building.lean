import AgentPulse.Proofs.Beat.Layout
import AgentPulse.Proofs.Json.Equality
import AgentPulse.Proofs.LastGiven

/-!
# What becomes of a beat that is built

Calls of the builder set the job, the time or one detail. What counts in the end is what was set
last (`job_build`, `time_build`, `find?_build`), so built beats count as equal exactly if the last
settings do (`same_build_iff`), and calls that set different things can come in any order
(`build_perm`). Beats from 1970 on with integers in their details count as equal exactly if they are
written as one value, in whichever order the details come (`built_alike_iff`).
-/

namespace AgentPulse.Beat

open Json (Agree IsWholeMembers OrderlyMembers essence)

/-! ## What calls set -/

/-- The job that a call sets. -/
def Edit.job? : Edit → Option String
  | .job value => some value
  | _ => none

/-- The time that a call sets. -/
def Edit.time? : Edit → Option Instant
  | .time value => some value
  | _ => none

/-- The value that a call sets for the detail of a name. -/
def Edit.detail? (name : String) : Edit → Option Json
  | .detail other value => if other = name then some value else none
  | _ => none

/-- The job after some calls, given the one before them. -/
def jobAfter (job : String) (edits : List Edit) : String := (lastGiven Edit.job? edits).getD job

/-- The time after some calls, given the one before them. -/
def timeAfter (time : Instant) (edits : List Edit) : Instant :=
  (lastGiven Edit.time? edits).getD time

/-- The detail of a name after some calls, given the one before them. -/
def detailAfter (name : String) (value : Option Json) (edits : List Edit) : Option Json :=
  (lastGiven (Edit.detail? name) edits).or value

/-- What calls can set. -/
inductive Target where
  | job
  | time
  | detail (name : String)
  deriving DecidableEq, Repr

/-- What a call sets. -/
def Edit.target : Edit → Target
  | .job _ => .job
  | .time _ => .time
  | .detail name _ => .detail name

variable {a b : Beat} {edits edits' : List Edit}

@[simp] theorem agent_edit (b : Beat) (e : Edit) : (b.edit e).agent = b.agent := by cases e <;> rfl

@[simp] theorem status_edit (b : Beat) (e : Edit) : (b.edit e).status = b.status := by
  cases e <;> rfl

theorem agent_build (b : Beat) (edits : List Edit) : (b.build edits).agent = b.agent := by
  induction edits generalizing b with
  | nil => rfl
  | cons e edits ih => exact (ih (b.edit e)).trans (agent_edit b e)

theorem status_build (b : Beat) (edits : List Edit) : (b.build edits).status = b.status := by
  induction edits generalizing b with
  | nil => rfl
  | cons e edits ih => exact (ih (b.edit e)).trans (status_edit b e)

theorem job_build (b : Beat) (edits : List Edit) : (b.build edits).job = jobAfter b.job edits := by
  have hstep : ∀ (b : Beat) (e : Edit), some (b.edit e).job = e.job?.or (some b.job) := by
    intro b e
    cases e <;> rfl
  have hlast := foldl_eq_lastGiven (fun b : Beat => some b.job) hstep edits b
  rw [← Option.some.injEq, jobAfter, ← Option.or_some]
  exact hlast

theorem time_build (b : Beat) (edits : List Edit) :
    (b.build edits).time = timeAfter b.time edits := by
  have hstep : ∀ (b : Beat) (e : Edit), some (b.edit e).time = e.time?.or (some b.time) := by
    intro b e
    cases e <;> rfl
  have hlast := foldl_eq_lastGiven (fun b : Beat => some b.time) hstep edits b
  rw [← Option.some.injEq, timeAfter, ← Option.or_some]
  exact hlast

/-- Under each name a built beat has the detail that was set last. -/
theorem find?_build (b : Beat) (edits : List Edit) (name : String) :
    (b.build edits).details.find? name = detailAfter name (b.details.find? name) edits := by
  refine foldl_eq_lastGiven (fun b : Beat => b.details.find? name) ?_ edits b
  intro b e
  cases e with
  | job job => rfl
  | time time => rfl
  | detail other value =>
    show (b.details.insert other value).find? name = (Edit.detail? name (.detail other value)).or _
    rw [Dict.find?_insert, Edit.detail?]
    by_cases hname : name = other
    · rw [if_pos hname, if_pos hname.symm, Option.some_or]
    · rw [if_neg hname, if_neg (Ne.symm hname), Option.none_or]

/-! ## Beats that count as equal -/

/-- The beat with no sign on any zero in its details. -/
def essence (b : Beat) : Beat := { b with details := b.details.map Json.essence }

/-- Beats count as equal exactly if they are the same apart from the signs of zeros. -/
theorem same_iff_essence_eq (a b : Beat) : a.same b = true ↔ a.essence = b.essence := by
  have hdetails : Json.sameMembers a.details.entries b.details.entries = true ↔
      a.details.map Json.essence = b.details.map Json.essence := by
    rw [Json.sameMembers_iff_essenceMembers_eq, Json.essenceMembers_eq_map,
      Json.essenceMembers_eq_map]
    exact ⟨fun h => Dict.ext_entries h, congrArg Dict.entries⟩
  simp only [same, Bool.and_eq_true, beq_iff_eq, hdetails, essence, Beat.mk.injEq]
  tauto

theorem essence_of_isWhole (h : IsWholeMembers b.details.entries) : b.essence = b := by
  have hdetails : b.details.map Json.essence = b.details := by
    refine Dict.ext_entries ?_
    show (b.details.entries.map fun m => (m.1, Json.essence m.2)) = b.details.entries
    rw [← Json.essenceMembers_eq_map, Json.essenceMembers_of_isWhole _ h]
  rw [essence, hdetails]

/-- Beats count as equal if their fields do, and under each name their details. -/
theorem same_iff (a b : Beat) : a.same b = true ↔
    a.agent = b.agent ∧ a.job = b.job ∧ a.status = b.status ∧ a.time = b.time ∧
      ∀ name, Agree (a.details.find? name) (b.details.find? name) := by
  have hdetails : a.details.map Json.essence = b.details.map Json.essence ↔
      ∀ name, Agree (a.details.find? name) (b.details.find? name) := by
    constructor
    · intro h name
      rw [Json.agree_iff, ← Dict.find?_map, ← Dict.find?_map, h]
    · intro h
      refine Dict.ext_find? fun name => ?_
      rw [Dict.find?_map, Dict.find?_map]
      exact (Json.agree_iff _ _).mp (h name)
  rw [same_iff_essence_eq, essence, essence, Beat.mk.injEq, hdetails]

/-- What is built on beats that count as equal counts as equal exactly if the last settings do. -/
theorem same_build_iff (h : a.same b = true) (edits edits' : List Edit) :
    (a.build edits).same (b.build edits') = true ↔
      jobAfter a.job edits = jobAfter b.job edits' ∧
      timeAfter a.time edits = timeAfter b.time edits' ∧
      ∀ name, Agree (detailAfter name (a.details.find? name) edits)
        (detailAfter name (b.details.find? name) edits') := by
  obtain ⟨hagent, -, hstatus, -, -⟩ := (same_iff a b).mp h
  simp only [same_iff, agent_build, status_build, job_build, time_build, find?_build, hagent,
    hstatus, true_and]

/-! ## Calls in another order -/

/-- Two calls that set different things can change places. -/
theorem edit_comm (b : Beat) {e e' : Edit} (h : e.target ≠ e'.target) :
    (b.edit e).edit e' = (b.edit e').edit e := by
  cases e <;> cases e'
  case detail.detail name value other value' =>
    have hne : name ≠ other := fun hname => h (congrArg Target.detail hname)
    exact congrArg (fun details => { b with details }) (Dict.insert_comm hne _ _ _)
  all_goals first | rfl | exact absurd rfl h

theorem build_swap (b : Beat) (before after : List Edit) {e e' : Edit}
    (h : e.target ≠ e'.target) :
    b.build (before ++ e :: e' :: after) = b.build (before ++ e' :: e :: after) := by
  rw [build, build, List.foldl_append, List.foldl_append, List.foldl_cons, List.foldl_cons,
    List.foldl_cons, List.foldl_cons, edit_comm _ h]

/-- Calls that all set different things can come in any order. -/
theorem build_perm (hperm : edits.Perm edits') (hdistinct : (edits.map Edit.target).Nodup)
    (b : Beat) : b.build edits = b.build edits' := by
  induction hperm generalizing b with
  | nil => rfl
  | cons e _ ih =>
    rw [List.map_cons, List.nodup_cons] at hdistinct
    exact ih hdistinct.2 (b.edit e)
  | swap e e' rest =>
    rw [List.map_cons, List.map_cons, List.nodup_cons] at hdistinct
    have hne : e'.target ≠ e.target := fun he => hdistinct.1 (he ▸ List.mem_cons_self)
    exact build_swap b [] rest hne
  | trans hfirst _ ih₁ ih₂ =>
    have hdistinct' := (hfirst.map Edit.target).nodup_iff.mp hdistinct
    exact (ih₁ hdistinct b).trans (ih₂ hdistinct' b)

/-! ## Beats written -/

/-- A document of a beat has the fields in the order of the record and the details in any order. -/
def IsDocumentOf (b : Beat) (j : Json) : Prop :=
  ∃ time details, b.time.members = .ok time ∧ details.Perm b.details.entries
    ∧ j = .object (b.layout time details)

/-- From 1970 on a beat has a value, with the fields in the order of their names. -/
theorem toJson_of_nonneg (h : 0 ≤ b.time.nanos) :
    b.toJson = .ok (.object (b.inOrder (Instant.fields (b.time.nanos.toNat / Instant.perSecond)
      (b.time.nanos.toNat % Instant.perSecond)).reverse)) := by
  rw [toJson_eq, Instant.members_of_nonneg h, Except.map, sorted_layout]

/-- With the members of every object in order, each document of a beat is its value. -/
theorem canonical_of_isDocumentOf (horderly : OrderlyMembers b.details.entries) {d j : Json}
    (hd : b.IsDocumentOf d) (hj : b.toJson = .ok j) : d.canonical = j := by
  obtain ⟨time, details, htime, hperm, rfl⟩ := hd
  have hnonneg : 0 ≤ b.time.nanos := Instant.exists_members_iff.mp ⟨time, htime⟩
  rw [Instant.members_of_nonneg hnonneg] at htime
  rw [toJson_of_nonneg hnonneg] at hj
  obtain rfl := Except.ok.inj htime
  rw [canonical_layout hperm horderly]
  exact Except.ok.inj hj

/-- Nothing of a beat is lost in its value, whether the details are left out or not. -/
theorem eq_of_inOrder_eq {time time' : List (String × Json)}
    (h : a.inOrder time = b.inOrder time') :
    a.agent = b.agent ∧ a.job = b.job ∧ a.status = b.status ∧ time = time' ∧
      a.details = b.details := by
  unfold inOrder detailMembers at h
  split at h
  next hempty =>
    split at h
    next hempty' =>
      have hdetails : a.details = b.details :=
        (Dict.isEmpty_iff.mp hempty).trans (Dict.isEmpty_iff.mp hempty').symm
      simpa [hdetails] using h
    next => simp at h
  next =>
    split at h
    next => simp at h
    next =>
      obtain ⟨hagent, hjob, hdetails, hrest⟩ : a.agent = b.agent ∧ a.job = b.job ∧
          a.details.entries = b.details.entries ∧ a.status = b.status ∧ time = time' := by
        simpa using h
      exact ⟨hagent, hjob, hrest.1, hrest.2, Dict.ext_entries hdetails⟩

/-- With integers in their details, beats from 1970 on count as equal exactly if they have one
value. -/
theorem same_iff_toJson_eq (ha : 0 ≤ a.time.nanos) (hb : 0 ≤ b.time.nanos)
    (hwhole : IsWholeMembers a.details.entries) (hwhole' : IsWholeMembers b.details.entries) :
    a.same b = true ↔ a.toJson = b.toJson := by
  rw [same_iff_essence_eq, essence_of_isWhole hwhole, essence_of_isWhole hwhole']
  constructor
  · intro h
    rw [h]
  · intro h
    rw [toJson_of_nonneg ha, toJson_of_nonneg hb, Except.ok.injEq, Json.object.injEq] at h
    obtain ⟨hagent, hjob, hstatus, htime, hdetails⟩ := eq_of_inOrder_eq h
    have htime : a.time = b.time := by
      refine Instant.eq_of_members_eq (Instant.members_of_nonneg ha) ?_
      rw [List.reverse_injective htime]
      exact Instant.members_of_nonneg hb
    cases a
    cases b
    simp_all

/-! ## All together -/

/-- Two lists of calls make equal beats of one new beat exactly if they agree on the job, the time
and each detail, which are in either case what was set last, or what was there at first; of beats
that are equal already the same holds. Calls that set different things can change places. From 1970
on every document of a beat, whichever order its details have, is the value of the beat once the
members of all its objects are in order, and with integers in the details beats are equal exactly if
their values are. To be equal is an equivalence. -/
theorem built_alike_iff :
    (∀ (agent status : String) (time : Instant) (edits edits' : List Edit),
      let start : Beat := { agent, status, time }
      (start.build edits).same (start.build edits') = true ↔
        jobAfter "" edits = jobAfter "" edits' ∧
        timeAfter time edits = timeAfter time edits' ∧
        ∀ name, Agree (detailAfter name none edits) (detailAfter name none edits')) ∧
    (∀ a b : Beat, a.same b = true → ∀ edits edits' : List Edit,
      (a.build edits).same (b.build edits') = true ↔
        jobAfter a.job edits = jobAfter b.job edits' ∧
        timeAfter a.time edits = timeAfter b.time edits' ∧
        ∀ name, Agree (detailAfter name (a.details.find? name) edits)
          (detailAfter name (b.details.find? name) edits')) ∧
    (∀ (b : Beat) (before after : List Edit) (e e' : Edit), e.target ≠ e'.target →
      b.build (before ++ e :: e' :: after) = b.build (before ++ e' :: e :: after)) ∧
    (∀ (b : Beat) (edits edits' : List Edit), edits.Perm edits' →
      (edits.map Edit.target).Nodup → b.build edits = b.build edits') ∧
    (∀ b : Beat, 0 ≤ b.time.nanos → OrderlyMembers b.details.entries →
      ∃ j, b.toJson = .ok j ∧ ∀ d, b.IsDocumentOf d → d.canonical = j) ∧
    (∀ a b : Beat, 0 ≤ a.time.nanos → 0 ≤ b.time.nanos →
      IsWholeMembers a.details.entries → IsWholeMembers b.details.entries →
      (a.same b = true ↔ a.toJson = b.toJson)) ∧
    Equivalence fun a b : Beat => a.same b = true := by
  have hequivalence : Equivalence fun a b : Beat => a.same b = true := by
    simp only [same_iff_essence_eq]
    exact ⟨fun _ => rfl, Eq.symm, Eq.trans⟩
  refine ⟨?_, ?_, ?_, ?_, ?_, ?_, hequivalence⟩
  · intro agent status time edits edits' start
    exact same_build_iff (hequivalence.refl start) edits edits'
  · intro a b h edits edits'
    exact same_build_iff h edits edits'
  · intro b before after e e' h
    exact build_swap b before after h
  · intro b edits edits' hperm hdistinct
    exact build_perm hperm hdistinct b
  · intro b hnonneg horderly
    refine ⟨_, toJson_of_nonneg hnonneg, fun d hd => ?_⟩
    exact canonical_of_isDocumentOf horderly hd (toJson_of_nonneg hnonneg)
  · intro a b ha hb hwhole hwhole'
    exact same_iff_toJson_eq ha hb hwhole hwhole'

/-- A job that is taken back, and details that come in another order, one of them twice. -/
theorem built_alike_iff_set_again :
    let start : Beat := { agent := "a", status := "idle" }
    let a := start.build [.detail "n" (.number (.integer 1)), .job "x", .detail "m" .null, .job "",
      .detail "n" (.number (.integer 2))]
    let b := start.build [.detail "n" (.number (.integer 2)), .detail "m" .null]
    a.same b = true ∧ a.toJson = b.toJson ∧
      ¬ a.same (start.build [.detail "n" (.number (.integer 1)), .detail "m" .null]) = true := by
  intro start a b
  obtain ⟨hbuilt, -, -, -, -, hvalue, -⟩ := built_alike_iff
  have hsame : a.same b = true := by
    refine (hbuilt "a" "idle" .epoch _ _).mpr ⟨rfl, rfl, fun name => ?_⟩
    rw [Json.agree_iff]
    by_cases hn : "n" = name
    · subst hn
      rfl
    · by_cases hm : "m" = name
      · subst hm
        rfl
      · simp [detailAfter, lastGiven, Edit.detail?, hn, hm]
  have hwhole : ∀ n : Int, Number.isWord n = true →
      IsWholeMembers [("m", .null), ("n", .number (.integer n))] :=
    fun n h => ⟨trivial, h, trivial⟩
  refine ⟨hsame, ?_, fun h => ?_⟩
  · have htwo := hwhole 2 (by decide)
    exact (hvalue a b (by decide) (by decide) htwo htwo).mp hsame
  · -- The other list sets another number for one detail.
    have hn : some (Json.number (.integer 2)) = some (.number (.integer 1)) :=
      (Json.agree_iff _ _).mp (((hbuilt "a" "idle" .epoch _ _).mp h).2.2 "n")
    simp at hn

end AgentPulse.Beat
