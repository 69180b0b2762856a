import AgentPulse.Proofs.Beat.Layout

/-!
# Beats read back

The value of a beat is read as the beat (`ofJson_inOrder`), and so is its text, if the details are
whole and nested no deeper than the reader goes (`ofNode_layout`). Together: `written_read_back`.
-/

namespace AgentPulse.Beat

open Json (IsWholeMembers OrderlyMembers depthMembers toMemberNodes)
open Record (Draft Shape)

variable {b : Beat} {secs nanos : Nat}

/-! ## What is read -/

theorem tag?_name (i : Part) : shape.tag? (shape.name i) = some i := by cases i <;> rfl

/-- The details are added to a draft unless they are left out. -/
def withDetails (b : Beat) (d : Draft Part Part.Value) : Draft Part Part.Value :=
  if b.details.isEmpty then d else d.set .details b.details

theorem withDetails_of_ne {i : Part} (hi : i ≠ .details) (d : Draft Part Part.Value) :
    b.withDetails d i = d i := by
  rw [withDetails]
  split
  · rfl
  · exact dif_neg fun h => hi h.symm

theorem withDetails_details {d : Draft Part Part.Value} (h : d .details = none) :
    (b.withDetails d .details).getD Dict.empty = b.details := by
  rw [withDetails]
  split
  case isTrue hempty => rw [h, Dict.isEmpty_iff.mp hempty, Option.getD_none]
  case isFalse => rfl

/-- A draft of all fields of a beat, maybe without its details if there are none. -/
structure IsDraftOf (b : Beat) (d : Draft Part Part.Value) : Prop where
  agent : d .agent = some b.agent
  job : d .job = some b.job
  status : d .status = some b.status
  time : d .time = some b.time
  details : (d .details).getD Dict.empty = b.details

variable {d : Draft Part Part.Value}

theorem ofDraft_of_isDraftOf (h : b.IsDraftOf d) : ofDraft d = .ok b := by
  have hdetails : shape.require d .details = .ok b.details := by
    rw [← h.details, Shape.require]
    cases d .details <;> rfl
  have hfields : shape.require d .agent = .ok b.agent ∧ shape.require d .job = .ok b.job
      ∧ shape.require d .status = .ok b.status ∧ shape.require d .time = .ok b.time := by
    simp only [Shape.require, h.agent, h.job, h.status, h.time, and_self]
  rw [ofDraft, hfields.1, hfields.2.1, hfields.2.2.1, hfields.2.2.2, hdetails]
  rfl

theorem gather_details (h : d .details = none) (rest : List (String × Json)) :
    shape.gather (detailMembers b.details.entries ++ rest) d
      = shape.gather rest (b.withDetails d) := by
  rw [detailMembers, withDetails, Dict.isEmpty]
  split
  · rfl
  · exact Shape.gather_cons (tag?_name .details) h (Record.Field.jsonMap_ofJson _) rest

/-- The value of a beat is read as the beat. -/
theorem ofJson_inOrder (h : b.time.Amount secs nanos) :
    ofJson (.object (b.inOrder (Instant.fields secs nanos).reverse)) = .ok b := by
  have htext (s : String) : Record.Field.text.ofJson (.text s) = .ok s :=
    (Record.Field.text_reads 0 s).ofJson
  let d : Draft Part Part.Value := (Draft.blank.set .agent b.agent).set .job b.job
  let time : Json := .object (Instant.fields secs nanos).reverse
  have htime : Instant.field.ofJson time = .ok b.time := by
    rw [← (Instant.field_reads h 0).ofJson, Instant.canonical_fields]
  -- Whether there are details or not, the time has not been read before it comes.
  have hnotime : (b.withDetails d).set .status b.status .time = none :=
    (Draft.set_of_ne (by decide) _ _).trans (withDetails_of_ne (by decide) d)
  have hgather := calc shape.gather (b.inOrder (Instant.fields secs nanos).reverse) Draft.blank
    _ = shape.gather (("job_id", .text b.job) :: (detailMembers b.details.entries
            ++ [("status", .text b.status), ("timestamp", time)]))
          (Draft.blank.set .agent b.agent) := by
      rw [inOrder, List.append_assoc]
      exact Shape.gather_cons (tag?_name .agent) rfl (htext _) _
    _ = shape.gather (detailMembers b.details.entries
          ++ [("status", .text b.status), ("timestamp", time)]) d :=
      Shape.gather_cons (tag?_name .job) rfl (htext _) _
    _ = shape.gather [("status", .text b.status), ("timestamp", time)] (b.withDetails d) :=
      gather_details rfl _
    _ = shape.gather [("timestamp", time)] ((b.withDetails d).set .status b.status) :=
      Shape.gather_cons (tag?_name .status) (withDetails_of_ne (by decide) d) (htext _) _
    _ = shape.gather [] (((b.withDetails d).set .status b.status).set .time b.time) :=
      Shape.gather_cons (tag?_name .time) hnotime htime _
  have hdraft : b.IsDraftOf (((b.withDetails d).set .status b.status).set .time b.time) :=
    { agent := withDetails_of_ne (by decide) d
      job := withDetails_of_ne (by decide) d
      status := rfl
      time := rfl
      details := withDetails_details rfl }
  show shape.gather _ Draft.blank >>= ofDraft = _
  rw [hgather]
  exact ofDraft_of_isDraftOf hdraft

theorem gatherNodes_details {details : List (String × Json)}
    (hperm : details.Perm b.details.entries)
    (horderly : OrderlyMembers b.details.entries) (hwhole : IsWholeMembers b.details.entries)
    {levels : Nat} (hdepth : depthMembers b.details.entries ≤ levels) (hd : d .details = none) :
    shape.gatherNodes (levels + 1) (toMemberNodes (detailMembers details)) none d
      = .ok (b.withDetails d) := by
  have hread : Record.Field.jsonMap.ofNode (levels + 1) (Json.toNode (.object details))
      = .ok b.details := by
    rw [Record.Field.jsonMap_ofNode ((Json.isWholeMembers_perm hperm).mpr hwhole)
      (Json.depthMembers_perm hperm ▸ hdepth), Json.canonicalMembers_of_perm hperm horderly,
      Dict.ofList_of_perm hperm]
  rw [detailMembers, withDetails, Dict.isEmpty, hperm.isEmpty_eq]
  split
  · rfl
  · exact Shape.gatherNodes_cons (tag?_name .details) hd hread _ _

/-- The text of a beat is read as the beat. -/
theorem ofNode_layout (h : b.time.Amount secs nanos) {details : List (String × Json)}
    (hperm : details.Perm b.details.entries) (horderly : OrderlyMembers b.details.entries)
    (hwhole : IsWholeMembers b.details.entries) {levels : Nat}
    (hdepth : depthMembers b.details.entries ≤ levels) :
    ofNode (levels + 2) (Json.toNode (.object (b.layout (Instant.fields secs nanos) details)))
      = .ok b := by
  have htext (s : String) :
      Record.Field.text.ofNode (levels + 1) (Json.toNode (.text s)) = .ok s :=
    (Record.Field.text_reads (levels + 1) s).ofNode
  have htime := (Instant.field_reads h levels).ofNode
  let d : Draft Part Part.Value :=
    (((Draft.blank.set .agent b.agent).set .job b.job).set .status b.status).set .time b.time
  have hgather := calc
    shape.gatherNodes (levels + 1)
        (toMemberNodes (b.layout (Instant.fields secs nanos) details)) none Draft.blank
    _ = shape.gatherNodes (levels + 1) (toMemberNodes (("job_id", .text b.job)
          :: ("status", .text b.status) :: ("timestamp", .object (Instant.fields secs nanos))
          :: detailMembers details)) none (Draft.blank.set .agent b.agent) :=
      Shape.gatherNodes_cons (tag?_name .agent) rfl (htext _) _ _
    _ = shape.gatherNodes (levels + 1) (toMemberNodes (("status", .text b.status)
          :: ("timestamp", .object (Instant.fields secs nanos)) :: detailMembers details)) none
          ((Draft.blank.set .agent b.agent).set .job b.job) :=
      Shape.gatherNodes_cons (tag?_name .job) rfl (htext _) _ _
    _ = shape.gatherNodes (levels + 1) (toMemberNodes
          (("timestamp", .object (Instant.fields secs nanos)) :: detailMembers details)) none
          (((Draft.blank.set .agent b.agent).set .job b.job).set .status b.status) :=
      Shape.gatherNodes_cons (tag?_name .status) rfl (htext _) _ _
    _ = shape.gatherNodes (levels + 1) (toMemberNodes (detailMembers details)) none d :=
      Shape.gatherNodes_cons (tag?_name .time) rfl htime _ _
    _ = .ok (b.withDetails d) := gatherNodes_details hperm horderly hwhole hdepth rfl
  have hdraft : b.IsDraftOf (b.withDetails d) :=
    { agent := withDetails_of_ne (by decide) d
      job := withDetails_of_ne (by decide) d
      status := withDetails_of_ne (by decide) d
      time := withDetails_of_ne (by decide) d
      details := withDetails_details rfl }
  rw [ofNode, Json.toNode, Shape.ofNode_object, hgather]
  show Record.ofContent (ofDraft _) = _
  rw [ofDraft_of_isDraftOf hdraft]
  rfl

/-! ## Both together -/

/-- A beat whose text can be read: the numbers in its details are integers of 64 bits, and its value
is not nested too deep. -/
structure IsPortable (b : Beat) : Prop where
  whole : IsWholeMembers b.details.entries
  shallow : ∀ j, b.toJson = .ok j → j.depth ≤ Json.maxLevels

theorem ofJson_toJson (hfits : b.time.Fits) {j : Json} (hj : b.toJson = .ok j) :
    ofJson j = .ok b := by
  obtain ⟨secs, nanos, -, hamount, rfl⟩ := exists_inOrder hfits hj
  exact ofJson_inOrder hamount

/-- Every text of a beat is read as the beat, and parsed as its value. -/
theorem ofText_of_isTextOf (hb : b.IsProper) (hportable : b.IsPortable) {j : Json}
    (hj : b.toJson = .ok j) {text : String} (htext : b.IsTextOf text) :
    ofText text = .ok b ∧ Json.parse Json.maxLevels text = .ok j := by
  have hdepth := hportable.shallow j hj
  obtain ⟨secs, nanos, htime, hamount, rfl⟩ := exists_inOrder hb.fits hj
  obtain ⟨time, details, htime', hperm, rfl⟩ := htext
  obtain rfl : Instant.fields secs nanos = time := Except.ok.inj (htime.symm.trans htime')
  -- Of the levels of a document one is for the beat and one for the object of its details.
  rw [depth_inOrder b rfl] at hdepth
  have hwhole : (Json.object (b.layout (Instant.fields secs nanos) details)).IsWhole :=
    isWholeMembers_layout hamount ((Json.isWholeMembers_perm hperm).mpr hportable.whole)
  constructor
  · have hnode : ofNode Json.maxLevels _ = .ok b :=
      ofNode_layout hamount hperm hb.orderly hportable.whole
        (show depthMembers b.details.entries ≤ 125 from Nat.le_of_add_le_add_right hdepth)
    rw [ofText, Record.ofText, Json.Document.ofText_compact hwhole]
    show (ofNode Json.maxLevels _ >>= fun b => if false = true then _ else .ok b) = _
    rw [hnode]
    rfl
  · rw [Json.parse_compact hwhole, canonical_layout hperm hb.orderly]
    rwa [b.depth_layout rfl, Json.depthMembers_perm hperm]

/-- A beat can be written, as a value and as a text, exactly if it is not from before 1970. The
value is read as the beat; so is every text, and it is parsed as the value, if the numbers in the
details are integers of 64 bits and the value is nested no deeper than documents may be. So beats
with the same value or text are the same, an empty job is kept, and details that are left out come
back empty. -/
theorem written_read_back (hb : b.IsProper) :
    ((∃ j, b.toJson = .ok j) ↔ 0 ≤ b.time.nanos)
      ∧ ((∃ text, b.toText = .ok text) ↔ 0 ≤ b.time.nanos)
      ∧ (∀ text, b.toText = .ok text → b.IsTextOf text)
      ∧ ∀ j, b.toJson = .ok j →
        ofJson j = .ok b
        ∧ (b.IsPortable → ∀ text, b.IsTextOf text →
            ofText text = .ok b ∧ Json.parse Json.maxLevels text = .ok j
              ∧ ∀ b' : Beat, b'.IsProper → b'.IsPortable → b'.IsTextOf text → b' = b)
        ∧ (∀ b' : Beat, b'.IsProper → b'.toJson = .ok j → b' = b)
        ∧ j.member? "job_id" = some (.text b.job)
        ∧ (j.member? "metadata" = none ↔ b.details = Dict.empty) := by
  refine ⟨exists_toJson_iff, exists_toText_iff, fun text => isTextOf_toText, fun j hj => ?_⟩
  have hread := ofJson_toJson hb.fits hj
  refine ⟨hread, fun hportable text htext => ?_, fun b' hb' hj' => ?_, ?_⟩
  · obtain ⟨htextRead, hparse⟩ := ofText_of_isTextOf hb hportable hj htext
    refine ⟨htextRead, hparse, fun b' hb' hportable' htext' => ?_⟩
    obtain ⟨j', hj'⟩ := exists_toJson_of_isTextOf htext'
    exact Except.ok.inj ((ofText_of_isTextOf hb' hportable' hj' htext').1.symm.trans htextRead)
  · exact Except.ok.inj ((ofJson_toJson hb'.fits hj').symm.trans hread)
  · obtain ⟨secs, nanos, -, -, rfl⟩ := exists_inOrder hb.fits hj
    exact member?_inOrder b _

/-- A beat with an empty job, a quote in its key and nested details. -/
def nested : Beat where
  agent := "a\"b"
  status := "idle"
  time := ⟨1500000000⟩
  details := ⟨[("k", .array [.null, .object [("x", .number (.integer (-5)))]]), ("z", .text "\n")],
    List.pairwise_pair.mpr (show "k" < "z" by decide)⟩

/-- The nested beat is read off its value, and off its text with the details in reverse. -/
theorem nested_read_back :
    ∃ j, nested.toJson = .ok j ∧ ofJson j = .ok nested
      ∧ ofText (Json.object (nested.layout (Instant.fields 1 500000000)
          nested.details.entries.reverse)).compact = .ok nested := by
  have hproper : nested.IsProper :=
    ⟨by decide, ⟨trivial, ⟨List.pairwise_singleton _ _, trivial, trivial⟩, trivial⟩, trivial,
      trivial⟩
  have hportable : nested.IsPortable := by
    refine ⟨⟨⟨trivial, ⟨(show Number.isWord (-5) = true by decide), trivial⟩, trivial⟩, trivial,
      trivial⟩, fun j hj => ?_⟩
    obtain ⟨secs, nanos, -, -, rfl⟩ := exists_inOrder hproper.fits hj
    rw [depth_inOrder nested rfl]
    decide
  obtain ⟨hvalue, -, -, hread⟩ := written_read_back hproper
  obtain ⟨j, hj⟩ := hvalue.mpr (by decide)
  obtain ⟨hjson, htext, -⟩ := hread j hj
  have hreversed := htext hportable _ ⟨Instant.fields 1 500000000, _, rfl, List.reverse_perm _, rfl⟩
  exact ⟨j, hj, hjson, hreversed.1⟩

end AgentPulse.Beat
