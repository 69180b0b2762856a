import AgentPulse.Bus.Totals
import AgentPulse.Proofs.Beat.Fields
import AgentPulse.Proofs.Record.Presentation
import AgentPulse.Server.Basic

/-!
# What presentation has no part in

Beats, totals and servers are read the same however their texts present them: with their fields in
any order, with unknown fields among them, with defaults left out, or as arrays. That is so of the
time of a beat as well, which admits no unknown fields. A field that is given twice is refused, but
in a map the last value under a name stays. Main statement: `read_however_presented`.
-/

namespace AgentPulse

open Record (Draft Mistake ReadError Setting Shape)
open Json (Node)

/-! ## Records that can be presented freely -/

theorem Totals.isOpen : Totals.shape.IsOpen where
  names := rfl
  order := by decide
  tag i := by cases i <;> rfl
  check _ := rfl

theorem Totals.ofDraft_congr (d d' : Draft Totals.Part fun _ => Nat)
    (h : Totals.shape.require d = Totals.shape.require d') :
    Totals.ofDraft d = Totals.ofDraft d' := by
  rw [Totals.ofDraft, Totals.ofDraft, h]

theorem Instant.isRegular : Instant.shape.IsRegular where
  order := by decide
  tag := Instant.tag?_name
  check d d' h := by
    have heq : ∀ i, d i = d' i := fun i => Shape.eq_of_require_eq rfl (congrFun h i)
    show Instant.checkParts (d .secs) (d .nanos) = Instant.checkParts (d' .secs) (d' .nanos)
    rw [heq, heq]

theorem Instant.ofDraft_congr (d d' : Draft Instant.Part fun _ => Nat)
    (h : Instant.shape.require d = Instant.shape.require d') :
    Instant.ofDraft d = Instant.ofDraft d' := by
  rw [Instant.ofDraft, Instant.ofDraft, h]

namespace Server

theorem isOpen : shape.IsOpen where
  names := rfl
  order := by decide
  tag i := by cases i <;> rfl
  check _ := rfl

theorem ofDraft_congr (d d' : Draft Part Part.Value) (h : shape.require d = shape.require d') :
    ofDraft d = ofDraft d' := by
  rw [ofDraft, ofDraft, h]

theorem ofDraft_set_env {d : Draft Part Part.Value} {s : Server} (h : ofDraft d = .ok s)
    (env : Dict String) : ofDraft (d.set .env env) = .ok { s with env } := by
  obtain ⟨name, hname, h⟩ := bind_eq_ok.mp h
  obtain ⟨command, hcommand, h⟩ := bind_eq_ok.mp h
  obtain ⟨args, hargs, h⟩ := bind_eq_ok.mp h
  obtain ⟨_, -, h⟩ := bind_eq_ok.mp h
  cases h
  have hname' : shape.require (d.set .env env) .name = .ok name := hname
  have hcommand' : shape.require (d.set .env env) .command = .ok command := hcommand
  have hargs' : shape.require (d.set .env env) .args = .ok args := hargs
  rw [ofDraft, hname', hcommand', hargs']
  rfl

end Server

/-- The time of a beat can be presented freely, wherever it stands. -/
theorem Beat.readsFreely_time {c : Setting Node Node} (hc : c.IsNodeAt Beat.shape .time) :
    Instant.shape.ReadsFreely c.fill Beat.ofText := by
  refine Shape.readsFreely_of (fun n n' h => ?_) fun n h => ?_
  · have htime : (Instant.ofNode 126 n).toOption = (Instant.ofNode 126 n').toOption :=
      Shape.toOption_made_of_same Instant.isRegular Instant.ofDraft_congr h
    show (Beat.shape.ofNode 127 (c.fill n) >>= _).toOption = _
    rw [toOption_bind, Shape.toOption_ofNode_fill_congr Beat.isOpen hc htime, ← toOption_bind]
    rfl
  · have htime : (Instant.ofNode 126 n).toOption = none :=
      Shape.toOption_made_of_flawed Instant.isRegular Instant.ofDraft h
    show (Beat.shape.ofNode 127 (c.fill n) >>= _).toOption = _
    rw [toOption_bind, Shape.toOption_ofNode_fill_none Beat.isOpen hc htime]
    rfl

/-! ## Main statement -/

/-- The text of an event, of totals or of a server is read as the same, or refused, with its fields
in any order, with unknown fields at any places, with fields left out that hold their default, and
as the array of its fields, where defaults at the end may be missing. The time of an event can be
presented as freely, but an unknown field in it is refused, as is a field at two places in any of
these. In the details of an event and the environment of a server the last value under a name is
the one that is read, and all of them must be readable: a detail within the levels that are left of
127 inside the two objects around it, a variable as a text. -/
theorem read_however_presented :
    Beat.shape.ReadsFreely id Beat.ofText ∧ Totals.shape.ReadsFreely id Totals.ofText ∧
    Server.shape.ReadsFreely id Server.ofText ∧
    (∀ c : Setting Node Node, c.IsNodeAt Beat.shape .time →
      Instant.shape.ReadsFreely c.fill Beat.ofText) ∧
    Beat.shape.KeepsLast .details (fun n => (n.read 125).toOption) Beat.ofText
      (fun b details => { b with details }) ∧
    Server.shape.KeepsLast .env (fun n => (Record.Field.text.ofNode 0 n).toOption) Server.ofText
      (fun s env => { s with env }) :=
  ⟨Shape.readsFreely Beat.isOpen.isRegular Beat.ofDraft_congr,
    Shape.readsFreely Totals.isOpen.isRegular Totals.ofDraft_congr,
    Shape.readsFreely Server.isOpen.isRegular Server.ofDraft_congr,
    fun _ hc => Beat.readsFreely_time hc,
    Shape.keepsLast Beat.isOpen (i := .details) Beat.ofDraft_set_details id
      (Record.Field.toOption_jsonMap 125),
    Shape.keepsLast Server.isOpen (i := .env) Server.ofDraft_set_env id
      (Record.Field.toOption_textMap 125)⟩

/-- Events and servers in several presentations: with unknown fields around fields in another order,
as arrays, with a field at two places, with an unknown field in the time, and with a name at two
places of the details. -/
theorem read_however_presented_in_some_ways :
    let secs : String × Json := ("secs_since_epoch", .number (.integer 1))
    let nanos : String × Json := ("nanos_since_epoch", .number (.integer 2))
    let event (time : List (String × Json)) : List (String × Json) := [("agent_key", .text "a"),
      ("job_id", .text ""), ("status", .text "idle"), ("timestamp", .object time)]
    let beat : Beat := { agent := "a", status := "idle", time := .ofParts 1 2 }
    let text (members : List (String × Json)) : String := (Json.object members).compact
    (Beat.ofText (text (("note", .null) :: (event [secs, nanos]).reverse
      ++ [("note", .array [])]))).toOption = some beat ∧
    (Beat.ofText (Json.array ((event [secs, nanos]).map Prod.snd)).compact).toOption = some beat ∧
    (Beat.ofText (text (event [nanos, secs]))).toOption = some beat ∧
    (¬∃ b, Beat.ofText (text (event [secs, nanos] ++ [("status", .text "idle")])) = .ok b) ∧
    (¬∃ b, Beat.ofText (text (event [secs, nanos, ("note", .null)])) = .ok b) ∧
    (∃ d, Beat.ofText (text (event [secs, nanos] ++ [("metadata", .object
        [("k", .boolean true), ("l", .null), ("k", .boolean false)])]))
      = .ok { beat with details := d } ∧ d.find? "k" = some (.boolean false)) ∧
    (Server.ofText (Json.array [.text "n", .text "c"]).compact).toOption
      = (Server.ofText (text [("name", .text "n"), ("command", .text "c"), ("args", .array []),
          ("env", .object [])])).toOption := by
  intro secs nanos event beat text
  obtain ⟨hbeat, -, hserver, htime, hdetails, -⟩ := read_however_presented
  have hdocument : ∀ j : Json, j.IsWhole →
      Json.Document.ofText j.compact = ⟨Json.toNode j, false⟩ :=
    fun _ hj => Json.Document.ofText_compact hj
  have hevent := hdocument (.object (event [secs, nanos]))
    ⟨trivial, trivial, trivial, ⟨rfl, rfl, trivial⟩, trivial⟩
  have hread : (Beat.ofText (text (event [secs, nanos]))).toOption = some beat :=
    congrArg Except.toOption (Record.ofText_of_document Beat.ofNode hevent)
  have htimePlace : Setting.IsNodeAt Beat.shape .time (.member (Json.toMemberNodes
      [("agent_key", .text "a"), ("job_id", .text ""), ("status", .text "idle")])
        (.text (Json.units "timestamp")) []) :=
    congrArg Except.toOption (Json.readName_units "timestamp")
  refine ⟨?_, ?_, ?_, ?_, ?_, ?_, ?_⟩
  · have hforeign : ∀ m ∈ Json.toMemberNodes [("note", .null), ("note", .array [])],
        Beat.shape.IsForeign m :=
      List.forall_mem_cons.mpr ⟨⟨⟨"note", Json.readName_units _, rfl⟩, trivial⟩,
        List.forall_mem_singleton.mpr ⟨⟨"note", Json.readName_units _, rfl⟩,
          Json.isFormed_toNode (.array [])⟩⟩
    have hperm := (((List.reverse_perm (Json.toMemberNodes (event [secs, nanos]))).append_right
      (Json.toMemberNodes [("note", .array [])])).cons
        (Node.text (Json.units "note"), Node.null)).trans List.perm_middle.symm
    have htext := hdocument
      (.object (("note", .null) :: (event [secs, nanos]).reverse ++ [("note", Json.array [])]))
      ⟨trivial, ⟨rfl, rfl, trivial⟩, trivial, trivial, trivial, trivial, trivial⟩
    exact (hbeat.same _ _ _ _ false (.foreign rfl hperm hforeign) hevent htext).symm.trans hread
  · have harray := @Shape.SameRecord.array _ _ Beat.shape
      (Json.toMemberNodes (event [secs, nanos])) [.agent, .job, .status, .time] [.details] rfl
      (List.forall_mem_singleton.mpr rfl) rfl
    have htext := hdocument (.array ((event [secs, nanos]).map Prod.snd))
      ⟨trivial, trivial, trivial, ⟨rfl, rfl, trivial⟩, trivial⟩
    exact (hbeat.same _ _ _ _ false harray hevent htext).symm.trans hread
  · have htext := hdocument (.object (event [nanos, secs]))
      ⟨trivial, trivial, trivial, ⟨rfl, rfl, trivial⟩, trivial⟩
    exact ((htime _ htimePlace).same (Json.toNode (.object [secs, nanos])) _ _ _ false
      (.order (.swap _ _ _)) hevent htext).symm.trans hread
  · have htwice := @Shape.Flawed.twice _ _ Beat.shape
      (Json.toMemberNodes [("agent_key", .text "a"), ("job_id", .text "")])
      (Json.toMemberNodes [("timestamp", .object [secs, nanos])]) [] (.text (Json.units "status"))
      (.text (Json.units "status")) (Json.toNode (.text "idle")) (Json.toNode (.text "idle"))
      .status none (Json.readName_units _) (Json.readName_units _)
    have htext := hdocument (.object (event [secs, nanos] ++ [("status", Json.text "idle")]))
      ⟨trivial, trivial, trivial, ⟨rfl, rfl, trivial⟩, trivial, trivial⟩
    exact hbeat.flawed _ _ false htwice htext
  · have hunknown := @Shape.Flawed.unknown _ _ Instant.shape
      (Json.toMemberNodes [secs, nanos, ("note", .null)]) (.text (Json.units "note"), .null) "note"
      none rfl (.tail _ (.tail _ (.head _))) (Json.readName_units "note") rfl
    have htext := hdocument (.object (event [secs, nanos, ("note", .null)]))
      ⟨trivial, trivial, trivial, ⟨rfl, rfl, trivial, trivial⟩, trivial⟩
    exact (htime _ htimePlace).flawed _ _ false hunknown htext
  · let c : Setting Node Node := .member (Json.toMemberNodes (event [secs, nanos]))
      (.text (Json.units "metadata")) []
    have hplace : c.IsNodeAt Beat.shape .details :=
      congrArg Except.toOption (Json.readName_units "metadata")
    have hempty := hdocument (.object (event [secs, nanos] ++ [("metadata", Json.object [])]))
      ⟨trivial, trivial, trivial, ⟨rfl, rfl, trivial⟩, trivial, trivial⟩
    have htext := hdocument (.object (event [secs, nanos] ++ [("metadata", Json.object
        [("k", .boolean true), ("l", .null), ("k", .boolean false)])]))
      ⟨trivial, trivial, trivial, ⟨rfl, rfl, trivial⟩, ⟨trivial, trivial, trivial, trivial⟩,
        trivial⟩
    obtain ⟨d, hd, hfind⟩ := (hdetails c (.object [] none) _ beat hplace hempty
      (Record.ofText_of_document Beat.ofNode hempty) _ _ htext).2
      [("k", .boolean true), ("l", .null), ("k", .boolean false)] rfl
    exact ⟨d, hd, hfind "k"⟩
  · have hother : ∀ a b : String, a ≠ b → (Node.text (Json.units a)).readName ≠ .ok b :=
      fun a b hne h => hne (Except.ok.inj ((Json.readName_units a).symm.trans h))
    have harray := @Shape.SameRecord.array _ _ Server.shape
      (Json.toMemberNodes [("name", .text "n"), ("command", .text "c")]) [.name, .command]
      [.args, .env] rfl (List.forall_mem_cons.mpr ⟨rfl, List.forall_mem_singleton.mpr rfl⟩) rfl
    have hargs := @Shape.SameRecord.leftOut _ _ Server.shape
      (Json.toMemberNodes [("name", .text "n"), ("command", .text "c")]) .args
      (.text (Json.units "args")) (.array [] none) []
      (List.forall_mem_cons.mpr ⟨hother _ _ (by decide), List.forall_mem_singleton.mpr
        (hother _ _ (by decide))⟩) (Json.readName_units _) rfl fun _ => rfl
    have henv := @Shape.SameRecord.leftOut _ _ Server.shape
      (Json.toMemberNodes [("name", .text "n"), ("command", .text "c"), ("args", .array [])]) .env
      (.text (Json.units "env")) (.object [] none) Dict.empty
      (List.forall_mem_cons.mpr ⟨hother _ _ (by decide), List.forall_mem_cons.mpr
        ⟨hother _ _ (by decide), List.forall_mem_singleton.mpr (hother _ _ (by decide))⟩⟩)
      (Json.readName_units _) rfl fun _ => rfl
    have hshort := hdocument (.array [.text "n", .text "c"]) ⟨trivial, trivial, trivial⟩
    have hlong := hdocument (.object [("name", .text "n"), ("command", .text "c"),
      ("args", .array []), ("env", .object [])]) ⟨trivial, trivial, trivial, trivial, trivial⟩
    exact hserver.same _ _ _ _ false (harray.symm.trans (hargs.trans henv)) hshort hlong

end AgentPulse
