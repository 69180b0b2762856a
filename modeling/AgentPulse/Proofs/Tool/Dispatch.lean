import Mathlib.Data.List.Dedup
import AgentPulse.Proofs.Dict
import AgentPulse.Proofs.LastGiven
import AgentPulse.Proofs.Session.Run
import AgentPulse.Proofs.Tool.Deciding
import AgentPulse.Proofs.Tool.Listing

/-!
# The tool that was registered last is used

What can be asked of a toolbox is put side by side with a ledger that keeps every tool ever
registered, in their order, and looks for the last one of a name (`Ledger.serve`). A toolbox is in
line with a ledger when it finds that one under each name (`InLine`). One request is answered the
same by both and leaves them in line (`InLine.serve`), so all requests of a run are
(`InLine.answers_eq`), from no tools or from the built-in ones on.

That a toolbox answers that there is no tool of a name does not say by itself that none was
registered: the answer of a tool is handed on as it is, and a tool may give just this one
(`unknown_though_registered`).

Main statement: `last_registered_is_used`.
-/

namespace AgentPulse.Toolbox

open Tool (Arguments Builtin Failure)
open Files (Tree Place)

universe u

/-! ## Requests -/

/-- What can be asked of a toolbox. -/
inductive Request where
  | register (tool : Tool)
  | invoke (name : String) (args : Arguments)
  | find (name : String)
  | names

/-- What is said to a request. -/
inductive Answer where
  | done
  | invoked (answer : Except Failure String)
  | tool (t : Option Tool)
  | names (ns : List String)

/-- The tool that a request registers. -/
def Request.tool? : Request → Option Tool
  | .register tool => some tool
  | _ => none

/-- The answers to requests that are made one after the other, with what is noted meanwhile. -/
def answers {σ : Type u} (serve : σ → Request → (Answer × List Notice) × σ) (s : σ) :
    List Request → List (Answer × List Notice)
  | [] => []
  | r :: requests => (serve s r).1 :: answers serve (serve s r).2 requests

/-- What requests lead to. -/
def after {σ : Type u} (serve : σ → Request → (Answer × List Notice) × σ) (s : σ)
    (requests : List Request) : σ :=
  requests.foldl (fun s r => (serve s r).2) s

/-- A toolbox and the files that its tools work on. -/
structure Bench where
  toolbox : Toolbox
  tree : Tree

/-- What a request comes to at a bench. -/
def Bench.serve (here : Place) (w : Bench) : Request → (Answer × List Notice) × Bench
  | .register tool =>
    let (toolbox, notices) := w.toolbox.register tool
    ((.done, notices), { w with toolbox })
  | .invoke name args =>
    let (answer, tree, notices) := w.toolbox.invoke name args w.tree here
    ((.invoked answer, notices), { w with tree })
  | .find name => ((.tool (w.toolbox.find? name), []), w)
  | .names => ((.names w.toolbox.names, []), w)

/-! ## Ledgers -/

/-- The last of some tools that has a name. -/
def lastNamed (name : String) (tools : List Tool) : Option Tool :=
  lastGiven (fun tool => if tool.name = name then some tool else none) tools

/-- All tools that were registered, in their order, and the files that they work on. -/
structure Ledger where
  tools : List Tool
  tree : Tree

/-- What a request comes to by the ledger. -/
def Ledger.serve (here : Place) (l : Ledger) : Request → (Answer × List Notice) × Ledger
  | .register tool =>
    let notices := if tool.name ∈ l.tools.map (·.name) then [Notice.replacingTool tool.name] else []
    ((.done, notices), { l with tools := l.tools ++ [tool] })
  | .invoke name args =>
    match lastNamed name l.tools with
    | none => ((.invoked (.error (.unknownTool name)), []), l)
    | some tool =>
      let (answer, tree, notices) := tool.invoke args l.tree here
      ((.invoked answer, .invokingTool name :: notices), { l with tree })
  | .find name => ((.tool (lastNamed name l.tools), []), l)
  | .names => ((.names (Tool.ascending (l.tools.map (·.name)).dedup), []), l)

variable {box : Toolbox} {tool : Tool} {tools : List Tool} {name : String}

/-- The last tool of a name has it, and no tool after that one has. -/
theorem lastNamed_eq_some_iff : lastNamed name tools = some tool ↔
    ∃ before after, tools = before ++ tool :: after ∧ tool.name = name ∧
      ∀ other ∈ after, other.name ≠ name := by
  rw [lastNamed, lastGiven_eq_some_iff]
  constructor
  · rintro ⟨before, given, after, hsplit, hgiven, hafter⟩
    obtain ⟨hname, hsome⟩ := Option.ite_none_right_eq_some.mp hgiven
    cases hsome
    exact ⟨before, after, hsplit, hname, fun other ho => by simpa using hafter other ho⟩
  · rintro ⟨before, after, hsplit, hname, hafter⟩
    exact ⟨before, tool, after, hsplit, if_pos hname, fun other ho => if_neg (hafter other ho)⟩

theorem lastNamed_eq_none_iff : lastNamed name tools = none ↔ ∀ tool ∈ tools, tool.name ≠ name := by
  rw [lastNamed, lastGiven_eq_none_iff]
  exact forall₂_congr fun tool _ => by simp

theorem lastNamed_isSome_iff : (lastNamed name tools).isSome ↔ name ∈ tools.map (·.name) := by
  rw [Option.isSome_iff_ne_none, ne_eq, lastNamed_eq_none_iff, List.mem_map]
  push Not
  rfl

theorem lastNamed_concat (name : String) (tools : List Tool) (tool : Tool) :
    lastNamed name (tools ++ [tool]) =
      if tool.name = name then some tool else lastNamed name tools := by
  rw [lastNamed, lastGiven_append, lastGiven_singleton]
  split <;> rfl

/-! ## Toolboxes -/

theorem find?_register (box : Toolbox) (tool : Tool) (name : String) :
    (box.register tool).1.find? name = if tool.name = name then some tool else box.find? name := by
  show (box.tools.insert tool.name tool).find? name = _
  rw [Dict.find?_insert]
  by_cases h : tool.name = name
  · rw [if_pos h, if_pos h.symm]
  · rw [if_neg h, if_neg (Ne.symm h)]
    rfl

theorem invoke_of_find? (h : box.find? name = some tool) (args : Arguments) (t : Tree)
    (here : Place) : box.invoke name args t here =
      ((tool.invoke args t here).1, (tool.invoke args t here).2.1,
        .invokingTool name :: (tool.invoke args t here).2.2) := by
  rw [invoke, h]

theorem invoke_of_find?_eq_none (h : box.find? name = none) (args : Arguments) (t : Tree)
    (here : Place) : box.invoke name args t here = (.error (.unknownTool name), t, []) := by
  rw [invoke, h]

/-- With no tool of a name the toolbox itself answers, and nothing is noted. -/
theorem invoke_eq_unknown_iff {args : Arguments} {t : Tree} {here : Place} :
    box.invoke name args t here = (.error (.unknownTool name), t, []) ↔ box.find? name = none := by
  refine ⟨fun h => ?_, fun h => invoke_of_find?_eq_none h args t here⟩
  cases hfind : box.find? name with
  | none => rfl
  | some tool =>
    -- The notice of an invocation gives away that there is a tool.
    rw [invoke_of_find? hfind] at h
    injection h with _ h
    injection h with _ hnotices
    exact absurd hnotices (List.cons_ne_nil _ _)

/-- The answer that there is no tool of a name comes from the toolbox, which has none, or is that of
the tool of the name itself. -/
theorem invoke_unknown_iff {args : Arguments} {t : Tree} {here : Place} :
    (box.invoke name args t here).1 = .error (.unknownTool name) ↔
      box.find? name = none ∨
        ∃ tool, box.find? name = some tool ∧
          (tool.invoke args t here).1 = .error (.unknownTool name) := by
  cases hfind : box.find? name with
  | none =>
    rw [invoke_of_find?_eq_none hfind]
    exact ⟨fun _ => .inl rfl, fun _ => rfl⟩
  | some tool =>
    rw [invoke_of_find? hfind]
    constructor
    · exact fun hanswer => .inr ⟨tool, rfl, hanswer⟩
    · rintro (hnone | ⟨other, hother, hanswer⟩)
      · cases hnone
      · cases hother
        exact hanswer

theorem invoke_congr {box' : Toolbox} (h : box.find? name = box'.find? name) (args : Arguments)
    (t : Tree) (here : Place) : box.invoke name args t here = box'.invoke name args t here := by
  rw [invoke, invoke, h]

/-- Tools of different names can be registered in any order. -/
theorem register_comm {tool other : Tool} (h : tool.name ≠ other.name) (box : Toolbox) :
    ((box.register tool).1.register other).1 = ((box.register other).1.register tool).1 :=
  congrArg Toolbox.mk (Dict.insert_comm h box.tools tool other)

/-- A request that registers nothing leaves the toolbox as it is. -/
theorem toolbox_serve {r : Request} (h : r.tool? = none) (here : Place) (w : Bench) :
    (w.serve here r).2.toolbox = w.toolbox := by
  cases r with
  | register tool => cases h
  | invoke | find | names => rfl

/-! ## In line -/

/-- The toolbox finds under each name the last tool of the ledger, and both have the same files. -/
structure InLine (w : Bench) (l : Ledger) : Prop where
  find? : ∀ name, w.toolbox.find? name = lastNamed name l.tools
  tree : w.tree = l.tree

namespace InLine

variable {w : Bench} {l : Ledger}

theorem mem_names (h : InLine w l) : name ∈ w.toolbox.names ↔ name ∈ l.tools.map (·.name) := by
  rw [names, Dict.mem_keys, ← lastNamed_isSome_iff, ← h.find? name]
  rfl

theorem names_eq (h : InLine w l) :
    w.toolbox.names = Tool.ascending (l.tools.map (·.name)).dedup := by
  have hperm : w.toolbox.names.Perm (l.tools.map (·.name)).dedup := by
    refine (List.perm_ext_iff_of_nodup w.toolbox.tools.keys_nodup (List.nodup_dedup _)).mpr ?_
    intro name
    rw [List.mem_dedup]
    exact h.mem_names
  have hascending : w.toolbox.names.Pairwise (· ≤ ·) :=
    w.toolbox.tools.keys_ascending.imp fun hlt => String.lt_asymm hlt
  refine List.Perm.eq_of_pairwise (fun a b _ _ => String.le_antisymm) hascending
    (Tool.pairwise_ascending _) ?_
  exact hperm.trans (Tool.ascending_perm _).symm

theorem register (h : InLine w l) (tool : Tool) :
    InLine { w with toolbox := (w.toolbox.register tool).1 }
      { l with tools := l.tools ++ [tool] } := by
  refine ⟨fun name => ?_, h.tree⟩
  rw [find?_register, lastNamed_concat, h.find? name]

/-- One request is answered the same by both and leaves them in line. -/
theorem serve (h : InLine w l) (here : Place) (r : Request) :
    (w.serve here r).1 = (l.serve here r).1 ∧ InLine (w.serve here r).2 (l.serve here r).2 := by
  cases r with
  | register tool =>
    refine ⟨?_, h.register tool⟩
    have hcontains : w.toolbox.tools.contains tool.name = true ↔
        tool.name ∈ l.tools.map (·.name) := by
      rw [← lastNamed_isSome_iff, ← h.find? tool.name]
      rfl
    show (Answer.done, if w.toolbox.tools.contains tool.name = true then _ else _)
      = (Answer.done, if tool.name ∈ l.tools.map (·.name) then _ else _)
    simp only [hcontains]
  | invoke name args =>
    rw [Bench.serve, Ledger.serve]
    have hfind := h.find? name
    cases hlast : lastNamed name l.tools with
    | none =>
      rw [invoke_of_find?_eq_none (hfind.trans hlast)]
      exact ⟨rfl, h⟩
    | some tool =>
      rw [invoke_of_find? (hfind.trans hlast), h.tree]
      exact ⟨rfl, h.find?, rfl⟩
  | find name =>
    exact ⟨congrArg (fun t => (Answer.tool t, [])) (h.find? name), h⟩
  | names => exact ⟨congrArg (fun ns => (Answer.names ns, [])) h.names_eq, h⟩

theorem after (h : InLine w l) (here : Place) (requests : List Request) :
    InLine (Toolbox.after (Bench.serve here) w requests)
      (Toolbox.after (Ledger.serve here) l requests) := by
  induction requests generalizing w l with
  | nil => exact h
  | cons r requests ih => exact ih (h.serve here r).2

theorem answers_eq (h : InLine w l) (here : Place) (requests : List Request) :
    answers (Bench.serve here) w requests = answers (Ledger.serve here) l requests := by
  induction requests generalizing w l with
  | nil => rfl
  | cons r requests ih =>
    obtain ⟨hanswer, hnext⟩ := h.serve here r
    rw [answers, answers, hanswer, ih hnext]

end InLine

/-- A ledger has got the tools that were registered, in their order. -/
theorem tools_after (here : Place) (l : Ledger) (requests : List Request) :
    (after (Ledger.serve here) l requests).tools = l.tools ++ requests.filterMap (·.tool?) := by
  induction requests generalizing l with
  | nil => exact (List.append_nil _).symm
  | cons r requests ih =>
    have hserve : (l.serve here r).2.tools = l.tools ++ r.tool?.toList := by
      cases r with
      | register tool => rfl
      | invoke name args =>
        rw [Ledger.serve]
        split <;> exact (List.append_nil _).symm
      | find | names => exact (List.append_nil _).symm
    refine (ih _).trans ?_
    rw [hserve, List.append_assoc, List.filterMap_cons]
    cases r.tool? <;> rfl

/-! ## Beginnings -/

/-- A toolbox to begin with: with the built-in tools, or without. -/
def opening (withBuiltins : Bool) : Toolbox := if withBuiltins then builtins else empty

/-- The tools that are in the toolbox to begin with, in the order that they were registered. -/
def openingTools (withBuiltins : Bool) : List Tool :=
  if withBuiltins then Builtin.all.map .builtin else []

theorem find?_foldl_register (tools : List Tool) (box : Toolbox) (name : String) :
    (tools.foldl (fun box tool => (box.register tool).1) box).find? name =
      (lastNamed name tools).or (box.find? name) := by
  refine foldl_eq_lastGiven (fun box : Toolbox => box.find? name) (fun box tool => ?_) tools box
  rw [find?_register]
  split <;> rfl

theorem inLine_opening (withBuiltins : Bool) (t : Tree) :
    InLine ⟨opening withBuiltins, t⟩ ⟨openingTools withBuiltins, t⟩ := by
  refine ⟨fun name => ?_, rfl⟩
  cases withBuiltins with
  | false => rfl
  | true =>
    have hfind := find?_foldl_register (Builtin.all.map .builtin) empty name
    rw [List.foldl_map] at hfind
    exact hfind.trans Option.or_none

/-! ## Requests in a session -/

/-- The step of a session in which a request is made. -/
def Request.step : Request → Session.Step
  | .register tool => .registerTool tool
  | .invoke name args => .invoke name args
  | .find name => .tool name
  | .names => .toolNames

/-- To a session a request does what it does to its toolbox and its files. -/
theorem session_step (s : Session) (r : Request) : (s.step r.step).session =
    { s with toolbox := (Bench.serve s.folder ⟨s.toolbox, s.tree⟩ r).2.toolbox
             tree := (Bench.serve s.folder ⟨s.toolbox, s.tree⟩ r).2.tree } := by
  cases r <;> rfl

theorem session_after (s : Session) (requests : List Request) :
    s.after (requests.map (·.step)) =
      { s with toolbox := (after (Bench.serve s.folder) ⟨s.toolbox, s.tree⟩ requests).toolbox
               tree := (after (Bench.serve s.folder) ⟨s.toolbox, s.tree⟩ requests).tree } := by
  induction requests generalizing s with
  | nil => rfl
  | cons r requests ih =>
    rw [List.map_cons, Session.after_cons, ih, session_step]
    rfl

/-! ## Tools that are not taken for unknown -/

/-- A tool that never answers that there is no tool of its name. -/
def KnowsItself (tool : Tool) : Prop :=
  ∀ args t here, (tool.invoke args t here).1 ≠ .error (.unknownTool tool.name)

theorem knowsItself_builtin (b : Builtin) : KnowsItself (.builtin b) := by
  intro args t here h
  have hrun : ((b.procedure args).run (Tool.onFiles here) (t, [])).1
      = .error (.unknownTool b.name) := by
    rw [Tool.run_procedure]
    exact h
  -- What a built-in tool can fail with does not name a tool.
  cases (Tool.procedure_failsWith b args).run _ _ hrun with
  | argument hmem hbad => cases hbad

theorem knowsItself_fixed (name text : String) : KnowsItself (.fixed name text) :=
  fun _ _ _ h => nomatch h

/-! ## All together -/

/-- From no tools or the built-in ones on, a toolbox answers any requests as the ledger does. Its
names ascend strictly, and they are those that a tool was registered under. Under a name it finds,
and invokes, the last tool that was registered under it. It answers that there is no such tool
exactly if none was registered under the name or the last one that was gives this answer itself,
which neither a built-in tool nor one of a fixed text does; with nothing noted it answers so exactly
if none was registered. A tool that is registered changes nothing under another name, a request of
another kind leaves the toolbox as it is, and tools of different names can be registered in any
order. In the end this is the toolbox of a session that the requests are made in. -/
theorem last_registered_is_used (withBuiltins : Bool) (tree : Tree) (folder : Place)
    (requests : List Request) :
    let start := opening withBuiltins
    let box := (after (Bench.serve folder) ⟨start, tree⟩ requests).toolbox
    let tools := openingTools withBuiltins ++ requests.filterMap (·.tool?)
    answers (Bench.serve folder) ⟨start, tree⟩ requests =
      answers (Ledger.serve folder) ⟨openingTools withBuiltins, tree⟩ requests ∧
    box.names.Pairwise (· < ·) ∧ box.names.Nodup ∧
    (∀ name, name ∈ box.names ↔ ∃ tool ∈ tools, tool.name = name) ∧
    (∀ name tool, box.find? name = some tool ↔
      ∃ before after, tools = before ++ tool :: after ∧ tool.name = name ∧
        ∀ other ∈ after, other.name ≠ name) ∧
    (∀ name tool, box.find? name = some tool → ∀ args t here, box.invoke name args t here =
      ((tool.invoke args t here).1, (tool.invoke args t here).2.1,
        .invokingTool name :: (tool.invoke args t here).2.2)) ∧
    (∀ name args t here, box.invoke name args t here = (.error (.unknownTool name), t, []) ↔
      ∀ tool ∈ tools, tool.name ≠ name) ∧
    (∀ name args t here, (box.invoke name args t here).1 = .error (.unknownTool name) ↔
      (∀ tool ∈ tools, tool.name ≠ name) ∨
        ∃ tool, box.find? name = some tool ∧
          (tool.invoke args t here).1 = .error (.unknownTool name)) ∧
    (∀ b, KnowsItself (.builtin b)) ∧ (∀ name text, KnowsItself (.fixed name text)) ∧
    (∀ tool name, tool.name ≠ name → (box.register tool).1.find? name = box.find? name ∧
      ∀ args t here, (box.register tool).1.invoke name args t here = box.invoke name args t here) ∧
    (∀ r, r.tool? = none → ∀ t here, ((⟨box, t⟩ : Bench).serve here r).2.toolbox = box) ∧
    (∀ tool other, tool.name ≠ other.name →
      ((box.register tool).1.register other).1 = ((box.register other).1.register tool).1) ∧
    (∀ s : Session, s.toolbox = start → s.tree = tree → s.folder = folder →
      (s.after (requests.map (·.step))).toolbox = box) := by
  intro start box tools
  have hline := inLine_opening withBuiltins tree
  have hafter := hline.after folder requests
  have htools := tools_after folder ⟨openingTools withBuiltins, tree⟩ requests
  have hfind : ∀ name, box.find? name = lastNamed name tools := fun name => by
    rw [hafter.find? name, htools]
  have hunknown : ∀ name, box.find? name = none ↔ ∀ tool ∈ tools, tool.name ≠ name := fun name => by
    rw [hfind, lastNamed_eq_none_iff]
  refine ⟨hline.answers_eq folder requests, box.tools.keys_ascending, box.tools.keys_nodup, ?_, ?_,
    fun name tool => invoke_of_find?, ?_, ?_, knowsItself_builtin, knowsItself_fixed, ?_,
    fun r hr t here => toolbox_serve hr here _, fun tool other h => register_comm h box, ?_⟩
  · intro name
    rw [hafter.mem_names, htools, List.mem_map]
  · intro name tool
    rw [hfind, lastNamed_eq_some_iff]
  · intro name args t here
    rw [invoke_eq_unknown_iff, hunknown]
  · intro name args t here
    rw [invoke_unknown_iff, hunknown]
  · intro tool name hname
    have hsame : (box.register tool).1.find? name = box.find? name := by
      rw [find?_register, if_neg hname]
    exact ⟨hsame, invoke_congr hsame⟩
  · intro s htoolbox htree hfolder
    rw [session_after, htoolbox, htree, hfolder]

/-- A tool that hands back what it is given takes the name of a built-in one, and keeps it when
another built-in tool is registered once more. -/
theorem last_registered_is_used_echo :
    let echo : Tool := { name := "read_file", description := "Echo back an argument"
                         invoke := fun args t _ => (args.required "text", t, []) }
    let given : Arguments := Dict.empty.insert "text" (.text "hi")
    let requests : List Request := [.invoke "read_file" given, .register echo, .invoke "echo" given,
      .register (.builtin .writeFile)]
    let box := (after (Bench.serve []) ⟨opening true, {}⟩ requests).toolbox
    box.find? "read_file" = some echo ∧ KnowsItself echo ∧
      box.invoke "read_file" given {} [] = (.ok "hi", {}, [.invokingTool "read_file"]) ∧
      (box.invoke "read_file" Dict.empty {} []).1 ≠ .error (.unknownTool "read_file") ∧
      box.invoke "echo" given {} [] = (.error (.unknownTool "echo"), {}, []) := by
  intro echo given requests box
  obtain ⟨-, -, -, -, hfind, hinvoke, hnone, hunknown, -⟩ :=
    last_registered_is_used true {} [] requests
  have hecho : box.find? "read_file" = some echo := by
    refine (hfind "read_file" echo).mpr
      ⟨Builtin.all.map .builtin, [.builtin .writeFile], rfl, rfl, ?_⟩
    intro other ho
    cases List.mem_singleton.mp ho
    decide
  have hknows : KnowsItself echo := by
    intro args t here h
    have hrequired : args.required "text" = .error (.unknownTool "read_file") := h
    rw [Arguments.required] at hrequired
    split at hrequired <;> cases hrequired
  refine ⟨hecho, hknows, hinvoke _ _ hecho given {} [], fun hanswer => ?_, ?_⟩
  · rcases (hunknown "read_file" Dict.empty {} []).mp hanswer with hnever | ⟨tool, htool, hsays⟩
    · exact hnever (.builtin .readFile) (by simp [openingTools, Builtin.all]) rfl
    · cases hecho.symm.trans htool
      exact hknows _ _ _ hsays
  · refine (hnone "echo" given {} []).mpr ?_
    decide

/-- A tool that hands its invocations on to a toolbox of its own, under its own name. -/
def forwarding (box : Toolbox) (name : String) : Tool where
  name
  description := "Forward to another toolbox"
  invoke := box.invoke name

/-- That there is no tool of a name is also the answer if one was registered under it that forwards
to a toolbox without tools. So the answer alone does not say that none was registered. -/
theorem unknown_though_registered :
    let tool := forwarding empty "x"
    let requests : List Request := [.register tool]
    let box := (after (Bench.serve []) ⟨opening false, {}⟩ requests).toolbox
    let tools := openingTools false ++ requests.filterMap (·.tool?)
    box.names = ["x"] ∧ box.find? "x" = some tool ∧
      ¬ ((box.invoke "x" Dict.empty {} []).1 = .error (.unknownTool "x") ↔
        ∀ tool ∈ tools, tool.name ≠ "x") := by
  intro tool requests box tools
  refine ⟨rfl, rfl, fun hiff => ?_⟩
  have hanswer : (box.invoke "x" Dict.empty {} []).1 = .error (.unknownTool "x") := rfl
  exact hiff.mp hanswer tool (List.mem_singleton_self _) rfl

end AgentPulse.Toolbox
