import AgentPulse.Proofs.Tool.Procedure
import AgentPulse.Session

/-!
# Arguments are decided before anything is done

A built-in tool looks at some arguments in an order (`Builtin.parameters`). If some of them are bad,
it answers what the first of these is bad for and asks the system for nothing
(`procedure_of_fault`), so whatever the system is, it stays as it was. If none is bad, the tool asks
for something (`ask_of_fault_eq_none`), and it fails with nothing but what the system or a command
fails with (`procedure_failsWith`). What it does then is the same for all arguments with the same
texts under the names that it looks at: a null counts as absent, and nothing else is looked at
(`procedure_congr`).

Main statement: `arguments_decided_first`.
-/

namespace AgentPulse.Tool

open Files (Tree Place)

universe u

/-! ## Parameters -/

/-- An argument that a tool looks at. -/
structure Parameter where
  name : String
  isRequired : Bool
  deriving DecidableEq

/-- The arguments that a tool looks at, in the order that it looks at them. -/
def Builtin.parameters : Builtin → List Parameter
  | .runCommand => [⟨"command", true⟩, ⟨"cwd", false⟩]
  | .readFile | .listFolder => [⟨"path", true⟩]
  | .writeFile => [⟨"path", true⟩, ⟨"content", true⟩]

/-- What an argument is bad for: it has to be there and is absent or null, or it is there as
something else than a text. -/
inductive Parameter.Bad (args : Arguments) (p : Parameter) : Failure → Prop where
  | missing (hrequired : p.isRequired = true)
      (habsent : args.find? p.name = none ∨ args.find? p.name = some .null) :
      Bad args p (.missingArgument p.name)
  | invalid (v : Json) (hfind : args.find? p.name = some v) (hnull : v ≠ .null)
      (htext : ∀ s, v ≠ .text s) :
      Bad args p (.invalidArgument p.name "string")

/-- No argument that the tool looks at is bad. -/
def Builtin.Accepts (b : Builtin) (args : Arguments) : Prop :=
  ∀ p ∈ b.parameters, ∀ f, ¬p.Bad args f

/-- The text of an argument, if it is one. -/
def Arguments.text? (args : Arguments) (name : String) : Option String :=
  match args.find? name with
  | some (.text s) => some s
  | _ => none

/-- The fault of an argument. -/
def Parameter.fault? (args : Arguments) (p : Parameter) : Option Failure :=
  match args.find? p.name with
  | none | some .null => if p.isRequired then some (.missingArgument p.name) else none
  | some (.text _) => none
  | some _ => some (.invalidArgument p.name "string")

/-- The fault of the first argument that has one. -/
def Builtin.fault? (args : Arguments) (b : Builtin) : Option Failure :=
  b.parameters.findSome? fun p => p.fault? args

variable {args args' : Arguments} {p : Parameter} {name : String} {f : Failure} {b : Builtin}

theorem Parameter.fault?_eq_some_iff : p.fault? args = some f ↔ p.Bad args f := by
  constructor
  · intro h
    rw [fault?] at h
    cases hfind : args.find? p.name with
    | none =>
      rw [hfind] at h
      obtain ⟨hrequired, hf⟩ := Option.ite_none_right_eq_some.mp h
      cases hf
      exact .missing hrequired (.inl hfind)
    | some v =>
      rw [hfind] at h
      cases v with
      | null =>
        obtain ⟨hrequired, hf⟩ := Option.ite_none_right_eq_some.mp h
        cases hf
        exact .missing hrequired (.inr hfind)
      | text s => cases h
      | _ =>
        cases h
        exact .invalid _ hfind Json.noConfusion fun s => Json.noConfusion
  · rintro (⟨hrequired, hfind | hfind⟩ | ⟨v, hfind, hnull, htext⟩)
    · rw [fault?, hfind]
      exact if_pos hrequired
    · rw [fault?, hfind]
      exact if_pos hrequired
    · rw [fault?, hfind]
      cases v with
      | null => exact absurd rfl hnull
      | text s => exact absurd rfl (htext s)
      | _ => rfl

theorem Parameter.fault?_eq_none_iff : p.fault? args = none ↔ ∀ f, ¬p.Bad args f := by
  rw [Option.eq_none_iff_forall_ne_some]
  exact forall_congr' fun f => not_congr fault?_eq_some_iff

/-- The first fault is that of an argument before which there is no bad one. -/
theorem Builtin.fault?_eq_some_iff : b.fault? args = some f ↔
    ∃ before p after, b.parameters = before ++ p :: after ∧ p.Bad args f ∧
      ∀ q ∈ before, ∀ g, ¬q.Bad args g := by
  rw [fault?, List.findSome?_eq_some_iff]
  simp only [Parameter.fault?_eq_some_iff, Parameter.fault?_eq_none_iff]

theorem Builtin.fault?_eq_none_iff :
    b.fault? args = none ↔ b.Accepts args := by
  rw [fault?, Accepts, List.findSome?_eq_none_iff]
  simp only [Parameter.fault?_eq_none_iff]

/-! ## Single arguments -/

theorem required_eq (args : Arguments) (name : String) : args.required name =
    match (Parameter.mk name true).fault? args with
    | some f => .error f
    | none => .ok ((args.text? name).getD "") := by
  rw [Arguments.required, Parameter.fault?, Arguments.text?]
  cases args.find? name with
  | none => rfl
  | some v => cases v <;> rfl

theorem optional_eq (args : Arguments) (name : String) : args.optional name =
    match (Parameter.mk name false).fault? args with
    | some f => .error f
    | none => .ok (args.text? name) := by
  rw [Arguments.optional, Parameter.fault?, Arguments.text?]
  cases args.find? name with
  | none => rfl
  | some v => cases v <;> rfl

/-- Of two arguments the second counts only if the first has no fault. -/
theorem fault?_of_pair {p q : Parameter}
    (h : [p, q].findSome? (fun p => p.fault? args) = some f) :
    p.fault? args = some f ∨ p.fault? args = none ∧ q.fault? args = some f := by
  rw [List.findSome?_cons] at h
  cases hfirst : p.fault? args with
  | some g =>
    rw [hfirst] at h
    exact .inl h
  | none =>
    rw [hfirst, List.findSome?_singleton] at h
    exact .inr ⟨rfl, h⟩

/-! ## Whole procedures -/

/-- With a bad argument a tool is done before it has asked for anything. -/
theorem procedure_of_fault (h : b.fault? args = some f) :
    b.procedure args = .done (.error f) := by
  rw [Builtin.fault?] at h
  cases b with
  | runCommand =>
    rcases fault?_of_pair h with hcommand | ⟨hcommand, hfolder⟩
    · rw [Builtin.procedure, required_eq, hcommand]
      rfl
    · rw [Builtin.procedure, required_eq, hcommand, optional_eq, hfolder]
      rfl
  | writeFile =>
    rcases fault?_of_pair h with hpath | ⟨hpath, hcontent⟩
    · rw [Builtin.procedure, required_eq, hpath]
      rfl
    · rw [Builtin.procedure, required_eq, hpath, required_eq, hcontent]
      rfl
  | readFile | listFolder =>
    rw [Builtin.parameters, List.findSome?_singleton] at h
    rw [Builtin.procedure, required_eq, h]
    rfl

/-- With no bad argument a tool asks for something. -/
theorem ask_of_fault_eq_none (h : b.fault? args = none) :
    ∃ o next, b.procedure args = .ask o next := by
  have hfault : ∀ p ∈ b.parameters, p.fault? args = none := List.findSome?_eq_none_iff.mp h
  cases b with
  | runCommand =>
    have hcommand := hfault ⟨"command", true⟩ List.mem_cons_self
    have hfolder := hfault ⟨"cwd", false⟩ (List.mem_cons_of_mem _ List.mem_cons_self)
    rw [Builtin.procedure, required_eq, hcommand, optional_eq, hfolder]
    exact ⟨_, _, rfl⟩
  | writeFile =>
    have hpath := hfault ⟨"path", true⟩ List.mem_cons_self
    have hcontent := hfault ⟨"content", true⟩ (List.mem_cons_of_mem _ List.mem_cons_self)
    rw [Builtin.procedure, required_eq, hpath, required_eq, hcontent]
    -- If there are no folders to be made, the first thing asked for is to write.
    show ∃ o next, (Procedure.requestParents _ >>= _) = Procedure.ask o next
    rw [Procedure.requestParents]
    split <;> exact ⟨_, _, rfl⟩
  | readFile | listFolder =>
    have hpath := hfault ⟨"path", true⟩ List.mem_cons_self
    rw [Builtin.procedure, required_eq, hpath]
    exact ⟨_, _, rfl⟩

/-- What a tool does depends on the faults and the texts of its arguments, and on nothing else. -/
theorem procedure_congr (hfault : ∀ p ∈ b.parameters, p.fault? args = p.fault? args')
    (htext : ∀ p ∈ b.parameters, args.text? p.name = args'.text? p.name) :
    b.procedure args = b.procedure args' := by
  have hrequired : ∀ name, ⟨name, true⟩ ∈ b.parameters →
      args.required name = args'.required name := by
    intro name h
    rw [required_eq, required_eq args', hfault _ h, htext _ h]
  have hoptional : ∀ name, ⟨name, false⟩ ∈ b.parameters →
      args.optional name = args'.optional name := by
    intro name h
    rw [optional_eq, optional_eq args', hfault _ h, htext _ h]
  cases b with
  | runCommand =>
    rw [Builtin.procedure, Builtin.procedure, hrequired "command" List.mem_cons_self,
      hoptional "cwd" (List.mem_cons_of_mem _ List.mem_cons_self)]
  | writeFile =>
    rw [Builtin.procedure, Builtin.procedure, hrequired "path" List.mem_cons_self,
      hrequired "content" (List.mem_cons_of_mem _ List.mem_cons_self)]
  | readFile | listFolder =>
    rw [Builtin.procedure, Builtin.procedure, hrequired "path" List.mem_cons_self]

/-! ## What tools fail with -/

/-- What a tool can fail with: what one of its arguments is bad for, what the system refuses, or a
command that ends badly. -/
inductive Builtin.CanFail (args : Arguments) (b : Builtin) : Failure → Prop where
  | argument {p : Parameter} {f : Failure} (hmem : p ∈ b.parameters) (hbad : p.Bad args f) :
      CanFail args b f
  | execution (text : String) : CanFail args b (.execution text)
  | system (f : SystemFault) : CanFail args b (.system f)

theorem fault_failsWith {α : Type} (h : p ∈ b.parameters) (a : α) :
    (Procedure.done (match p.fault? args with
      | some f => .error f
      | none => .ok a)).FailsWith (b.CanFail args) := by
  cases hfault : p.fault? args with
  | none => trivial
  | some f => exact .argument h (Parameter.fault?_eq_some_iff.mp hfault)

theorem required_failsWith (h : ⟨name, true⟩ ∈ b.parameters) :
    (Procedure.done (args.required name)).FailsWith (b.CanFail args) := by
  rw [required_eq]
  exact fault_failsWith h _

theorem optional_failsWith (h : ⟨name, false⟩ ∈ b.parameters) :
    (Procedure.done (args.optional name)).FailsWith (b.CanFail args) := by
  rw [optional_eq]
  exact fault_failsWith h _

theorem request_failsWith (o : Operation) :
    (Procedure.request o).FailsWith (b.CanFail args) := by
  intro r
  cases r with
  | ok a => trivial
  | error f => exact .system f

theorem requestParents_failsWith (path : String) :
    (Procedure.requestParents path).FailsWith (b.CanFail args) := by
  rw [Procedure.requestParents]
  split
  · trivial
  · exact request_failsWith _

theorem report_failsWith (o : Shell.Outcome) :
    (Procedure.done (report o)).FailsWith (b.CanFail args) := by
  rw [report]
  split
  · trivial
  · exact .execution _
  · exact .execution _

theorem procedure_failsWith (b : Builtin) (args : Arguments) :
    (b.procedure args).FailsWith (b.CanFail args) := by
  cases b with
  | runCommand =>
    refine .bind (required_failsWith List.mem_cons_self) fun command => ?_
    refine .bind (optional_failsWith (List.mem_cons_of_mem _ List.mem_cons_self)) fun folder => ?_
    exact .bind (request_failsWith _) fun _ => .bind (request_failsWith _) report_failsWith
  | readFile =>
    exact .bind (required_failsWith List.mem_cons_self) fun path => request_failsWith _
  | writeFile =>
    refine .bind (required_failsWith List.mem_cons_self) fun path => ?_
    refine .bind (required_failsWith (List.mem_cons_of_mem _ List.mem_cons_self)) fun content => ?_
    refine .bind (requestParents_failsWith path) fun _ => ?_
    exact .bind (request_failsWith _) fun _ => trivial
  | listFolder =>
    refine .bind (required_failsWith List.mem_cons_self) fun path => ?_
    exact .bind (request_failsWith _) fun entries => trivial

/-! ## All together -/

theorem invoke_of_fault (h : b.fault? args = some f) (t : Tree) (here : Place) :
    b.invoke args t here = (.error f, t, []) := by
  rw [← run_procedure, procedure_of_fault h]
  rfl

/-- A session stays as it was if the arguments of a built-in tool are bad. -/
theorem step_invoke_of_fault {s : Session} (h : b.fault? args = some f)
    (hfind : s.toolbox.find? name = some (.builtin b)) :
    s.step (.invoke name args) =
      { answer := .error (.tool f), notices := [.invokingTool name], session := s } := by
  have hinvoke : s.toolbox.invoke name args s.tree s.folder
      = (.error f, s.tree, [.invokingTool name]) := by
    simp only [Toolbox.invoke, hfind, Tool.builtin, invoke_of_fault h]
  rw [Session.step, hinvoke]
  rfl

/-- If an argument is bad and none before it is, the tool answers what it is bad for and asks the
system for nothing, so that the files stay as they are, and so does the whole session in which the
tool is invoked. If no argument is bad, the tool asks the system for something, and it fails with
nothing but what the system or a command fails with. What it asks for, what it answers and what it
leaves behind are then the same for all such arguments with the same texts under the names that it
looks at. On files and notices all this is what the tool itself does. -/
theorem arguments_decided_first (b : Builtin) (args : Arguments) :
    (∀ before p after f, b.parameters = before ++ p :: after → p.Bad args f →
      (∀ q ∈ before, ∀ g, ¬q.Bad args g) →
      (∀ (σ : Type u) (sys : System σ) (s : σ), (b.procedure args).run sys s = (.error f, s) ∧
        (b.procedure args).asked sys s = []) ∧
      (∀ t here, b.invoke args t here = (.error f, t, [])) ∧
      (∀ (s : Session) name, s.toolbox.find? name = some (.builtin b) →
        s.step (.invoke name args) =
          { answer := .error (.tool f), notices := [.invokingTool name], session := s })) ∧
    (b.Accepts args →
      (∀ (σ : Type u) (sys : System σ) (s : σ), (b.procedure args).asked sys s ≠ [] ∧
        ∀ f, ((b.procedure args).run sys s).1 = .error f →
          (∃ g, f = .system g) ∨ ∃ text, f = .execution text) ∧
      ∀ args' : Arguments, b.Accepts args' →
        (∀ p ∈ b.parameters, args.text? p.name = args'.text? p.name) →
        (∀ (σ : Type u) (sys : System σ) (s : σ),
          (b.procedure args).run sys s = (b.procedure args').run sys s ∧
          (b.procedure args).asked sys s = (b.procedure args').asked sys s) ∧
        ∀ t here, b.invoke args t here = b.invoke args' t here) ∧
    ∀ t here, (b.procedure args).run (onFiles here) (t, []) = b.invoke args t here := by
  refine ⟨?_, ?_, run_procedure b args⟩
  · intro before p after f hsplit hbad hbefore
    have hfault : b.fault? args = some f :=
      Builtin.fault?_eq_some_iff.mpr ⟨before, p, after, hsplit, hbad, hbefore⟩
    refine ⟨fun σ sys s => ?_, invoke_of_fault hfault, fun s name => step_invoke_of_fault hfault⟩
    rw [procedure_of_fault hfault]
    exact ⟨rfl, rfl⟩
  · intro hgood
    have hfault : b.fault? args = none := Builtin.fault?_eq_none_iff.mpr hgood
    refine ⟨fun σ sys s => ⟨?_, fun f hf => ?_⟩, fun args' hgood' htext => ?_⟩
    · obtain ⟨o, next, hprocedure⟩ := ask_of_fault_eq_none hfault
      rw [hprocedure]
      exact List.cons_ne_nil _ _
    · cases (procedure_failsWith b args).run sys s hf with
      | argument hmem hbad => exact absurd hbad (hgood _ hmem _)
      | execution text => exact .inr ⟨text, rfl⟩
      | system g => exact .inl ⟨g, rfl⟩
    · have hsame : b.procedure args = b.procedure args' := by
        refine procedure_congr (fun p hp => ?_) htext
        rw [Parameter.fault?_eq_none_iff.mpr (hgood p hp),
          Parameter.fault?_eq_none_iff.mpr (hgood' p hp)]
      refine ⟨fun σ sys s => ?_, fun t here => ?_⟩
      · rw [hsame]
        exact ⟨rfl, rfl⟩
      · rw [← run_procedure, ← run_procedure, hsame]

/-- Without a content no folder is made for the file. With one it does not matter what else is
given. -/
theorem arguments_decided_first_no_content :
    let args : Arguments := Dict.ofList [("content", .null), ("path", .text "new/a.txt")]
    let full : Arguments := args.insert "content" (.text "hi")
    let fuller : Arguments := full.insert "mode" (.boolean true)
    (Builtin.writeFile.procedure args).asked (onFiles []) (({} : Tree), []) = [] ∧
      Builtin.writeFile.invoke args {} [] = (.error (.missingArgument "content"), {}, []) ∧
      (Builtin.writeFile.procedure full).asked (onFiles []) (({} : Tree), []) ≠ [] ∧
      Builtin.writeFile.invoke full {} [] = Builtin.writeFile.invoke fuller {} [] := by
  intro args full fuller
  have hpath : ∀ q ∈ [Parameter.mk "path" true], ∀ g, ¬q.Bad args g := by
    intro q hq
    cases List.mem_singleton.mp hq
    exact Parameter.fault?_eq_none_iff.mp (by decide)
  have hfull : Builtin.writeFile.Accepts full := Builtin.fault?_eq_none_iff.mp (by decide)
  have hfuller : Builtin.writeFile.Accepts fuller := Builtin.fault?_eq_none_iff.mp (by decide)
  obtain ⟨hbad, -, -⟩ := arguments_decided_first .writeFile args
  obtain ⟨hnothing, hinvoke, -⟩ := hbad [⟨"path", true⟩] ⟨"content", true⟩ [] _ rfl
    (.missing rfl (.inr rfl)) hpath
  obtain ⟨-, hgood, -⟩ := arguments_decided_first .writeFile full
  obtain ⟨hasks, hsame⟩ := hgood hfull
  exact ⟨(hnothing _ (onFiles []) _).2, hinvoke {} [], (hasks _ (onFiles []) _).1,
    (hsame fuller hfuller (by decide)).2 {} []⟩

end AgentPulse.Tool
