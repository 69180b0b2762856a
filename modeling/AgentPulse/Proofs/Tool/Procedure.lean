import AgentPulse.Tool.Builtin

/-!
# Tools as procedures

A built-in tool written down in the order of its work: it looks at an argument, asks the system for
an operation, and goes on with what that comes back with. The system is left open: it has states of
its own, and replies to an operation as it likes. A run of a procedure says what the tool answers,
the state it leaves behind, and the operations it has asked for, in their order.

On files and notices the procedures do what the tools do (`run_procedure`), so what is shown of the
procedures, on any system, is shown of the tools.
-/

namespace AgentPulse.Tool

open Files (Tree Place)

universe u

/-! ## Procedures -/

/-- What can be asked of a system. -/
inductive Operation where
  | note (n : Notice)
  | readText (path : String)
  | makeFolders (path : Bytes)
  | writeText (path content : String)
  | listEntries (path : String)
  | runCommand (command : String) (folder : Option String)
  deriving DecidableEq

/-- What an operation comes back with, unless it is refused. -/
@[reducible]
def Operation.Reply : Operation → Type
  | .note _ | .makeFolders _ | .writeText _ _ => Unit
  | .readText _ => String
  | .listEntries _ => List (Bytes × Bool)
  | .runCommand _ _ => Shell.Outcome

/-- A result, or an operation and how to go on with what it comes back with. -/
inductive Procedure (α : Type) where
  | done (result : Except Failure α)
  | ask (o : Operation) (next : Except SystemFault o.Reply → Procedure α)

namespace Procedure

variable {α β : Type}

/-- Go on with the value of a procedure. Where one fails, there is nothing to go on with. -/
def bind (p : Procedure α) (f : α → Procedure β) : Procedure β :=
  match p with
  | .done (.ok a) => f a
  | .done (.error e) => .done (.error e)
  | .ask o next => .ask o fun r => (next r).bind f

instance : Monad Procedure where
  pure a := .done (.ok a)
  bind := bind

/-- Ask for an operation that the tool does not go on without. -/
def request (o : Operation) : Procedure o.Reply := .ask o fun r => .done (r.mapError .system)

/-- Ask for the folders around a path, if there are any. -/
def requestParents (path : String) : Procedure Unit :=
  match Files.parent? (Text.Utf8.encode path) with
  | none => pure ()
  | some outer => request (.makeFolders outer)

end Procedure

/-- What a tool does, step by step. -/
def Builtin.procedure (args : Arguments) : Builtin → Procedure String
  | .runCommand => do
    let command ← .done (args.required "command")
    let folder ← .done (args.optional "cwd")
    Procedure.request (.note (.runningCommand command folder))
    let o ← Procedure.request (.runCommand command folder)
    .done (report o)
  | .readFile => do
    let path ← .done (args.required "path")
    Procedure.request (.readText path)
  | .writeFile => do
    let path ← .done (args.required "path")
    let content ← .done (args.required "content")
    Procedure.requestParents path
    Procedure.request (.writeText path content)
    let size := (Text.Utf8.encode content).length
    return "Wrote " ++ Text.Decimal.ofNat size ++ " bytes to " ++ path
  | .listFolder => do
    let path ← .done (args.required "path")
    let entries ← Procedure.request (.listEntries path)
    return listing entries

/-! ## Systems -/

/-- A system: what each operation comes back with, and the state it leaves behind. -/
abbrev System (σ : Type u) := (o : Operation) → σ → Except SystemFault o.Reply × σ

namespace Procedure

variable {α β : Type} {σ : Type u}

/-- The result of a run, and the state it leaves behind. -/
def run (sys : System σ) : Procedure α → σ → Except Failure α × σ
  | .done result, s => (result, s)
  | .ask o next, s => (next (sys o s).1).run sys (sys o s).2

/-- The operations that are asked for in a run, in their order. -/
def asked (sys : System σ) : Procedure α → σ → List Operation
  | .done _, _ => []
  | .ask o next, s => o :: (next (sys o s).1).asked sys (sys o s).2

/-- A run goes on with the value and the state that the run of the first part has led to. -/
theorem run_bind (sys : System σ) (p : Procedure α) (f : α → Procedure β) (s : σ) :
    (p >>= f).run sys s = match p.run sys s with
      | (.ok a, s) => (f a).run sys s
      | (.error e, s) => (.error e, s) := by
  induction p generalizing s with
  | done result => cases result <;> rfl
  | ask o next ih => exact ih (sys o s).1 (sys o s).2

theorem run_request (sys : System σ) (o : Operation) (s : σ) :
    (request o).run sys s = ((sys o s).1.mapError .system, (sys o s).2) := rfl

/-- Whatever the system replies, the procedure fails with some of these failures only. -/
def FailsWith (P : Failure → Prop) : Procedure α → Prop
  | .done (.ok _) => True
  | .done (.error f) => P f
  | .ask _ next => ∀ r, (next r).FailsWith P

variable {P : Failure → Prop} {p : Procedure α} {f : α → Procedure β}

theorem FailsWith.bind (hp : p.FailsWith P) (hf : ∀ a, (f a).FailsWith P) :
    (p >>= f).FailsWith P := by
  induction p with
  | done result =>
    cases result with
    | ok a => exact hf a
    | error e => exact hp
  | ask o next ih => exact fun r => ih r (hp r)

theorem FailsWith.run (hp : p.FailsWith P) (sys : System σ) (s : σ) {e : Failure}
    (h : (p.run sys s).1 = .error e) : P e := by
  induction p generalizing s with
  | done result =>
    cases h
    exact hp
  | ask o next ih => exact ih (sys o s).1 (hp _) (sys o s).2 h

end Procedure

/-- The entries of a folder, each with whether it is a folder. -/
def listEntries (t : Tree) (here : Place) (path : String) :
    Except SystemFault (List (Bytes × Bool)) := do
  let entries ← (Files.entriesOf t here (← pathBytes path)).mapError .files
  return entries.map fun e => (e.1, e.2.isFolder)

/-- Make folders, unless there is a zero byte in the path. -/
def makeFolders (t : Tree) (here : Place) (path : Bytes) : Except SystemFault Unit × Tree :=
  if path.contains 0 then (.error .zeroByteInPath, t)
  else ((Files.makeFolders t here path).2.mapError .files, (Files.makeFolders t here path).1)

/-- The system that tools work on: files, and the notices so far. -/
def onFiles (here : Place) : System (Tree × List Notice)
  | .note n, (t, notices) => (.ok (), t, notices ++ [n])
  | .readText path, (t, notices) => (readText t here path, t, notices)
  | .makeFolders path, (t, notices) =>
    ((makeFolders t here path).1, (makeFolders t here path).2, notices)
  | .writeText path content, (t, notices) =>
    match writeText t here path content with
    | .ok t => (.ok (), t, notices)
    | .error f => (.error f, t, notices)
  | .listEntries path, (t, notices) => (listEntries t here path, t, notices)
  | .runCommand command folder, (t, notices) =>
    match runCommand t here command folder with
    | .ok o => (.ok o, o.tree, notices)
    | .error f => (.error f, t, notices)

/-! ## Procedures do what the tools do -/

theorem listFolder_eq (t : Tree) (here : Place) (path : String) :
    listFolder t here path = (listEntries t here path).map listing := by
  rw [listFolder, listEntries]
  cases pathBytes path with
  | error f => rfl
  | ok bytes =>
    show (Files.entriesOf t here bytes).mapError _ >>= _
      = Except.map listing ((Files.entriesOf t here bytes).mapError _ >>= _)
    cases Files.entriesOf t here bytes <;> rfl

/-- The folders around a path are made as they are asked for. -/
theorem run_requestParents (here : Place) (path : String) (t : Tree) (notices : List Notice) :
    (Procedure.requestParents path).run (onFiles here) (t, notices) =
      ((makeParents t here path).2.mapError .system, (makeParents t here path).1, notices) := by
  rw [Procedure.requestParents, makeParents]
  cases Files.parent? (Text.Utf8.encode path) with
  | none => rfl
  | some outer =>
    dsimp only
    rw [Procedure.run_request, onFiles, makeFolders]
    split <;> rfl

/-- On files and notices a procedure answers what the tool answers, and leaves behind what the tool
leaves behind. -/
theorem run_procedure (b : Builtin) (args : Arguments) (t : Tree) (here : Place) :
    (b.procedure args).run (onFiles here) (t, []) = b.invoke args t here := by
  rw [Builtin.invoke]
  cases b with
  | runCommand =>
    rw [Builtin.procedure, Builtin.request]
    cases args.required "command" with
    | error f => rfl
    | ok command =>
      cases args.optional "cwd" with
      | error f => rfl
      | ok folder =>
        -- The notice is taken in any case, so that what counts starts with the command.
        show Procedure.run _ (Procedure.request (.runCommand command folder) >>= _) (t, _)
          = Request.perform t here (.run command folder)
        rw [Request.perform, Procedure.run_bind, Procedure.run_request, onFiles]
        cases runCommand t here command folder <;> rfl
  | readFile =>
    rw [Builtin.procedure, Builtin.request]
    cases args.required "path" <;> rfl
  | writeFile =>
    rw [Builtin.procedure, Builtin.request]
    cases args.required "path" with
    | error f => rfl
    | ok path =>
      cases args.required "content" with
      | error f => rfl
      | ok content =>
        show Procedure.run _ (Procedure.requestParents path >>= _) _
          = Request.perform t here (.write path content)
        rw [Request.perform, Procedure.run_bind, run_requestParents]
        obtain ⟨t, made⟩ := makeParents t here path
        cases made with
        | error f => rfl
        | ok =>
          show Procedure.run _ (Procedure.request (.writeText path content) >>= _) _ = _
          rw [Procedure.run_bind, Procedure.run_request, onFiles]
          dsimp only
          cases writeText t here path content <;> rfl
  | listFolder =>
    rw [Builtin.procedure, Builtin.request]
    cases args.required "path" with
    | error f => rfl
    | ok path =>
      show Procedure.run _ (Procedure.request (.listEntries path) >>= _) _
        = ((listFolder t here path).mapError _, t, [])
      rw [listFolder_eq, Procedure.run_bind, Procedure.run_request, onFiles]
      cases listEntries t here path <;> rfl

end AgentPulse.Tool
