import AgentPulse.Hub
import AgentPulse.Metrics.Exposition
import AgentPulse.Server.Table
import AgentPulse.Tool.Toolbox

/-!
# Sessions

A session is a world of its own: a hub of buses, archives by name, two boards with names for the
meters on them, a toolbox with the files that its tools work on, and a table of servers. Steps are
taken one after the other; each has an answer or is refused, and a refused step changes nothing but
what a tool did before it failed.
-/

namespace AgentPulse

/-- The two boards of a session: one that all parts of the process share, and one of its own. -/
inductive Scope where
  | shared
  | own
  deriving DecidableEq, Repr

/-- Everything that steps work on. -/
structure Session where
  hub : Hub := {}
  archives : Dict Archive := Dict.empty
  shared : Board := Board.empty
  own : Board := Board.empty
  /-- The board and the label of each named meter. -/
  meters : Dict (Scope × String) := Dict.empty
  toolbox : Toolbox := Toolbox.empty
  tree : Files.Tree
  /-- The folder that tools work in. -/
  folder : Files.Place
  servers : ServerTable := ServerTable.empty

namespace Session

/-- The folder that a new session works in. -/
def workFolder : Files.Place := ["tmp", "scratch", "w"].map Text.Utf8.encode

/-- A new session: nothing but the system and the folder to work in. -/
def start : Session where
  tree := Shell.System.tree workFolder
  folder := workFolder

/-- One step. -/
inductive Step where
  /-- A step on the hub. -/
  | onHub (a : Hub.Action)
  /-- Publish a beat many times, the job counting up from zero. -/
  | publishMany (handle : String) (beat : Beat) (count : Nat)
  /-- Publish a beat and ask how many were published. -/
  | report (handle : String) (beat : Beat)
  /-- Let several producers publish at once, each under one of some keys. -/
  | produce (handle : String) (producers count keys : Nat)
  | outline (handle : String)
  | recent (handle key : String) (count : Nat)
  | history (handle key : String)
  | latest (handle key : String)
  | keys (handle : String)
  | subscribers (handle key : String)
  | totals (handle : String)
  /-- Ask an empty roster about a key. -/
  | emptyRoster (key : String)
  /-- Let a reader wait for a beat while another step is taken. -/
  | waitDuring (reader : String) (other : Step)
  | describe (reader : String)
  | makeArchive (archive : String) (capacity : Nat)
  | store (archive key : String) (beat : Beat)
  | storedRecent (archive key : String) (count : Nat)
  | storedHistory (archive key : String)
  | storedLatest (archive key : String)
  | storedSize (archive key : String)
  | storedKeys (archive : String)
  | registerMeter (meter label : String) (scope : Scope)
  /-- Let a meter take note of given totals, or of those of a bus. -/
  | observe (meter : String) (source : Totals ⊕ String)
  | exposition (scope : Scope)
  | makeToolbox (builtins : Bool)
  | registerTool (tool : Tool)
  | toolNames
  | tool (name : String)
  | invoke (name : String) (args : Tool.Arguments)
  /-- Put a file where tools can find it. -/
  | putFile (path content : Bytes)
  | checkServer (s : Server)
  | registerServer (s : Server)
  | updateServer (s : Server)
  | upsertServer (s : Server)
  | server (name : String)
  | removeServer (name : String)
  | servers

/-- Why a step is refused. -/
inductive Refusal where
  | hub (r : Hub.Refusal)
  | unknownName (name : String)
  | board (r : Board.Refusal)
  | server (r : ServerTable.Refusal)
  | tool (f : Tool.Failure)
  | files (f : Files.Fault)

/-- What a step answers. -/
inductive Answer where
  | done
  | hub (a : Hub.Answer)
  | count (n : Nat)
  | counts (ns : List Nat)
  | published (n : UInt64)
  | outlines (short long : String)
  | beats (bs : List Beat)
  | beat (b : Option Beat)
  | names (ns : List String)
  | totals (t : Totals)
  | roster (count size : Nat) (isEmpty : Bool)
  | waited (got : Option Beat) (other : Except Refusal Answer)
  | subscription (outline : String) (s : Subscription)
  | metered (published dropped : UInt64)
  | text (s : String)
  | toolNames (ns : List String) (outline : String)
  | tool (t : Option Tool)
  | server (s : Option Server)
  | servers (t : ServerTable)

/-- The answer to a step and what is to be noted, both of them also for a step that is refused. -/
structure Reply where
  answer : Except Refusal Answer
  notices : List Notice := []
  session : Session

/-! ## Parts of a session -/

/-- One of the two boards. -/
def board (s : Session) : Scope → Board
  | .shared => s.shared
  | .own => s.own

/-- Put a board in the place of one of the two. -/
def setBoard (s : Session) (b : Board) : Scope → Session
  | .shared => { s with shared := b }
  | .own => { s with own := b }

/-- The archive of a name. -/
def archive (s : Session) (name : String) : Except Refusal Archive :=
  match s.archives.find? name with
  | some a => .ok a
  | none => .error (.unknownName name)

/-- The bus of a handle. -/
def bus (s : Session) (handle : String) : Except Refusal Bus := (s.hub.bus handle).mapError .hub

/-- A step that only looks. -/
def look (s : Session) (answer : Except Refusal Answer) : Reply := { answer, session := s }

/-- A step that is refused without a trace, or changes the session. -/
def act (s : Session) (r : Except Refusal (Answer × Session × List Notice)) : Reply :=
  match r with
  | .ok (answer, session, notices) => { answer := .ok answer, notices, session }
  | .error e => { answer := .error e, session := s }

/-- Take a step on the hub. -/
def onHub (s : Session) (a : Hub.Action) :
    Except Refusal (Hub.Answer × Session × List Notice) := do
  let (answer, hub, notices) ← (s.hub.step a).mapError .hub
  return (answer, { s with hub }, notices)

/-- Publish beats one after the other: what became of them all together. -/
def publishAll (b : Bus) (beats : List Beat) : Bus × Delivery × List Notice :=
  beats.foldl (fun (b, sum, notices) beat =>
    let (b, d, more) := b.publish beat
    (b, ⟨sum.delivered + d.delivered, sum.dropped + d.dropped⟩, notices ++ more)) (b, {}, [])

/-- A beat many times, the job counting up from zero. -/
def numbered (beat : Beat) (count : Nat) : List Beat :=
  (List.range count).map fun n => beat.withJob (Text.Decimal.ofNat n)

/-- The beats of several producers, each of which publishes under one of some keys. -/
def produced (producers count keys : Nat) : List Beat :=
  (List.range producers).flatMap fun p =>
    numbered (Beat.ofStatus ("agent-" ++ Text.Decimal.ofNat (p % keys)) .processing) count

/-- The text that stands for an identity in an outline. -/
def idText : String := "ID"

/-- The outline of what a reader owns. -/
def readerOutline (r : Reader) (sub : Subscription) : String :=
  (if r.isStream then sub.streamOutline idText else sub.outline idText).inline

/-- Let the meter of a name take note of totals. -/
def meterObserve (s : Session) (meter : String) (t : Totals) :
    Except Refusal (Answer × Session × List Notice) :=
  match s.meters.find? meter with
  | none => .error (.unknownName meter)
  | some (scope, label) =>
    let b := (s.board scope).observe label t
    let m := (b.meter? label).getD {}
    .ok (.metered m.published m.dropped, s.setBoard b scope, [])

/-- Put the table of servers back after an operation on it, and answer what came of that. -/
def setServers (s : Session) (servers : ServerTable)
    (r : Except ServerTable.Refusal (Answer × List Notice)) : Reply :=
  let session := { s with servers }
  match r with
  | .ok (answer, notices) => { answer := .ok answer, notices, session }
  | .error e => { answer := .error (.server e), session }

/-! ## Steps -/

/-- Take one step. -/
def step (s : Session) : Step → Reply
  | .onHub a => s.act do
    let (answer, s, notices) ← s.onHub a
    return (.hub answer, s, notices)
  | .publishMany handle beat count => s.act do
    let b ← s.bus handle
    let (b, d, notices) := publishAll b (numbered beat count)
    return (.hub (.delivery d), { s with hub := s.hub.setBus b }, notices)
  | .report handle beat => s.act do
    let b ← s.bus handle
    let (b, _, notices) := b.publish beat
    return (.published b.published, { s with hub := s.hub.setBus b }, notices)
  | .produce handle producers count keys => s.act do
    let b ← s.bus handle
    -- What the producers note is not part of this step's notices.
    let (b, _, _) := publishAll b (produced producers count keys)
    return (.totals b.totals, { s with hub := s.hub.setBus b }, [])
  | .outline handle => s.look do
    let b ← s.bus handle
    return .outlines b.outline.inline (b.outline.indented "")
  | .recent handle key count => s.look do
    let b ← s.bus handle
    return .beats (b.archive.recent key count)
  | .history handle key => s.look do
    let b ← s.bus handle
    return .beats (b.archive.history key)
  | .latest handle key => s.look do
    let b ← s.bus handle
    return .beat (b.archive.latest? key)
  | .keys handle => s.look do
    let b ← s.bus handle
    return .names b.archive.keys
  | .subscribers handle key => s.look do
    let b ← s.bus handle
    return .count (b.subscriberCount key)
  | .totals handle => s.look do
    let b ← s.bus handle
    return .totals b.totals
  | .emptyRoster key =>
    s.look (.ok (.roster (Roster.empty.count key) Roster.empty.size Roster.empty.isEmpty))
  | .waitDuring reader other =>
    match s.hub.lend reader with
    | .error e => { answer := .error (.hub e), session := s }
    | .ok (lent, hub) =>
      -- The reader takes what is there before the other step can do anything.
      let (early, hub) := hub.takeFor lent
      let r := { s with hub }.step other
      let (late, hub) := r.session.hub.takeFor lent
      let (got, hub) := if early.isSome then (early, r.session.hub) else (late, hub)
      let (hub, gone) := hub.giveBack reader lent
      let session := { r.session with hub }
      let notices := r.notices ++ gone
      match got with
      | some beat => { answer := .ok (.waited beat r.answer), notices, session }
      | none => { answer := .error (.hub .wouldBlock), notices, session }
  | .describe reader => s.look do
    let (r, sub) ← (s.hub.subscription reader).mapError .hub
    return .subscription (readerOutline r sub) sub
  | .makeArchive name capacity =>
    let a := Archive.ofCapacity capacity
    { answer := .ok (.count a.capacity)
      session := { s with archives := s.archives.insert name a } }
  | .store name key beat => s.act do
    let a ← s.archive name
    let a := a.append key beat
    return (.counts [a.sizeOf key, a.keyCount, a.total],
      { s with archives := s.archives.insert name a }, [])
  | .storedRecent name key count => s.look do
    let a ← s.archive name
    return .beats (a.recent key count)
  | .storedHistory name key => s.look do
    let a ← s.archive name
    return .beats (a.history key)
  | .storedLatest name key => s.look do
    let a ← s.archive name
    return .beat (a.latest? key)
  | .storedSize name key => s.look do
    let a ← s.archive name
    return .count (a.sizeOf key)
  | .storedKeys name => s.look do
    let a ← s.archive name
    return .names a.keys
  | .registerMeter meter label scope => s.act do
    let b ← ((s.board scope).register label).mapError .board
    return (.done, { s.setBoard b scope with meters := s.meters.insert meter (scope, label) }, [])
  | .observe meter (.inl t) => s.act (s.meterObserve meter t)
  | .observe meter (.inr handle) => s.act do
    let b ← s.bus handle
    s.meterObserve meter b.totals
  | .exposition scope => s.look (.ok (.text (s.board scope).text))
  | .makeToolbox builtins =>
    let toolbox := if builtins then Toolbox.builtins else Toolbox.empty
    { answer := .ok .done, session := { s with toolbox } }
  | .registerTool tool =>
    let (toolbox, notices) := s.toolbox.register tool
    { answer := .ok (.names toolbox.names), notices, session := { s with toolbox } }
  | .toolNames => s.look (.ok (.toolNames s.toolbox.names s.toolbox.outline.inline))
  | .tool name => s.look (.ok (.tool (s.toolbox.find? name)))
  | .invoke name args =>
    let (answer, tree, notices) := s.toolbox.invoke name args s.tree s.folder
    { answer := (answer.map .text).mapError .tool, notices, session := { s with tree } }
  | .putFile path content => s.act do
    let tree ← (Files.writeFile s.tree s.folder path content).mapError .files
    return (.done, { s with tree }, [])
  | .checkServer server => s.look do
    (ServerTable.check server).mapError .server
    return .done
  | .registerServer server =>
    let (servers, r) := s.servers.register server
    s.setServers servers (r.map fun notices => (.done, notices))
  | .updateServer server =>
    let (servers, r) := s.servers.update server
    s.setServers servers (r.map fun () => (.done, []))
  | .upsertServer server =>
    let (servers, r) := s.servers.upsert server
    s.setServers servers (r.map fun (previous, notices) => (.server previous, notices))
  | .server name => s.look (.ok (.server (s.servers.find? name)))
  | .removeServer name =>
    let (servers, r) := s.servers.remove name
    s.setServers servers (r.map fun (removed, notices) => (.server (some removed), notices))
  | .servers => s.look (.ok (.servers s.servers))

/-- Take steps one after the other: the answer and the notices of each. -/
def run (s : Session) : List Step → List (Except Refusal Answer × List Notice)
  | [] => []
  | next :: rest =>
    let r := s.step next
    (r.answer, r.notices) :: r.session.run rest

end Session

end AgentPulse
