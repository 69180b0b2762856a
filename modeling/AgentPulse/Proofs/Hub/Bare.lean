import AgentPulse.Proofs.Dict
import AgentPulse.Proofs.Hub.View

/-!
# Hubs without regard to the way of reading

A subscription is read as it is or as a stream, and a read is made in one of several ways. The bare
hub forgets which subscriptions are streams, and the gist of an action forgets the way of reading;
to make a stream of a subscription is nothing then. Forgetting commutes with steps (`bare_next`) and
with runs (`bare_after`), and what steps show apart from the way of reading is shown by the bare hub
as well (`along_seen`). So two runs with the same gist cannot be told apart.
-/

namespace AgentPulse

/-- The owner of a subscription, without regard to whether it reads as a stream. -/
def Reader.bare (r : Reader) : Reader := { id := r.id }

namespace Hub

/-! ## Forgetting -/

/-- The hub, without regard to which subscriptions are read as streams. -/
def bare (h : Hub) : Hub := { h with readers := h.readers.map Reader.bare }

/-- Whether an action is to make a stream of a subscription. -/
def Action.makesStream : Action → Bool
  | .stream _ => true
  | _ => false

/-- An action, without regard to the way of reading; to make a stream of a subscription is nothing
then. -/
def Action.gist : Action → Option Action
  | .read name _ => some (.read name .poll)
  | .stream _ => none
  | a => some a

section

variable {h : Hub} {name : String}

theorem find?_readers_bare (h : Hub) (name : String) :
    h.bare.readers.find? name = (h.readers.find? name).map Reader.bare := Dict.find?_map ..

/-- The subscription of a name does not depend on whether it is a stream. -/
theorem subscription_bare (h : Hub) (name : String) :
    h.bare.subscription name = (h.subscription name).map fun p => (p.1.bare, p.2) := by
  have hfind := h.find?_readers_bare name
  cases hr : h.readers.find? name with
  | none =>
    rw [hr] at hfind
    simp only [subscription, reader, hr, hfind]
    rfl
  | some r =>
    rw [hr, Option.map_some] at hfind
    have hsub : h.bare.subscription? r.bare.id = h.subscription? r.id := rfl
    simp only [subscription, reader, hr, hfind, bind, Except.bind, hsub]
    cases h.subscription? r.id <;> rfl

/-- The identity that a name has on the bare hub. -/
theorem isReaderOf_bare (h : Hub) (name : String) (id : SubscriptionId) :
    h.bare.isReaderOf name id = h.isReaderOf name id := by
  rw [isReaderOf, isReaderOf, find?_readers_bare]
  cases h.readers.find? name <;> rfl

theorem bare_settle (h : Hub) (n : Nat) : (h.settle n).bare = h.bare.settle n := by
  unfold settle
  show (if n ∈ h.handles.values then h else _).bare
    = if n ∈ h.handles.values then h.bare else { h.bare with buses := h.buses.modify n Bus.close }
  split <;> rfl

theorem bare_assign (h : Hub) (handle : String) (n : Nat) :
    (h.assign handle n).bare = h.bare.assign handle n := by
  have hbare : h.bare.handles = h.handles := rfl
  rw [assign, assign, hbare]
  cases h.handles.find? handle with
  | none => rfl
  | some m => exact bare_settle { h with handles := h.handles.insert handle n } m

/-- Discarding a reader has nothing to do with streams. -/
theorem discardReader_bare (h : Hub) (name : String) :
    h.bare.discardReader name = ((h.discardReader name).1.bare, (h.discardReader name).2) := by
  have hfind := h.find?_readers_bare name
  cases hr : h.readers.find? name with
  | none =>
    rw [hr] at hfind
    simp only [discardReader, hr, hfind]
    rfl
  | some r =>
    rw [hr, Option.map_some] at hfind
    have herase : ({ h with readers := h.readers.erase name } : Hub).bare
        = { h.bare with readers := h.bare.readers.erase name } :=
      congrArg (fun d => { h with readers := d }) (Dict.map_erase ..)
    have hbus : h.bare.buses[r.bare.id.bus]? = h.buses[r.id.bus]? := rfl
    simp only [discardReader, hr, hfind, ← herase, hbus]
    cases h.buses[r.id.bus]? <;> rfl

end

/-! ## Steps -/

/-- What a step leads to, without regard to which subscriptions are read as streams. -/
def bareOutcome (o : Outcome) : Outcome := o.map fun x => (x.1, x.2.1.bare, x.2.2)

/-- The bare hub takes every step as the hub does, but for making streams. -/
theorem step_bare (h : Hub) {a : Action} (ha : a.makesStream = false) :
    h.bare.step a = bareOutcome (h.step a) := by
  have hbus : ∀ handle, h.bare.bus handle = h.bus handle := fun _ => rfl
  cases a with
  | stream name => cases ha
  | create handle limits =>
    simp only [step, bind, Except.bind]
    have hlength : h.bare.buses.length = h.buses.length := rfl
    rw [hlength]
    cases (Bus.create h.buses.length limits).mapError Refusal.badLimits with
    | error e => rfl
    | ok b =>
      have hassign := bare_assign { h with buses := h.buses ++ [b] } handle h.buses.length
      exact congrArg (fun h' => Except.ok (Answer.created limits, h', [])) hassign.symm
  | clone handle copy =>
    simp only [step, bind, Except.bind, hbus]
    cases h.bus handle with
    | error e => rfl
    | ok b =>
      exact congrArg (fun h' => Except.ok (Answer.done, h', [])) (bare_assign h copy b.id).symm
  | release handle =>
    simp only [step, bind, Except.bind, hbus]
    cases h.bus handle with
    | error e => rfl
    | ok b =>
      have hsettle := bare_settle { h with handles := h.handles.erase handle } b.id
      exact congrArg (fun h' => Except.ok (Answer.done, h', [])) hsettle.symm
  | publish handle beat =>
    simp only [step, bind, Except.bind, hbus]
    cases h.bus handle <;> rfl
  | subscribe handle name key =>
    simp only [step, bind, Except.bind, hbus]
    cases h.bus handle with
    | error e => rfl
    | ok b =>
      have hset : h.bare.setBus (b.subscribe key).1 = (h.setBus (b.subscribe key).1).bare := rfl
      dsimp only
      rw [hset, discardReader_bare]
      obtain ⟨h', gone⟩ := (h.setBus (b.subscribe key).1).discardReader name
      have hbus' : h'.bare.bus handle = h'.bus handle := rfl
      have hinsert : ∀ id : SubscriptionId, (h'.readers.insert name { id }).map Reader.bare
          = h'.bare.readers.insert name { id } := fun id => Dict.map_insert ..
      simp only [hbus']
      cases h'.bus handle with
      | error e => rfl
      | ok b' => simp only [bareOutcome, bare, Except.map, pure, Except.pure, hinsert]
  | unsubscribe handle name key =>
    have hidentity : h.bare.identity name = h.identity name := rfl
    simp only [step, bind, Except.bind, hbus, hidentity]
    cases h.identity name with
    | error e => rfl
    | ok id => cases h.bus handle <;> rfl
  | read name reading =>
    simp only [step, bind, Except.bind, subscription_bare]
    cases h.subscription name with
    | error e => rfl
    | ok p =>
      dsimp only [Except.map]
      cases reading with
      | attempt => cases p.2.mailbox.tryTake.1.mapError Refusal.atEnd <;> rfl
      | poll => rfl
      | wait => cases p.2.mailbox.take? <;> rfl
  | drain name =>
    simp only [step, bind, Except.bind, subscription_bare]
    cases h.subscription name <;> rfl
  | discard name =>
    have hreader : h.bare.reader name = (h.reader name).map Reader.bare := by
      rw [reader, reader, find?_readers_bare]
      cases h.readers.find? name <;> rfl
    simp only [step, bind, Except.bind, hreader, discardReader_bare]
    cases h.reader name <;> rfl

theorem next_bare (h : Hub) {a : Action} (ha : a.makesStream = false) :
    h.bare.next a = (h.next a).bare := by
  rw [next, step_bare h ha, next]
  cases h.step a <;> rfl

theorem answer_bare (h : Hub) {a : Action} (ha : a.makesStream = false) :
    h.bare.answer a = h.answer a := by
  rw [answer, step_bare h ha, answer]
  cases h.step a <;> rfl

/-- Making a stream of a subscription is forgotten. -/
theorem bare_next_stream (h : Hub) (name : String) : (h.next (.stream name)).bare = h.bare := by
  cases hr : h.readers.find? name with
  | none => rw [next_of_no_reader (.stream name) rfl hr]
  | some r =>
    have hsame : (h.readers.insert name { r with isStream := true }).map Reader.bare
        = h.readers.map Reader.bare := by
      refine Dict.ext_find? fun other => ?_
      rw [Dict.find?_map, Dict.find?_map, Dict.find?_insert]
      split
      next hother => rw [hother, hr]; rfl
      next => rfl
    rw [next_stream hr]
    exact congrArg (fun d => { h with readers := d }) hsame

/-! ## Ways to read -/

/-- What a read comes to, in whichever way it is made. -/
inductive Sight where
  | beat (b : Beat)
  /-- Nothing waits for now. -/
  | nothingYet
  /-- Nothing will come any more. -/
  | ended

/-- The beat that a read comes to, if it does. -/
def Sight.beat? : Sight → Option Beat
  | .beat b => some b
  | _ => none

/-- The answer by which a way to read says what it comes to. -/
def Reading.tells (reading : Reading) : Sight → Except Refusal Answer
  | .beat b => reading.found b
  | .nothingYet => reading.nothingYet
  | .ended => reading.ended

/-- What a way to read says by an answer. One that waits in vain has no answer yet. -/
def Reading.sight? : Reading → Except Refusal Answer → Option Sight
  | .attempt, .ok (.taken (some b)) | .wait, .ok (.taken (some b))
  | .poll, .ok (.polled (.ready (some b))) => some (.beat b)
  | .attempt, .ok (.taken none) | .poll, .ok (.polled .pending)
  | .wait, .error .wouldBlock => some .nothingYet
  | .attempt, .error (.atEnd .closed) | .poll, .ok (.polled (.ready none))
  | .wait, .ok (.taken none) => some .ended
  | _, _ => none

theorem Reading.sight?_tells (reading : Reading) (x : Sight) :
    reading.sight? (reading.tells x) = some x := by
  cases reading <;> cases x <;> rfl

/-- What a reader finds in its mailbox. -/
def sightOf (m : Mailbox) : Sight :=
  match m.waiting with
  | b :: _ => .beat b
  | [] => if m.isClosed then .ended else .nothingYet

section

variable {h : Hub} {name : String} {r : Reader} {s : Subscription}

/-- Every way to read says the same, each by its own answer. -/
theorem answer_eq_tells (hsub : h.subscription name = .ok (r, s)) (reading : Reading) :
    h.answer (.read name reading) = reading.tells (sightOf s.mailbox) := by
  rw [answer_read hsub]
  unfold Reading.answer sightOf
  cases s.mailbox.waiting with
  | cons b rest => rfl
  | nil => cases s.mailbox.isClosed <;> rfl

/-- Where a name has no subscription, every way to read is refused. -/
theorem answer_of_no_subscription {e : Refusal} (hsub : h.subscription name = .error e)
    (reading : Reading) : h.answer (.read name reading) = .error (.unknownName name) := by
  have he : e = .unknownName name := by
    cases hr : h.readers.find? name with
    | none =>
      simp only [subscription, reader, hr, bind, Except.bind] at hsub
      exact (Except.error.inj hsub).symm
    | some r =>
      cases hfind : h.subscription? r.id with
      | none =>
        simp only [subscription, reader, hr, bind, Except.bind, hfind] at hsub
        exact (Except.error.inj hsub).symm
      | some s => rw [subscription_of_reader hr hfind] at hsub; cases hsub
  simp only [answer, step, hsub, he]
  rfl

theorem beat?_sightOf (m : Mailbox) : (sightOf m).beat?.toList = m.waiting.take 1 := by
  rw [sightOf]
  cases m.waiting with
  | cons b rest => rfl
  | nil => cases m.isClosed <;> rfl

/-- Every way to read leads to the same hub. -/
theorem next_read_eq (hs : h.Sound) (name : String) (reading other : Reading) :
    h.next (.read name reading) = h.next (.read name other) := by
  cases hr : h.readers.find? name with
  | none => rw [next_of_no_reader _ rfl hr, next_of_no_reader _ rfl hr]
  | some r => rw [next_read hs hr, next_read hs hr]

/-- A read that comes to no beat changes nothing. -/
theorem next_read_of_no_beat (hs : h.Sound) (hsub : h.subscription name = .ok (r, s))
    (hnone : (sightOf s.mailbox).beat? = none) (reading : Reading) :
    h.next (.read name reading) = h := by
  obtain ⟨hr, hfind⟩ := reader_of_subscription hsub
  obtain ⟨b, hb, hfind⟩ := bus_of_subscription? hfind
  have hempty : s.mailbox.waiting = [] := by
    have htake := beat?_sightOf s.mailbox
    rw [hnone] at htake
    cases hw : s.mailbox.waiting with
    | nil => rfl
    | cons beat rest => rw [hw] at htake; cases htake
  rw [next_read hs hr]
  exact onMailbox_self hb
    (Bus.modifyMailbox_self (hs.buses _ _ hb) hfind (Mailbox.tryTake_snd_of_nil hempty))

end

/-! ## What steps show -/

/-- What a step shows, apart from the way of reading. -/
inductive Seen where
  | sight (x : Sight)
  | answer (a : Except Refusal Answer)

/-- What a step shows: a read what it comes to, if it says so, and all else its answer. To make a
stream of a subscription shows nothing. -/
def seen (h : Hub) (a : Action) : List Seen :=
  match a with
  | .read _ reading =>
    match reading.sight? (h.answer a) with
    | some x => [.sight x]
    | none => [.answer (h.answer a)]
  | .stream _ => []
  | a => [.answer (h.answer a)]

/-- Whether something that steps show does not depend on the way of reading. -/
structure IsBlind {α : Type} (f : Hub → Action → List α) : Prop where
  read : ∀ h name reading, f h (.read name reading) = f h (.read name .poll)
  stream : ∀ h name, f h (.stream name) = []
  bare : ∀ h a, a.makesStream = false → f h.bare a = f h a

theorem isBlind_seen : IsBlind seen where
  read h name reading := by
    cases hsub : h.subscription name with
    | ok p => simp only [seen, answer_eq_tells hsub, Reading.sight?_tells]
    | error e =>
      simp only [seen, answer_of_no_subscription hsub]
      cases reading <;> rfl
  stream _ _ := rfl
  bare h a ha := by
    cases a with
    | stream name => cases ha
    | _ => simp only [seen, answer_bare h ha]

theorem isBlind_taken (id : SubscriptionId) : IsBlind (taken id) where
  read h name reading := by
    have hhanded : h.handed (.read name reading) = h.handed (.read name .poll) := by
      cases hsub : h.subscription name with
      | ok p => rw [handed_read hsub, handed_read hsub]
      | error e =>
        rw [handed, handed, answer_of_no_subscription hsub, answer_of_no_subscription hsub]
    rw [taken, taken, hhanded]
  stream _ _ := rfl
  bare h a ha := by
    simp only [taken, isReaderOf_bare, handed, answer_bare h ha]

/-! ## Runs -/

section

variable {h : Hub} {α : Type} {f : Hub → Action → List α}

/-- What a step does to the bare hub is told by the gist of its action. -/
theorem bare_next (hs : h.Sound) (a : Action) : (h.next a).bare = h.bare.after a.gist.toList := by
  cases a with
  | stream name => exact bare_next_stream h name
  | read name reading =>
    rw [next_read_eq hs name reading .poll]
    exact (next_bare h rfl).symm
  | _ => exact (next_bare h rfl).symm

/-- What a step shows to the blind is told by the gist of its action. -/
theorem IsBlind.gist (hf : IsBlind f) (h : Hub) (a : Action) :
    f h a = along f h.bare a.gist.toList := by
  cases a with
  | stream name => exact hf.stream h name
  | read name reading =>
    rw [hf.read, ← hf.bare h _ rfl]
    exact (List.append_nil _).symm
  | _ =>
    rw [← hf.bare h _ rfl]
    exact (List.append_nil _).symm

theorem filterMap_gist_cons (a : Action) (run : List Action) :
    (a :: run).filterMap Action.gist = a.gist.toList ++ run.filterMap Action.gist := by
  rw [List.filterMap_cons]
  cases a.gist <;> rfl

theorem bare_after (hs : h.Sound) (run : List Action) :
    (h.after run).bare = h.bare.after (run.filterMap Action.gist) := by
  induction run generalizing h with
  | nil => rfl
  | cons a run ih =>
    rw [after_cons, ih (hs.next a), bare_next hs, filterMap_gist_cons, after_append]

theorem IsBlind.along (hf : IsBlind f) (hs : h.Sound) (run : List Action) :
    along f h run = Hub.along f h.bare (run.filterMap Action.gist) := by
  induction run generalizing h with
  | nil => rfl
  | cons a run ih =>
    rw [along_cons, ih (hs.next a), hf.gist, bare_next hs, filterMap_gist_cons, along_append]

end

end Hub

end AgentPulse
