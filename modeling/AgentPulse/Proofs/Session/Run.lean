import AgentPulse.Session
import AgentPulse.Proofs.Conservation
import AgentPulse.Proofs.Metrics.Board

/-!
# Runs of a session

For its hub a step of a session is a run of hub actions (`Step.actions`, `hub_step`): one, many or
none. The step in which a reader waits while another step is taken stands apart, since the hub is
without the reader meanwhile; all other steps are plain.

For a meter at its place on a board, a plain step is nothing or an observation of some totals
(`told`, `meterAt_step`).
-/

namespace AgentPulse

namespace Bus

/-- Publishing many beats is publishing them one after the other. -/
theorem publishAll_fst (b : Bus) (beats : List Beat) :
    (Session.publishAll b beats).1 = b.applyAll (beats.map .publish) := by
  -- Only what becomes of the bus matters, not what is added up and noted beside it.
  have hfold : ∀ publish : Bus × Delivery × List Notice → Beat → Bus × Delivery × List Notice,
      (∀ x beat, (publish x beat).1 = (x.1.publish beat).1) →
      ∀ x, (beats.foldl publish x).1 = x.1.applyAll (beats.map .publish) := by
    intro publish hpublish
    induction beats with
    | nil => exact fun _ => rfl
    | cons beat beats ih =>
      intro x
      rw [List.foldl_cons, ih, hpublish]
      rfl
  rw [Session.publishAll]
  exact hfold _ (by intro x beat; rfl) _

end Bus

namespace Hub

variable {h : Hub} {handle : String} {b : Bus}

/-- Publishing through one handle changes the bus of the handle and nothing else. -/
theorem after_publish (hs : h.Sound) (hb : h.bus handle = .ok b) (beats : List Beat) :
    h.after (beats.map (.publish handle)) = h.setBus (b.applyAll (beats.map .publish)) := by
  obtain ⟨n, hfind, hbus⟩ := bus_eq_ok hb
  have hid : b.id = n := hs.numbered n b hbus
  induction beats generalizing h b with
  | nil =>
    obtain ⟨hlt, hget⟩ := List.getElem?_eq_some_iff.mp hbus
    show h = { h with buses := h.buses.set b.id b }
    rw [hid, ← hget, List.set_getElem_self]
  | cons beat beats ih =>
    have hops : operations n h (.publish handle beat) = [.publish beat] := if_pos hfind
    have hnext := buses_next hs (.publish handle beat) hbus
    rw [hops, Bus.applyAll_cons, Bus.applyAll_nil] at hnext
    have hfind' : (h.next (.publish handle beat)).handles.find? handle = some n := by
      rw [(handles_next hs rfl).1, hfind]
    have hid' : (b.apply (.publish beat)).id = n := (Bus.apply_frame b _).1.trans hid
    rw [List.map_cons, after_cons, ih (hs.next _) (bus_of_some hfind' hnext) hfind' hnext hid',
      next_publish hb]
    -- Both buses that are put there have one number, so the last one stays.
    have hlast : ((b.apply (.publish beat)).applyAll (beats.map .publish)).id
        = (b.publish beat).1.id := (Bus.applyAll_frame _ _).1
    rw [setBus, setBus, setBus, List.map_cons, Bus.applyAll_cons]
    show ({ h with buses := (h.buses.set _ _).set _ _ } : Hub) = _
    rw [hlast, List.set_set]

end Hub

namespace Session

/-- The session after steps, one after the other. -/
def after (s : Session) (steps : List Step) : Session :=
  steps.foldl (fun s x => (s.step x).session) s

@[simp] theorem after_nil (s : Session) : s.after [] = s := rfl

@[simp] theorem after_cons (s : Session) (x : Step) (steps : List Step) :
    s.after (x :: steps) = (s.step x).session.after steps := rfl

theorem after_append (s : Session) (steps more : List Step) :
    s.after (steps ++ more) = (s.after steps).after more := List.foldl_append ..

/-- All steps but those in which a reader waits while another step is taken. -/
def Step.isPlain : Step → Bool
  | .waitDuring .. => false
  | _ => true

/-- What a plain step does on the hub. -/
def Step.actions : Step → List Hub.Action
  | .onHub a => [a]
  | .publishMany handle beat count => (numbered beat count).map (.publish handle)
  | .report handle beat => [.publish handle beat]
  | .produce handle producers count agents =>
    (produced producers count agents).map (.publish handle)
  | _ => []

/-- The meter at a place on a board. -/
def meterAt (s : Session) (place : Scope × String) : Option Meter :=
  (s.board place.1).meter? place.2

/-- The totals that a step shows to the meter at a place. -/
def told (place : Scope × String) (s : Session) : Step → Option Totals
  | .observe name source =>
    if s.meters.find? name = some place then
      match source with
      | .inl t => some t
      | .inr handle =>
        match s.hub.bus handle with
        | .ok b => some b.totals
        | .error _ => none
    else none
  | _ => none

variable {s : Session}

/-! ## Steps that are apart from meters and buses -/

/-- Two sessions with the same hub, the same boards and the same names for meters. -/
structure SameBooks (s s' : Session) : Prop where
  hub : s'.hub = s.hub
  board : s'.board = s.board
  meters : s'.meters = s.meters

theorem sameBooks_setServers (s : Session) (servers : ServerTable)
    (r : Except ServerTable.Refusal (Answer × List Notice)) :
    s.SameBooks (s.setServers servers r).session := by
  cases r <;> exact ⟨rfl, rfl, rfl⟩

/-- Steps that look at buses, or at nothing that buses and meters are concerned with. -/
def Step.isApart : Step → Bool
  | .onHub _ | .publishMany .. | .report .. | .produce .. | .waitDuring .. | .registerMeter ..
  | .observe .. => false
  | _ => true

theorem sameBooks_step {x : Step} (hx : x.isApart = true) : s.SameBooks (s.step x).session := by
  cases x with
  | onHub => cases hx
  | publishMany => cases hx
  | report => cases hx
  | produce => cases hx
  | waitDuring => cases hx
  | registerMeter => cases hx
  | observe => cases hx
  | store name key beat =>
    rw [step]
    cases s.archive name <;> exact ⟨rfl, rfl, rfl⟩
  | putFile path content =>
    rw [step]
    cases Files.writeFile s.tree s.folder path content <;> exact ⟨rfl, rfl, rfl⟩
  | registerServer | updateServer | upsertServer | removeServer => exact sameBooks_setServers ..
  | _ => exact ⟨rfl, rfl, rfl⟩

/-! ## The hub -/

theorem step_onHub (a : Hub.Action) :
    (s.step (.onHub a)).session = { s with hub := s.hub.next a } := by
  rw [step, onHub, Hub.next]
  cases s.hub.step a with
  | error e => rfl
  | ok r => rfl

/-- A step that publishes beats through a handle, whatever it answers and notes. -/
theorem act_publish (hs : s.hub.Sound) (handle : String) (beats : List Beat) {f : Bus → Bus}
    (hf : ∀ b, f b = b.applyAll (beats.map .publish)) {g : Bus → Answer}
    {notices : Bus → List Notice} :
    (s.act do
      let b ← s.bus handle
      return (g b, { s with hub := s.hub.setBus (f b) }, notices b)).session
      = { s with hub := s.hub.after (beats.map (.publish handle)) } := by
  rw [bus]
  cases hb : s.hub.bus handle with
  | ok b =>
    rw [Hub.after_publish hs hb, ← hf]
    rfl
  | error e =>
    -- Without a bus nothing can be published.
    have hnone : ∀ beat, s.hub.next (.publish handle beat) = s.hub := fun beat => by
      rw [Hub.next, Hub.step, hb]
      rfl
    have hsame : s.hub.after (beats.map (.publish handle)) = s.hub := by
      clear hf
      induction beats with
      | nil => rfl
      | cons beat beats ih => rw [List.map_cons, Hub.after_cons, hnone, ih]
    rw [hsame]
    rfl

/-- Steps on buses. -/
def Step.isOnHub : Step → Bool
  | .onHub _ | .publishMany .. | .report .. | .produce .. => true
  | _ => false

/-- A step on buses changes the hub, by a run of actions, and nothing else. -/
theorem step_of_isOnHub (hs : s.hub.Sound) {x : Step} (hx : x.isOnHub = true) :
    (s.step x).session = { s with hub := s.hub.after x.actions } := by
  cases x with
  | onHub a => exact step_onHub a
  | publishMany handle beat count => exact act_publish hs handle _ fun b => Bus.publishAll_fst b _
  | report handle beat => exact act_publish hs handle [beat] fun _ => rfl
  | produce handle producers count agents =>
    exact act_publish hs handle _ fun b => Bus.publishAll_fst b _
  | _ => cases hx

theorem hub_setBoard (b : Board) (scope : Scope) : (s.setBoard b scope).hub = s.hub := by
  cases scope <;> rfl

/-- An observation is of some totals and changes the meter that the name stands for, or it is
refused. -/
theorem observe_cases (name : String) (source : Totals ⊕ String) :
    (∃ place t, s.meters.find? name = some place ∧
      told place s (.observe name source) = some t ∧
      s.step (.observe name source) = s.act (s.meterObserve name t)) ∨
    ((∀ place, told place s (.observe name source) = none) ∧
      (s.step (.observe name source)).session = s) := by
  cases hplace : s.meters.find? name with
  | none =>
    refine Or.inr ⟨fun place => by simp [told, hplace], ?_⟩
    cases source with
    | inl t => rw [step, meterObserve, hplace]; rfl
    | inr handle =>
      rw [step, bus]
      cases s.hub.bus handle with
      | error e => rfl
      | ok b =>
        show (s.act (s.meterObserve name b.totals)).session = s
        rw [meterObserve, hplace]
        rfl
  | some place =>
    cases source with
    | inl t => exact Or.inl ⟨place, t, rfl, by rw [told, if_pos hplace], rfl⟩
    | inr handle =>
      cases hb : s.hub.bus handle with
      | ok b =>
        refine Or.inl ⟨place, b.totals, rfl, by rw [told, if_pos hplace, hb], ?_⟩
        rw [step, bus, hb]
        rfl
      | error e =>
        refine Or.inr ⟨fun other => ?_, ?_⟩
        · simp only [told, hb]
          split <;> rfl
        · rw [step, bus, hb]
          rfl

theorem session_meterObserve {name : String} {place : Scope × String} (t : Totals)
    (hplace : s.meters.find? name = some place) :
    (s.act (s.meterObserve name t)).session
      = s.setBoard ((s.board place.1).observe place.2 t) place.1 := by
  rw [meterObserve, hplace]
  rfl

theorem answer_meterObserve {name : String} {place : Scope × String} {m : Meter} (t : Totals)
    (hplace : s.meters.find? name = some place) (hm : s.meterAt place = some m) :
    (s.act (s.meterObserve name t)).answer
      = .ok (.metered (m.observe t).published (m.observe t).dropped) := by
  have hmeter : (s.board place.1).meter? place.2 = some m := hm
  have hnew : ((s.board place.1).observe place.2 t).meter? place.2 = some (m.observe t) := by
    rw [Board.meter?_observe, if_pos rfl, hmeter]
    rfl
  rw [meterObserve, hplace]
  simp only [act, hnew, Option.getD_some]

theorem hub_observe (name : String) (source : Totals ⊕ String) :
    (s.step (.observe name source)).session.hub = s.hub := by
  rcases observe_cases (s := s) name source with ⟨place, t, hplace, -, hstep⟩ | ⟨-, hstep⟩
  · rw [hstep, session_meterObserve t hplace, hub_setBoard]
  · rw [hstep]

theorem step_registerMeter_of_error {name label : String} {scope : Scope} {e : Board.Refusal}
    (he : (s.board scope).register label = .error e) :
    (s.step (.registerMeter name label scope)).session = s := by
  rw [step, he]
  rfl

theorem step_registerMeter_of_ok {name label : String} {scope : Scope} {b : Board}
    (hb : (s.board scope).register label = .ok b) :
    (s.step (.registerMeter name label scope)).session
      = { s.setBoard b scope with meters := s.meters.insert name (scope, label) } := by
  rw [step, hb]
  rfl

/-- For the hub a plain step is a run of actions. -/
theorem hub_step (hs : s.hub.Sound) {x : Step} (hx : x.isPlain = true) :
    (s.step x).session.hub = s.hub.after x.actions := by
  cases x with
  | waitDuring => cases hx
  | onHub | publishMany | report | produce => rw [step_of_isOnHub hs rfl]
  | registerMeter name label scope =>
    cases hr : (s.board scope).register label with
    | error e => rw [step_registerMeter_of_error hr]; rfl
    | ok b => rw [step_registerMeter_of_ok hr]; exact hub_setBoard b scope
  | observe name source => exact hub_observe name source
  | _ => exact (sameBooks_step rfl).hub

/-! ## Meters -/

theorem board_setBoard (b : Board) (scope other : Scope) :
    (s.setBoard b scope).board other = if other = scope then b else s.board other := by
  cases scope <;> cases other <;> rfl

theorem meterAt_of_board {s' : Session} (h : s'.board = s.board) (place : Scope × String) :
    s'.meterAt place = s.meterAt place := by
  rw [meterAt, h, meterAt]

theorem meterAt_observe {place : Scope × String} {m : Meter} (hm : s.meterAt place = some m)
    (other : Scope × String) (t : Totals) :
    (s.setBoard ((s.board other.1).observe other.2 t) other.1).meterAt place
      = some (if other = place then m.observe t else m) := by
  by_cases hplace : other = place
  · rw [if_pos hplace, meterAt, board_setBoard, hplace, if_pos rfl, Board.meter?_observe,
      if_pos rfl]
    rw [meterAt] at hm
    rw [hm]
    rfl
  · rw [if_neg hplace, meterAt, board_setBoard]
    split
    next hscope =>
      -- Another label of the same board.
      have hlabel : place.2 ≠ other.2 := fun e => hplace (Prod.ext hscope.symm e.symm)
      rw [Board.meter?_observe, if_neg hlabel, ← hscope]
      exact hm
    next => exact hm

/-- A label that has no meter can be registered. -/
theorem meterAt_registerMeter (name label : String) (scope : Scope)
    (hnone : s.meterAt (scope, label) = none) :
    (s.step (.registerMeter name label scope)).session.meterAt (scope, label) = some {} := by
  have hregister := Board.register_of_none (b := s.board scope) hnone
  rw [step_registerMeter_of_ok hregister]
  show (s.setBoard _ scope).meterAt (scope, label) = _
  rw [meterAt, board_setBoard, if_pos rfl, (Board.register_eq_ok hregister).2, if_pos rfl]

/-- For a meter a plain step is nothing, or an observation of what the meter is told. -/
theorem meterAt_step {place : Scope × String} {m : Meter} (hs : s.hub.Sound)
    (hm : s.meterAt place = some m) {x : Step} (hx : x.isPlain = true) :
    (s.step x).session.meterAt place
      = some (match told place s x with
        | some t => m.observe t
        | none => m) := by
  cases x with
  | waitDuring => cases hx
  | onHub | publishMany | report | produce =>
    rw [step_of_isOnHub hs rfl]
    exact hm
  | registerMeter name label scope =>
    cases hr : (s.board scope).register label with
    | error e =>
      rw [step_registerMeter_of_error hr]
      exact hm
    | ok b =>
      obtain ⟨hnone, hb⟩ := Board.register_eq_ok hr
      rw [step_registerMeter_of_ok hr]
      show (s.setBoard b scope).meterAt place = some m
      rw [meterAt, board_setBoard]
      split
      next hscope =>
        -- The label of the meter is taken, so it was another one that was registered.
        have hlabel : place.2 ≠ label := fun e => by
          rw [meterAt, hscope, e, hnone] at hm
          cases hm
        rw [hb, if_neg hlabel, ← hscope]
        exact hm
      next => exact hm
  | observe name source =>
    rcases observe_cases (s := s) name source with ⟨other, t, hother, htold, hstep⟩ | ⟨htold, hstep⟩
    · rw [hstep, session_meterObserve t hother, meterAt_observe hm]
      by_cases hplace : other = place
      · rw [if_pos hplace, ← hplace, htold]
      · have hnone : told place s (.observe name source) = none := by
          simp [told, hother, hplace]
        rw [if_neg hplace, hnone]
    · rw [hstep, htold place, hm]
  | _ => exact (meterAt_of_board (sameBooks_step rfl).board place).trans hm

end Session

end AgentPulse
