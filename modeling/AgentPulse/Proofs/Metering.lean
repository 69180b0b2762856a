import AgentPulse.Proofs.Session.Run

/-!
# A meter counts everything once

A meter is shown the totals of a bus now and then, and adds up how far they have advanced. As long
as it is shown one bus only, its counters are those of the bus whenever it is shown the bus as it
is, however often it was shown the bus before (`observed_once`). What carries this is that a meter's
counters equal the totals it was shown last (`Meter.IsExact`), and that the totals of a bus never go
back while they stay below the size of a word (`Counted.below`).
-/

namespace AgentPulse

/-! ## One observation -/

namespace Meter

/-- A meter that was shown totals and has counted all of them once. -/
def showing (t : Totals) : Meter where
  keys := gauge t.keys
  buffered := gauge t.buffered
  subscriptions := gauge t.subscriptions
  published := t.published
  delivered := t.delivered
  dropped := t.dropped
  baseline := t

/-- The counters equal the totals that the meter was shown last. -/
structure IsExact (m : Meter) : Prop where
  published : m.published = m.baseline.published
  delivered : m.delivered = m.baseline.delivered
  dropped : m.dropped = m.baseline.dropped

theorem isExact_new : ({} : Meter).IsExact := ⟨rfl, rfl, rfl⟩

theorem isExact_showing (t : Totals) : (showing t).IsExact := ⟨rfl, rfl, rfl⟩

theorem add_advance {before now : UInt64} (h : before.toNat ≤ now.toNat) :
    before + advance before now = now := by
  rw [advance, if_pos (UInt64.le_iff_toNat_le.mpr h), UInt64.add_comm, UInt64.sub_add_cancel]

/-- No total of the first is beyond that of the second. -/
structure UpTo (t t' : Totals) : Prop where
  published : t.published.toNat ≤ t'.published.toNat
  delivered : t.delivered.toNat ≤ t'.delivered.toNat
  dropped : t.dropped.toNat ≤ t'.dropped.toNat

/-- Totals that have not gone back are counted once. -/
theorem IsExact.observe {m : Meter} (h : m.IsExact) {t : Totals} (ht : UpTo m.baseline t) :
    m.observe t = showing t := by
  rw [Meter.observe, showing, h.published, h.delivered, h.dropped, add_advance ht.published,
    add_advance ht.delivered, add_advance ht.dropped]

theorem gauge_of_le {n : Nat} (h : n ≤ gaugeMax) : gauge n = n := Nat.min_eq_left h

end Meter

/-! ## The totals of a bus -/

theorem Delivery.total_append (l more : List Delivery) :
    total (l ++ more) = total l + total more := by
  induction l with
  | nil => simp [total, add_eq]
  | cons d l ih =>
    show d + total (l ++ more) = d + total l + total more
    rw [ih]
    simp only [add_eq, Nat.add_assoc]

/-- What has gone through a bus, counted without a bound. -/
structure Traffic where
  published : Nat
  delivered : Nat
  dropped : Nat

namespace Traffic

/-- Whether all counts fit into words. -/
structure Fits (c : Traffic) : Prop where
  published : c.published < UInt64.size
  delivered : c.delivered < UInt64.size
  dropped : c.dropped < UInt64.size

/-- No total is beyond what was counted. -/
structure Covers (c : Traffic) (t : Totals) : Prop where
  published : t.published.toNat ≤ c.published
  delivered : t.delivered.toNat ≤ c.delivered
  dropped : t.dropped.toNat ≤ c.dropped

/-- Each total is what was counted. -/
structure Is (c : Traffic) (t : Totals) : Prop where
  published : t.published.toNat = c.published
  delivered : t.delivered.toNat = c.delivered
  dropped : t.dropped.toNat = c.dropped

variable {c : Traffic} {t t' : Totals}

theorem Is.covers (h : c.Is t) : c.Covers t :=
  ⟨Nat.le_of_eq h.published, Nat.le_of_eq h.delivered, Nat.le_of_eq h.dropped⟩

theorem Is.upTo (h : c.Is t') (ht : c.Covers t) : Meter.UpTo t t' :=
  ⟨h.published ▸ ht.published, h.delivered ▸ ht.delivered, h.dropped ▸ ht.dropped⟩

end Traffic

namespace Hub

variable {n : Nat} {run more : List Action} {b : Bus}

/-- What has gone through a bus in a run. -/
def traffic (n : Nat) (run : List Action) : Traffic where
  published := (along (published n) {} run).length
  delivered := (Delivery.total (along (deliveries n) {} run)).delivered
  dropped := (Delivery.total (along (deliveries n) {} run)).dropped

/-- What has gone through a bus does not become less. -/
theorem traffic_mono (n : Nat) (run more : List Action) :
    (traffic n run).published ≤ (traffic n (run ++ more)).published ∧
    (traffic n run).delivered ≤ (traffic n (run ++ more)).delivered ∧
    (traffic n run).dropped ≤ (traffic n (run ++ more)).dropped := by
  rw [traffic, traffic, along_append, along_append, Delivery.total_append, List.length_append,
    Delivery.add_eq]
  exact ⟨Nat.le_add_right .., Nat.le_add_right .., Nat.le_add_right ..⟩

theorem fits_of_append (h : (traffic n (run ++ more)).Fits) : (traffic n run).Fits := by
  obtain ⟨published, delivered, dropped⟩ := traffic_mono n run more
  exact ⟨Nat.lt_of_le_of_lt published h.published, Nat.lt_of_le_of_lt delivered h.delivered,
    Nat.lt_of_le_of_lt dropped h.dropped⟩

theorem covers_append {t : Totals} (h : (traffic n run).Covers t) (more : List Action) :
    (traffic n (run ++ more)).Covers t := by
  obtain ⟨published, delivered, dropped⟩ := traffic_mono n run more
  exact ⟨h.published.trans published, h.delivered.trans delivered, h.dropped.trans dropped⟩

/-- Below the size of a word the totals of a bus are exact. -/
theorem is_totals (hb : (after {} run).buses[n]? = some b) (hfits : (traffic n run).Fits) :
    (traffic n run).Is b.totals := by
  obtain ⟨published, delivered, dropped⟩ := counted_after hb
  refine ⟨?_, ?_, ?_⟩
  · show b.published.toNat = _
    rw [published]
    exact UInt64.toNat_ofNat_of_lt' hfits.published
  · show b.delivered.toNat = _
    rw [delivered]
    exact UInt64.toNat_ofNat_of_lt' hfits.delivered
  · show b.dropped.toNat = _
    rw [dropped]
    exact UInt64.toNat_ofNat_of_lt' hfits.dropped

end Hub

/-! ## Many observations -/

namespace Session

section

variable {s : Session} {n : Nat} {place : Scope × String} {steps : List Step}
  {run : List Hub.Action}

/-- Whether a step shows nothing to the meter at a place, or the totals that the bus of a number
has at this moment. An observation takes its snapshot when it is made; totals that are handed over
are not allowed, not even those that the bus had before. -/
def showsOnly (n : Nat) (place : Scope × String) (s : Session) : Step → Bool
  | .observe name source =>
    s.meters.find? name != some place ||
      match source with
      | .inl _ => false
      | .inr handle => (s.hub.handles.find? handle).all (· == n)
  | _ => true

/-- Whether all that steps show to the meter at a place is what the bus of a number has then. -/
def showOnly (n : Nat) (place : Scope × String) (s : Session) : List Step → Bool
  | [] => true
  | x :: steps => s.showsOnly n place x && (s.step x).session.showOnly n place steps

theorem told_of_showsOnly {x : Step} (hx : s.showsOnly n place x = true) {t : Totals}
    (ht : told place s x = some t) :
    ∃ b, s.hub.buses[n]? = some b ∧ t = b.totals ∧ x.actions = [] := by
  cases x with
  | observe name source =>
    by_cases hname : s.meters.find? name = some place
    · cases source with
      | inl t => simp [showsOnly, hname] at hx
      | inr handle =>
        cases hb : s.hub.bus handle with
        | error e => simp [told, hb] at ht
        | ok b =>
          obtain ⟨m, hfind, hbus⟩ := Hub.bus_eq_ok hb
          obtain rfl : m = n := by simpa [showsOnly, hname, hfind] using hx
          obtain rfl : b.totals = t := by simpa [told, hname, hb] using ht
          exact ⟨b, hbus, rfl, rfl⟩
    · simp [told, hname] at ht
  | _ => cases ht

/-- A meter that has counted a bus once goes on to do so. -/
structure Counts (n : Nat) (run : List Hub.Action) (m : Meter) : Prop where
  exact : m.IsExact
  covers : (Hub.traffic n run).Covers m.baseline

/-- The hub of a new session after steps. -/
theorem hub_after (hs : s.hub.Sound) (hplain : ∀ x ∈ steps, x.isPlain = true) :
    (s.after steps).hub = s.hub.after (steps.flatMap Step.actions) := by
  induction steps generalizing s with
  | nil => rfl
  | cons x steps ih =>
    have hhub := hub_step hs (hplain x List.mem_cons_self)
    rw [after_cons, ih (hhub ▸ hs.after _) fun y hy => hplain y (List.mem_cons_of_mem _ hy), hhub,
      List.flatMap_cons, Hub.after_append]

theorem counts_step {m : Meter} (hhub : s.hub = Hub.after {} run) (hm : s.meterAt place = some m)
    (hc : Counts n run m) {x : Step} (hplain : x.isPlain = true)
    (hx : s.showsOnly n place x = true)
    (hfits : (Hub.traffic n (run ++ x.actions)).Fits) :
    ∃ m', (s.step x).session.meterAt place = some m' ∧ Counts n (run ++ x.actions) m' := by
  have hs : s.hub.Sound := hhub ▸ Hub.sound_empty.after run
  refine ⟨_, meterAt_step hs hm hplain, ?_⟩
  cases ht : told place s x with
  | none => exact ⟨hc.exact, Hub.covers_append hc.covers _⟩
  | some t =>
    obtain ⟨b, hb, rfl, hactions⟩ := told_of_showsOnly hx ht
    have his := Hub.is_totals (hhub ▸ hb) (Hub.fits_of_append hfits)
    show Counts n _ (m.observe b.totals)
    rw [hc.exact.observe (his.upTo hc.covers), hactions, List.append_nil]
    exact ⟨Meter.isExact_showing _, his.covers⟩

theorem counts_after {m : Meter} (hhub : s.hub = Hub.after {} run) (hm : s.meterAt place = some m)
    (hc : Counts n run m) (hplain : ∀ x ∈ steps, x.isPlain = true)
    (honly : s.showOnly n place steps = true)
    (hfits : (Hub.traffic n (run ++ steps.flatMap Step.actions)).Fits) :
    ∃ m', (s.after steps).meterAt place = some m' ∧
      Counts n (run ++ steps.flatMap Step.actions) m' := by
  induction steps generalizing s run m with
  | nil =>
    rw [List.flatMap_nil, List.append_nil]
    exact ⟨m, hm, hc⟩
  | cons x steps ih =>
    rw [showOnly, Bool.and_eq_true] at honly
    rw [List.flatMap_cons, ← List.append_assoc] at hfits ⊢
    have hx := hplain x List.mem_cons_self
    have hs : s.hub.Sound := hhub ▸ Hub.sound_empty.after run
    obtain ⟨m', hm', hc'⟩ := counts_step hhub hm hc hx honly.1 (Hub.fits_of_append hfits)
    refine ih ?_ hm' hc' (fun y hy => hplain y (List.mem_cons_of_mem _ hy)) honly.2 hfits
    rw [hub_step hs hx, hhub, Hub.after_append]

end

/-! ## From the registration on -/

/-- The steps of a session around a meter: what is done before it is registered, what is done from
then on, and the observation of a bus in the end. -/
structure Watch where
  before : List Step := []
  name : String
  label : String
  scope : Scope
  during : List Step
  handle : String

namespace Watch

/-- The place of the meter. -/
def place (w : Watch) : Scope × String := (w.scope, w.label)

/-- All steps but the observation in the end. -/
def steps (w : Watch) : List Step :=
  w.before ++ .registerMeter w.name w.label w.scope :: w.during

/-- The session that the observation finds. -/
def found (w : Watch) : Session := start.after w.steps

/-- The observation and what it leads to. -/
def outcome (w : Watch) : Reply := w.found.step (.observe w.name (.inr w.handle))

/-- What was done on the hub. -/
def actions (w : Watch) : List Hub.Action := w.steps.flatMap Step.actions

/-- The meter is new when it is registered, it is shown one bus only, by snapshots that are taken at
the moment of each observation, and lastly that bus as it is, and the totals of the bus fit into
words. -/
structure IsOf (n : Nat) (w : Watch) : Prop where
  plain : ∀ x ∈ w.before ++ w.during, x.isPlain = true
  fresh : (start.after w.before).meterAt w.place = none
  only : ((start.after w.before).step
    (.registerMeter w.name w.label w.scope)).session.showOnly n w.place w.during = true
  named : w.found.meters.find? w.name = some w.place
  current : w.found.hub.handles.find? w.handle = some n
  fits : (Hub.traffic n w.actions).Fits

variable {n : Nat} {w : Watch}

theorem hub_start : start.hub.Sound := Hub.sound_empty

theorem hub_found (h : w.IsOf n) : w.found.hub = Hub.after {} w.actions := by
  refine hub_after hub_start fun x hx => ?_
  rcases List.mem_append.mp hx with hx | hx
  · exact h.plain x (List.mem_append_left _ hx)
  · rcases List.mem_cons.mp hx with rfl | hx
    · rfl
    · exact h.plain x (List.mem_append_right _ hx)

/-- The meter has counted the bus once when the last observation finds it. -/
theorem counts_found (h : w.IsOf n) :
    ∃ m, w.found.meterAt w.place = some m ∧ Counts n w.actions m := by
  have hbefore : (start.after w.before).hub = Hub.after {} (w.before.flatMap Step.actions) :=
    hub_after hub_start fun x hx => h.plain x (List.mem_append_left _ hx)
  have hactions : w.actions
      = w.before.flatMap Step.actions ++ w.during.flatMap Step.actions := by
    rw [actions, steps, List.flatMap_append, List.flatMap_cons]
    rfl
  have hnew := meterAt_registerMeter w.name w.label w.scope h.fresh
  -- A new meter has counted nothing and was shown nothing.
  have hcounts : Counts n (w.before.flatMap Step.actions) {} :=
    ⟨Meter.isExact_new, Nat.zero_le _, Nat.zero_le _, Nat.zero_le _⟩
  have hhub := hub_step (hbefore ▸ Hub.sound_empty.after _)
    (x := .registerMeter w.name w.label w.scope) rfl
  rw [found, steps, after_append, after_cons, hactions]
  exact counts_after (hhub.trans hbefore) hnew hcounts
    (fun x hx => h.plain x (List.mem_append_right _ hx)) h.only (hactions ▸ h.fits)

/-- What the last observation leads to. -/
theorem outcome_eq (h : w.IsOf n) :
    ∃ b, w.found.hub.bus w.handle = .ok b ∧ w.found.hub.buses[n]? = some b ∧
      w.outcome.answer = .ok (.metered b.totals.published b.totals.dropped) ∧
      w.outcome.session.meterAt w.place = some (.showing b.totals) ∧
      (Hub.traffic n w.actions).Is b.totals := by
  obtain ⟨m, hm, hexact, hcovers⟩ := counts_found h
  have hhub := hub_found h
  have hs : w.found.hub.Sound := hhub ▸ Hub.sound_empty.after w.actions
  obtain ⟨b, hbus, hb⟩ := hs.bus_of_handle h.current
  have his := Hub.is_totals (hhub ▸ hbus) h.fits
  have hobserve : w.outcome = w.found.act (w.found.meterObserve w.name b.totals) := by
    rw [outcome, step, bus, hb]
    rfl
  have hshowing : m.observe b.totals = .showing b.totals := hexact.observe (his.upTo hcovers)
  refine ⟨b, hb, hbus, ?_, ?_, his⟩
  · rw [hobserve, answer_meterObserve _ h.named hm, hshowing]
    rfl
  · rw [hobserve, session_meterObserve _ h.named, meterAt_observe hm, if_pos rfl, hshowing]

end Watch

/-- After an observation of a bus as it is, a meter that was shown no other bus, and this one always
as it was at that moment, has the totals of this bus, whatever was done before it was registered and
since, and however often it was shown the bus: its counters count every beat once, and its gauges
show the sizes of the bus as far as a gauge goes. So any two meters that were last shown the same
are equal. -/
theorem observed_once {n : Nat} {w : Watch} (h : w.IsOf n) :
    ∃ b m, w.found.hub.bus w.handle = .ok b ∧ w.found.hub.buses[n]? = some b ∧
      w.outcome.answer = .ok (.metered m.published m.dropped) ∧
      w.outcome.session.meterAt w.place = some m ∧
      m.published.toNat = (Hub.along (Hub.published n) {} w.actions).length ∧
      m.published = b.totals.published ∧ m.delivered = b.totals.delivered ∧
      m.dropped = b.totals.dropped ∧
      (b.totals.keys ≤ Meter.gaugeMax → m.keys = b.totals.keys) ∧
      (b.totals.buffered ≤ Meter.gaugeMax → m.buffered = b.totals.buffered) ∧
      (b.totals.subscriptions ≤ Meter.gaugeMax → m.subscriptions = b.totals.subscriptions) ∧
      ∀ (n' : Nat) (w' : Watch) (b' : Bus), w'.IsOf n' → w'.found.hub.bus w'.handle = .ok b' →
        b'.totals = b.totals →
        w'.outcome.session.meterAt w'.place = some m := by
  obtain ⟨b, hb, hbus, hanswer, hmeter, his⟩ := Watch.outcome_eq h
  refine ⟨b, .showing b.totals, hb, hbus, hanswer, hmeter, his.published, rfl, rfl, rfl,
    Meter.gauge_of_le, Meter.gauge_of_le, Meter.gauge_of_le, fun n' w' b' h' hb' htotals => ?_⟩
  obtain ⟨c, hc, -, -, hmeter', -⟩ := Watch.outcome_eq h'
  rw [hb'] at hc
  cases hc
  rw [hmeter', htotals]

/-- A meter that is registered when there was traffic, is shown the bus twice in a row and then
misses some of it. -/
theorem observed_once_twice_in_a_row :
    let beat : Beat := { agent := "a", status := "idle" }
    let w : Watch := {
      before := [.onHub (.create "bus" ⟨1, 1⟩), .onHub (.subscribe "bus" "reader" "*"),
        .report "bus" beat]
      name := "meter", label := "agents", scope := .own
      during := [.observe "meter" (.inr "bus"), .observe "meter" (.inr "bus"),
        .publishMany "bus" beat 2]
      handle := "bus" }
    w.IsOf 0 ∧ ∃ m, w.outcome.session.meterAt w.place = some m ∧ m.published.toNat = 3 ∧
      m.delivered = 1 ∧ m.dropped = 2 ∧ m.subscriptions = 1 := by
  intro beat w
  have h : w.IsOf 0 := by
    refine ⟨by decide, by decide +kernel, by decide +kernel, by decide +kernel, by decide +kernel,
      ⟨by decide +kernel, by decide +kernel, by decide +kernel⟩⟩
  obtain ⟨b, m, -, hbus, -, hm, hpublished, -, hdelivered, hdropped, -, -, hsubscriptions, -⟩ :=
    observed_once h
  have htotals : (w.found.hub.buses[0]?).map Bus.totals = some ⟨1, 1, 1, 3, 1, 2⟩ := by
    decide +kernel
  rw [hbus, Option.map_some, Option.some.injEq] at htotals
  refine ⟨h, m, hm, ?_, ?_, ?_, ?_⟩
  · rw [hpublished]
    decide +kernel
  · rw [hdelivered, htotals]
  · rw [hdropped, htotals]
  · rw [htotals] at hsubscriptions
    exact hsubscriptions (by decide)

end Session

end AgentPulse
