import AgentPulse.Proofs.Metrics.Shown
import AgentPulse.Proofs.Session.Boards

/-!
# Registration is all or nothing

A registry takes the six series of a meter one by one and has no way back, and yet no meter is ever
registered in part: after any calls it holds of each label that was registered one series in each
family and of every other label none, so a label that is taken is refused at its first series
(`registered_whole_or_refused`). The boards of a session are such registries, seen from the outside.
-/

namespace AgentPulse.Metrics.Registry

/-- A registry after any calls, with the labels and meters that were handed out so far.

A label can be registered if and only if it was not before. A refusal is always for the label that
is taken, and changes neither the series nor any meter that is held, nor the text. In each family
there is one series for each label that is registered, which shows the meter that was handed out for
it, and there are no other series. What is shown to a meter changes what the series of its label
show, and no other. There is a text at all times.

A board is such a registry: used alike, the two refuse alike, hold the same meters and have the same
text. Each board of a session is what its own uses make of it, and no step uses both. -/
theorem registered_whole_or_refused :
    (∀ calls : List Call,
      let r := Registry.after {} calls
      let held := Registry.handedAlong {} calls
      (∀ label, (∃ meter, (r.register label).2 = .ok meter) ↔ label ∉ held.map (·.1)) ∧
      (∀ label flaw, (r.register label).2 = .error flaw →
        flaw = .taken ∧ (r.register label).1.series = r.series ∧
        (∀ e ∈ held, (r.register label).1.meters[e.2]? = r.meters[e.2]?) ∧
        (r.register label).1.expose = r.expose) ∧
      ((held.map (·.1)).Nodup ∧
        (∀ f ∈ families, r.series.filter (·.family.name = f.name)
          = held.map fun e => ⟨f, e.1, e.2⟩) ∧
        ∀ s ∈ r.series, s.family ∈ families) ∧
      (∀ label meter, (label, meter) ∈ held → ∀ t,
        (r.observe meter t).series = r.series ∧
        ∀ s ∈ r.series, (r.observe meter t).meterOf s
          = if s.label = label then (r.meterOf s).observe t else r.meterOf s) ∧
      ∃ text, r.expose = .ok text) ∧
    (∀ uses : List Board.Use,
      let calls := Registry.callsOf {} uses
      let r := Registry.after {} calls
      let b := Board.empty.after uses
      r.expose = .ok b.text ∧
      ∀ label,
        ((∃ meter, (r.register label).2 = .ok meter) ↔ ∃ b', b.register label = .ok b') ∧
        b.meter? label = (Dict.lookup label (Registry.handedAlong {} calls)).map
          fun meter => r.meters.getD meter {}) ∧
    (∀ (steps : List Session.Step) (scope : Scope),
      (Session.start.after steps).board scope
        = Board.empty.after (Session.usesAlong scope Session.start steps)) ∧
    ∀ (s : Session) (x : Session.Step),
      Session.uses .shared s x = [] ∨ Session.uses .own s x = [] := by
  refine ⟨fun calls => ?_, fun uses => ?_, Session.board_after_start, Session.uses_one⟩
  · intro r held
    have h : r.Whole held := whole_empty.after calls
    obtain ⟨b, hb⟩ := h.shows
    refine ⟨h.register_ok_iff, fun label flaw hflaw => ?_,
      ⟨h.labels, fun f hf => h.filter_series hf, fun s hs => (h.mem_series.mp hs).1⟩,
      fun label meter hmeter t => ⟨rfl, fun s hs => ?_⟩, _, hb.expose⟩
    · have hlabel : label ∈ held.map (·.1) := by
        by_contra hnot
        rw [h.register_of_not_mem hnot] at hflaw
        cases hflaw
      rw [h.register_of_mem hlabel] at hflaw ⊢
      cases hflaw
      exact ⟨rfl, rfl, fun e he => List.getElem?_append_left (h.made e he),
        expose_congr rfl fun s hs => h.getD_make (h.mem_series.mp hs).2⟩
    · have hheld := (h.mem_series.mp hs).2
      rw [meterOf, h.getD_observe hmeter]
      by_cases hlabel : s.label = label
      · have hsame : s.meter = meter := h.meter_unique hheld (hlabel ▸ hmeter)
        rw [if_pos hlabel, if_pos hsame, meterOf]
      · have hother : s.meter ≠ meter := fun e => hlabel (h.label_unique hheld (e ▸ hmeter))
        rw [if_neg hlabel, if_neg hother, meterOf]
  · intro calls r b
    have hb : Shows r (handedAlong {} calls) b := shows_empty.after uses
    exact ⟨hb.expose, fun label =>
      ⟨(hb.whole.register_ok_iff label).trans (hb.register_ok_iff label).symm, hb.meters label⟩⟩

/-- A label is registered a second time after another one: it is refused, the first meter goes on
under its label, and what it is shown is not seen under the other. -/
theorem registered_whole_or_refused_second_time :
    let calls : List Call := [.register "a", .register "b", .register "a"]
    let r := Registry.after {} calls
    let t : Totals := { published := 7 }
    (r.register "a").2 = .error .taken ∧ (r.register "a").1.expose = r.expose ∧
    ("a", 0) ∈ Registry.handedAlong {} calls ∧
    (∀ f ∈ families, ⟨f, "b", 1⟩ ∈ r.series ∧
      (r.observe 0 t).meterOf ⟨f, "b", 1⟩ = r.meterOf ⟨f, "b", 1⟩ ∧
      (r.observe 0 t).meterOf ⟨f, "a", 0⟩ = (r.meterOf ⟨f, "a", 0⟩).observe t) := by
  intro calls r t
  obtain ⟨-, hrefused, ⟨-, hseries, -⟩, hobserve, -⟩ := registered_whole_or_refused.1 calls
  have hflaw : (r.register "a").2 = .error .taken := rfl
  have hheld : Registry.handedAlong {} calls = [("a", 0), ("b", 1)] := rfl
  have hmem : ("a", 0) ∈ Registry.handedAlong {} calls := hheld ▸ List.mem_cons_self
  obtain ⟨-, -, -, htext⟩ := hrefused "a" .taken hflaw
  obtain ⟨-, hshown⟩ := hobserve "a" 0 hmem t
  refine ⟨hflaw, htext, hmem, fun f hf => ?_⟩
  have hfamily : r.series.filter (·.family.name = f.name) = [⟨f, "a", 0⟩, ⟨f, "b", 1⟩] :=
    (hseries f hf).trans (congrArg (List.map _) hheld)
  have hof : ∀ s ∈ [⟨f, "a", 0⟩, ⟨f, "b", 1⟩], s ∈ r.series := fun s hs =>
    List.mem_of_mem_filter (hfamily.symm ▸ hs)
  have ha := hof ⟨f, "a", 0⟩ List.mem_cons_self
  have hb := hof ⟨f, "b", 1⟩ (List.mem_cons_of_mem _ List.mem_cons_self)
  have hne : "b" ≠ "a" := by decide
  exact ⟨hb, (hshown _ hb).trans (if_neg hne), (hshown _ ha).trans (if_pos rfl)⟩

end AgentPulse.Metrics.Registry
