import AgentPulse.Proofs.Bus.Audit
import AgentPulse.Proofs.Closing
import AgentPulse.Proofs.Conservation

/-!
# The log of a bus is its audit trail

In a hub of one bus, what the steps of a run note (`notices`) is what the operations on the bus note
(`notices_eq`, `log_after`). So the log can be audited against the bus at any moment, and as long
as a handle leads to the bus nothing has been closed in silence.

Main statement: `log_is_audit_trail`.
-/

namespace AgentPulse.Hub

open Bus (Operation)
open Notice (isPublish isLoss isEntry isRemoval amount subject?)

variable {h : Hub} {n : Nat} {b : Bus} {run : List Action} {a : Action}

/-- What a step notes. -/
def notices (h : Hub) (a : Action) : List Notice :=
  match h.step a with
  | .ok (_, _, noted) => noted
  | .error _ => []

/-- What is noted about the bus of a number by what a step does to it. -/
def notedOn (n : Nat) (h : Hub) (a : Action) : List Notice :=
  match h.buses[n]? with
  | some b => b.log (operations n h a)
  | none => []

/-- The key and the identity of the subscription that a step makes. -/
def made (h : Hub) (a : Action) : List (String × SubscriptionId) :=
  match a, h.answer a with
  | .subscribe _ name key, .ok _ => ((h.next a).known.find? name).toList.map (key, ·)
  | _, _ => []

/-! ## What a step notes -/

theorem notedOn_of_bus (hb : h.buses[n]? = some b) (a : Action) :
    notedOn n h a = b.log (operations n h a) := by
  rw [notedOn, hb]

theorem notedOn_of_no_bus (hn : h.buses.length ≤ n) (a : Action) : notedOn n h a = [] := by
  rw [notedOn, List.getElem?_eq_none hn]

theorem notedOn_of_no_operations (hops : operations n h a = []) : notedOn n h a = [] := by
  unfold notedOn
  rw [hops]
  split <;> rfl

/-- Whether an action is one that nothing is noted about. -/
def Action.isSilent : Action → Bool
  | .publish .. | .subscribe .. | .unsubscribe .. | .discard _ => false
  | _ => true

theorem notices_of_isSilent (h : Hub) (ha : a.isSilent = true) : notices h a = [] := by
  cases a with
  | create handle limits =>
    cases hc : limits.check with
    | error flaw => simp only [notices, step, Bus.create, hc]; rfl
    | ok _ => simp only [notices, step, Bus.create, hc]; rfl
  | clone handle copy =>
    cases hb : h.bus handle with
    | error refusal => simp only [notices, step, hb]; rfl
    | ok b => simp only [notices, step, hb]; rfl
  | release handle =>
    cases hb : h.bus handle with
    | error refusal => simp only [notices, step, hb]; rfl
    | ok b => simp only [notices, step, hb]; rfl
  | read name reading =>
    cases hsub : h.subscription name with
    | error refusal => simp only [notices, step, hsub]; rfl
    | ok p =>
      simp only [notices, step, hsub, bind, Except.bind]
      cases reading with
      | attempt => cases p.2.mailbox.tryTake.1 <;> rfl
      | poll => rfl
      | wait => cases p.2.mailbox.take? <;> rfl
  | drain name =>
    cases hsub : h.subscription name with
    | error refusal => simp only [notices, step, hsub]; rfl
    | ok p => simp only [notices, step, hsub]; rfl
  | stream name =>
    cases hr : h.reader name with
    | error refusal => simp only [notices, step, hr]; rfl
    | ok r => simp only [notices, step, hr]; rfl
  | _ => cases ha

theorem notedOn_of_isSilent (h : Hub) (n : Nat) (ha : a.isSilent = true) : notedOn n h a = [] := by
  unfold notedOn
  split
  next b hb =>
    refine Bus.log_eq_nil b fun op hop => ?_
    cases cause_of_mem hop with
    | lost | read | drain => exact fun _ => rfl
    | _ => cases ha
  next => rfl
/-- Of a hub of one bus it is noted what a discarded reader leaves on this bus. -/
theorem notices_discardReader (hone : h.buses = [b]) (name : String) :
    (h.discardReader name).2 = b.log (h.discards name 0) := by
  unfold discardReader discards
  cases hr : h.readers.find? name with
  | none => rfl
  | some r =>
    by_cases hbus : r.id.bus = 0
    · simp only [hone, hbus, List.getElem?_cons_zero, if_true, Bus.log_cons, Bus.log_nil,
        List.append_nil]
      rfl
    · obtain ⟨m, hm⟩ := Nat.exists_eq_succ_of_ne_zero hbus
      simp only [hone, hm, if_neg (Nat.succ_ne_zero m), List.getElem?_cons_succ, List.getElem?_nil]
      rfl

/-- Where there is at most one bus, a bus that is there is the only one. -/
theorem only_bus (hone : h.buses.length ≤ 1) (hb : h.buses[n]? = some b) :
    n = 0 ∧ h.buses = [b] := by
  have hlt := (List.getElem?_eq_some_iff.mp hb).1
  obtain ⟨c, hc⟩ := List.length_eq_one_iff.mp (by omega : h.buses.length = 1)
  obtain rfl : n = 0 := by omega
  rw [hc, List.getElem?_cons_zero] at hb
  cases hb
  exact ⟨rfl, hc⟩

/-- In a hub of at most one bus, a step notes what is noted about this bus. -/
theorem notices_eq (hs : h.Sound) (hone : h.buses.length ≤ 1) (a : Action) :
    notices h a = notedOn 0 h a := by
  -- Whatever handle there is leads to the one bus.
  have hhandle : ∀ {handle m}, h.handles.find? handle = some m →
      ∃ b, h.handles.find? handle = some 0 ∧ h.buses = [b] ∧ h.bus handle = .ok b := by
    intro handle m hfind
    obtain ⟨b, hb, hbus⟩ := hs.bus_of_handle hfind
    obtain ⟨rfl, hc⟩ := only_bus hone hb
    exact ⟨b, hfind, hc, hbus⟩
  by_cases ha : a.isSilent = true
  · rw [notices_of_isSilent h ha, notedOn_of_isSilent h 0 ha]
  · cases a with
    | publish handle beat =>
      cases hfind : h.handles.find? handle with
      | none =>
        rw [notedOn_of_no_operations (by rw [operations, hfind]; rfl)]
        simp only [notices, step, bus_of_none hfind]
        rfl
      | some m =>
        obtain ⟨b, hfind, hb, hbus⟩ := hhandle hfind
        rw [notices, step_publish hbus, notedOn, hb, operations, if_pos hfind]
        exact (List.append_nil _).symm
    | subscribe handle name key =>
      cases hfind : h.handles.find? handle with
      | none =>
        rw [notedOn_of_no_operations (by rw [operations, hfind])]
        simp only [notices, step, bus_of_none hfind]
        rfl
      | some m =>
        -- The reader that had the name is discarded on the bus that has the new subscription.
        obtain ⟨b, hfind, hb, hbus⟩ := hhandle hfind
        obtain ⟨count, hstep⟩ := step_subscribe hs hbus name key
        have hset : (h.setBus (b.subscribe key).1).buses = [(b.subscribe key).1] := by
          show h.buses.set b.id _ = _
          rw [hb, hs.numbered 0 b (by rw [hb]; rfl)]
          rfl
        rw [notices, hstep, notices_discardReader hset, notedOn, hb, operations, hfind]
        rfl
    | unsubscribe handle name key =>
      cases hid : h.known.find? name with
      | none =>
        rw [notedOn_of_no_operations (by rw [operations, hid])]
        simp only [notices, step, identity, hid]
        rfl
      | some id =>
        cases hfind : h.handles.find? handle with
        | none =>
          rw [notedOn_of_no_operations (by rw [operations, hid, hfind]; rfl)]
          simp only [notices, step, identity, hid, bus_of_none hfind]
          rfl
        | some m =>
          obtain ⟨b, hfind, hb, hbus⟩ := hhandle hfind
          simp only [notices, step_unsubscribe hid hbus, notedOn, hb, operations, hid,
            if_pos hfind]
          exact (List.append_nil _).symm
    | discard name =>
      cases hr : h.readers.find? name with
      | none =>
        rw [notedOn_of_no_operations (by rw [operations, discards, hr])]
        simp only [notices, step, reader, hr]
        rfl
      | some r =>
        obtain ⟨b, s, hb, -⟩ := hs.reader_subscription hr
        rw [notedOn, (only_bus hone hb).2, operations]
        simp only [notices, step, reader, hr]
        exact notices_discardReader (only_bus hone hb).2 name
    | _ => exact absurd rfl ha

/-! ## The log of a run -/

/-- The log of a hub of one bus is what is noted about this bus. -/
theorem along_notices (hone : (after {} run).buses.length ≤ 1) :
    along notices {} run = along (notedOn 0) {} run := by
  induction run using List.reverseRecOn with
  | nil => rfl
  | append_singleton run a ih =>
    have hs := sound_empty.after run
    rw [after_concat] at hone
    have hbefore := Nat.le_trans (handleChange_next hs a).length_le hone
    rw [along_concat, along_concat, ih hbefore, notices_eq hs hbefore]

/-- A bus in a run is a new bus after some operations, and what is noted about it is their log. -/
theorem log_after (hb : (after {} run).buses[n]? = some b) :
    ∃ limits, b = (Bus.ofLimits n limits).applyAll (along (operations n) {} run) ∧
      along (notedOn n) {} run = (Bus.ofLimits n limits).log (along (operations n) {} run) := by
  refine bus_induction (P := fun run b => ∃ limits,
    b = (Bus.ofLimits n limits).applyAll (along (operations n) {} run) ∧
      along (notedOn n) {} run = (Bus.ofLimits n limits).log (along (operations n) {} run))
    (fun run a limits hn _ _ => ?_) (fun run a b hb ih => ?_) hb
  · have hnone := along_of_no_bus (fun h a hs hn => operations_of_no_bus hs hn a) hn
    have hnone' := along_of_no_bus (fun h a _ hn => notedOn_of_no_bus hn a) hn
    refine ⟨limits, ?_, ?_⟩
    · rw [along_concat, hnone, operations_of_no_bus (sound_empty.after run) hn]
      rfl
    · rw [along_concat, along_concat, hnone, hnone', notedOn_of_no_bus hn,
        operations_of_no_bus (sound_empty.after run) hn]
      rfl
  · obtain ⟨limits, hbus, hlog⟩ := ih
    refine ⟨limits, ?_, ?_⟩
    · rw [along_concat, Bus.applyAll_append, ← hbus]
    · rw [along_concat, along_concat, Bus.log_append, ← hbus, hlog, notedOn_of_bus hb]

/-- A bus that a handle leads to at the end of a run was never closed. -/
theorem not_mem_close (hmem : n ∈ (after {} run).handles.values) :
    .close ∉ along (operations n) {} run := by
  induction run using List.reverseRecOn with
  | nil => exact List.not_mem_nil
  | append_singleton run a ih =>
    have hs := sound_empty.after run
    rw [after_concat] at hmem
    rw [along_concat, List.mem_append, not_or]
    refine ⟨?_, fun hclose => ?_⟩
    · by_cases hn : n < (after {} run).buses.length
      · exact ih ((handleChange_next hs a).mem_values hn hmem)
      · rw [along_of_no_bus (fun h a hs hn => operations_of_no_bus hs hn a) (Nat.le_of_not_lt hn)]
        exact List.not_mem_nil
    · cases cause_of_mem hclose with
      | lost _ gone => exact gone hmem

/-! ## The lines of the log -/

/-- As many losses are noted of a subscription as it had counted when it was last seen. -/
theorem lost_eq_count (hb : (after {} run).buses[n]? = some b) : ∀ i < b.issued,
    lost ⟨n, i⟩ run = .ofNat
      ((((along (notedOn n) {} run).filter isLoss).map subject?).count (some ⟨n, i⟩)) := by
  refine bus_induction (P := fun run b => ∀ i < b.issued, lost ⟨n, i⟩ run = .ofNat
      ((((along (notedOn n) {} run).filter isLoss).map subject?).count (some ⟨n, i⟩)))
    (fun run a limits _ _ _ i hi => absurd hi (Nat.not_lt_zero i)) (fun run a b hb ih i hi => ?_) hb
  have hs := sound_empty.after run
  have hbus := hs.buses n b hb
  obtain rfl : b.id = n := hs.numbered n b hb
  rw [along_concat, notedOn_of_bus hb, List.filter_append, List.map_append, List.count_append,
    UInt64.ofNat_add]
  rcases published_cases b.id (after {} run) a with ⟨hnone, -⟩ | ⟨handle, beat, rfl, hfind⟩
  · have hbeats := (published_eq b.id (after {} run) a).symm.trans hnone
    rw [Bus.filter_log_of_no_beats hbus hbeats, List.map_nil, List.count_nil,
      show UInt64.ofNat 0 = 0 from rfl, UInt64.add_zero]
    by_cases hold : i < b.issued
    · rw [(account_other ⟨b.id, i⟩ hb hold hnone).2, ih i hold]
    · rcases keys_operations b.id (after {} run) a with
        hkeys | ⟨handle, name, key, rfl, hfind, hkeys⟩
      · rw [Bus.issued_applyAll, hkeys] at hi
        exact absurd hi hold
      · -- The subscription is made by this step: it has lost nothing, and no loss names it.
        rw [Bus.issued_applyAll, hkeys] at hi
        obtain rfl : i = b.issued := Nat.le_antisymm (Nat.le_of_lt_succ hi) (Nat.le_of_not_lt hold)
        have hfresh := ((balanced_after hb).fresh b.issued (Nat.le_refl _)).1
        obtain ⟨limits, heq, hlog⟩ := log_after hb
        have hcounts := Bus.Counts.after b.id limits (along (operations b.id) {} run)
        rw [← heq, ← hlog] at hcounts
        have hnot := fun hmem => Nat.lt_irrefl _ (hcounts.known b.nextId hmem)
        rw [show (⟨b.id, b.issued⟩ : SubscriptionId) = b.nextId from rfl,
          (account_subscribe hfind hb name key hfresh).2.2, List.count_eq_zero.mpr hnot]
        rfl
  · have hops : operations b.id (after {} run) (.publish handle beat) = [.publish beat] :=
      if_pos hfind
    rw [hops] at hi ⊢
    rw [(account_publish ⟨b.id, i⟩ beat hfind hb hi).2, ih i hi, Bus.log_cons, Bus.log_nil,
      List.append_nil, Bus.subjects_notes_publish hbus,
      List.count_map_of_injective _ _ (Option.some_injective _), Bus.count_losers hbus]

/-- A step notes the subscription that it makes, and no other. -/
theorem filter_notices_isEntry (hs : h.Sound) (hone : h.buses.length ≤ 1) (a : Action) :
    (notices h a).filter isEntry = (made h a).map fun m => .subscribed m.1 m.2 := by
  rw [notices_eq hs hone]
  by_cases ha : ∃ handle name key, a = .subscribe handle name key
  · obtain ⟨handle, name, key, rfl⟩ := ha
    cases hfind : h.handles.find? handle with
    | none =>
      rw [notedOn_of_no_operations (by rw [operations, hfind])]
      simp only [made, answer, step, bus_of_none hfind]
      rfl
    | some m =>
      obtain ⟨b, hb, hbus⟩ := hs.bus_of_handle hfind
      obtain ⟨rfl, -⟩ := only_bus hone hb
      have hsound := hs.buses 0 b hb
      obtain ⟨count, hstep⟩ := step_subscribe hs hbus name key
      have hknown : (h.next (.subscribe handle name key)).known.find? name = some b.nextId := by
        rw [next_subscribe hs hbus, Dict.find?_insert, if_pos rfl]
      have hmade : made h (.subscribe handle name key) = [(key, b.nextId)] := by
        simp only [made, answer, hstep, Except.map, hknown]
        rfl
      rw [hmade, notedOn_of_bus hb, operations, hfind]
      simp only [if_true, List.singleton_append, Bus.log_cons, List.filter_append]
      rw [Bus.filter_notes_isEntry hsound,
        Bus.filter_log_of_no_keys (hsound.apply _) (keys_discards h name 0)]
      rfl
  · have hmade : made h a = [] := by
      cases a with
      | subscribe handle name key => exact absurd ⟨handle, name, key, rfl⟩ ha
      | _ => rfl
    rw [hmade]
    cases hb : h.buses[0]? with
    | none => rw [notedOn, hb]; rfl
    | some b =>
      rcases keys_operations 0 h a with hkeys | ⟨handle, name, key, e, -⟩
      · rw [notedOn_of_bus hb, Bus.filter_log_of_no_keys (hs.buses 0 b hb) hkeys]
        rfl
      · exact absurd ⟨handle, name, key, e⟩ ha

theorem filter_along_isEntry (hone : (after {} run).buses.length ≤ 1) :
    (along notices {} run).filter isEntry
      = (along made {} run).map fun m => .subscribed m.1 m.2 := by
  induction run using List.reverseRecOn with
  | nil => rfl
  | append_singleton run a ih =>
    have hs := sound_empty.after run
    rw [after_concat] at hone
    have hbefore := Nat.le_trans (handleChange_next hs a).length_le hone
    rw [along_concat, along_concat, List.filter_append, List.map_append, ih hbefore,
      filter_notices_isEntry hs hbefore]

/-- Unsubscribing what is not on the roster under the key is not noted. -/
theorem notices_unsubscribe_of_not_mem {handle name key : String}
    (hnot : ∀ b id, h.bus handle = .ok b → h.known.find? name = some id →
      id ∉ b.roster.under key) : notices h (.unsubscribe handle name key) = [] := by
  cases hid : h.known.find? name with
  | none => simp only [notices, step, identity, hid]; rfl
  | some id =>
    cases hb : h.bus handle with
    | error refusal => simp only [notices, step, identity, hid, hb]; rfl
    | ok b => rw [notices, step_unsubscribe hid hb, Bus.unsubscribe_of_not_mem (hnot b id hb hid)]

/-- Discarding the reader of a subscription that is not on the roster is not noted. -/
theorem notices_discard_of_not_mem {name : String}
    (hnot : ∀ r b, h.readers.find? name = some r → h.buses[r.id.bus]? = some b → ∀ key,
      r.id ∉ b.roster.under key) : notices h (.discard name) = [] := by
  cases hr : h.readers.find? name with
  | none => simp only [notices, step, reader, hr]; rfl
  | some r =>
    have hgone : notices h (.discard name) = (h.discardReader name).2 := by
      simp only [notices, step, reader, hr]
      rfl
    rw [hgone]
    simp only [discardReader, hr]
    cases hb : h.buses[r.id.bus]? with
    | none => rfl
    | some b =>
      show b.notes (.discard r.id) = []
      cases hsub : b.subscription? r.id with
      | none => exact Bus.notes_discard_of_none hsub
      | some s =>
        rw [Bus.notes_discard_of_some hsub, Bus.notes_unsubscribe_of_not_mem (hnot r b hr hb s.key)]

/-! ## Main statement -/

/-- In a run with one bus, all that the steps note is the log of this bus. As long as a handle leads
to the bus, the log is right about it at every moment:

There is one line for each published beat, and the deliveries and the losses that these lines count
add up to the totals of the bus, as far as 64 bits hold them. The losses noted of a subscription are
those that its mailbox has counted, also when it was last seen before now; and between two published
beats as many losses are noted as the second of them counts.

There is one line for each subscription that was made, in the order of subscribing. A subscription
is noted as closed at most once, after it was noted as made and under the same key, and it is so
noted as soon as it is not on the roster any more. What was made and not closed is the number of
open subscriptions. Unsubscribing or discarding what is not on the roster is not noted. -/
theorem log_is_audit_trail {run : List Action} {handle : String} {b : Bus}
    (hone : (after {} run).buses.length = 1) (hlive : (after {} run).bus handle = .ok b) :
    let h := after {} run
    let log := along notices {} run
    let losses := (log.filter isLoss).map subject?
    let entries := (log.filter isEntry).map subject?
    let removals := (log.filter isRemoval).map subject?
    (b.totals.published = .ofNat (log.filter isPublish).length ∧
      b.totals.delivered = .ofNat ((log.filter isPublish).map (amount "delivered")).sum ∧
      b.totals.dropped = .ofNat ((log.filter isPublish).map (amount "dropped")).sum) ∧
    ((∀ m ∈ along made {} run, lost m.2 run = .ofNat (losses.count (some m.2))) ∧
      ∀ owner r s, h.subscription owner = .ok (r, s) →
        s.mailbox.dropped = .ofNat (losses.count (some r.id))) ∧
    (∀ before between line rest, log = before ++ between ++ line :: rest → line.isPublish →
      (before = [] ∨ ∃ earlier first, before = earlier ++ [first] ∧ first.isPublish) →
      between.filter isPublish = [] →
      (between.filter isLoss).length = line.amount "dropped") ∧
    (log.filter isEntry = (along made {} run).map (fun m => .subscribed m.1 m.2) ∧
      entries.Nodup) ∧
    (removals.Nodup ∧ ∀ line ∈ log, line.isRemoval → ∃ first : Notice, first.isEntry ∧
      first.fields = line.fields ∧ [first, line].Sublist log) ∧
    (∀ id, some id ∈ removals ↔ some id ∈ entries ∧ ∀ key, id ∉ b.roster.under key) ∧
    (log.filter isEntry).length = (log.filter isRemoval).length + b.totals.subscriptions ∧
    (∀ other name key, (∀ id, h.known.find? name = some id → id ∉ b.roster.under key) →
      notices h (.unsubscribe other name key) = []) ∧
    ∀ name, (∀ r, h.readers.find? name = some r → ∀ key, r.id ∉ b.roster.under key) →
      notices h (.discard name) = [] := by
  intro h log losses entries removals
  have hs : h.Sound := sound_empty.after run
  obtain ⟨m, hfind, hb⟩ := bus_eq_ok hlive
  obtain ⟨rfl, hbuses⟩ := only_bus (Nat.le_of_eq hone) hb
  have honly : ∀ {k c}, h.buses[k]? = some c → k = 0 ∧ b = c := fun hc => by
    obtain ⟨hk, hlast⟩ := only_bus (Nat.le_of_eq hone) hc
    exact ⟨hk, List.singleton_inj.mp (hbuses.symm.trans hlast)⟩
  have hbus := hs.buses 0 b hb
  have hzero : b.id = 0 := hs.numbered 0 b hb
  -- The log is what the operations of the run on the bus note, and none of them closes the bus.
  have hlog : log = along (notedOn 0) {} run := along_notices (Nat.le_of_eq hone)
  obtain ⟨limits, heq, hnoted⟩ := log_after hb
  have hcounts := Bus.Counts.after 0 limits (along (operations 0) {} run)
  have hregisters := Bus.Registers.after 0 limits (not_mem_close (mem_values.mpr ⟨handle, hfind⟩))
  rw [← heq, ← hnoted, ← hlog] at hcounts hregisters
  have hmade : log.filter isEntry = _ := filter_along_isEntry (Nat.le_of_eq hone)
  have hlost : ∀ id : SubscriptionId, id.bus = 0 → id.serial < b.issued →
      lost id run = .ofNat (losses.count (some id)) := fun id hid hlt => by
    have hcount := lost_eq_count hb id.serial hlt
    rw [← hlog, ← hid] at hcount
    exact hcount
  refine ⟨⟨hcounts.published, hcounts.delivered, hcounts.dropped⟩,
    ⟨fun m hm => ?_, fun owner r s hsub => ?_⟩,
    fun before between line rest e hline hbefore hbetween =>
      (e ▸ hcounts.sumsUp).length_losses hline hbefore hbetween,
    ⟨hmade, hregisters.nodup_entries⟩, ⟨hregisters.nodup_removals, fun line hmem hline => ?_⟩,
    fun id => hregisters.mem_removals hbus, hregisters.length_entries,
    fun other name key hnot => ?_, fun name hnot => ?_⟩
  · -- Who was made was given one of the identities of the bus.
    have hentry : some m.2 ∈ (log.filter isEntry).map subject? := by
      rw [hmade, List.map_map]
      exact List.mem_map.mpr ⟨m, hm, Notice.subject?_subscribed m.1 m.2⟩
    rw [hregisters.entered, List.mem_map] at hentry
    obtain ⟨i, hi, e⟩ := hentry
    rw [← Option.some.inj e]
    exact hlost _ hzero (List.mem_range.mp hi)
  · obtain ⟨-, hfound⟩ := reader_of_subscription hsub
    rw [← lost_of_some hfound]
    obtain ⟨c, hc, hfind'⟩ := bus_of_subscription? hfound
    obtain ⟨hid, rfl⟩ := honly hc
    exact hlost r.id hid (hbus.issued hfind').2
  · obtain ⟨key, id, rfl⟩ := Notice.eq_unsubscribed hline
    exact ⟨.subscribed key id, rfl, rfl, hregisters.paired key id hmem⟩
  · refine notices_unsubscribe_of_not_mem fun c id hc hid => ?_
    obtain ⟨k, -, hc⟩ := bus_eq_ok hc
    obtain ⟨-, rfl⟩ := honly hc
    exact hnot id hid
  · refine notices_discard_of_not_mem fun r c hr hc => ?_
    obtain ⟨-, rfl⟩ := honly hc
    exact hnot r hr

/-- Two readers of a bus with mailboxes for one beat, of which the one never reads and is then
unsubscribed, and the other is discarded: two losses of the first are noted, and two closed
subscriptions. Unsubscribing once more is not noted. -/
theorem log_is_audit_trail_slow_reader :
    let run : List Action := [.create "bus" ⟨1, 1⟩, .subscribe "bus" "slow" "a",
      .subscribe "bus" "quick" "*", .publish "bus" { agent := "a", status := "idle" },
      .read "quick" .attempt, .publish "bus" { agent := "a", status := "idle" },
      .read "quick" .attempt, .publish "bus" { agent := "a", status := "idle" },
      .unsubscribe "bus" "slow" "*", .unsubscribe "bus" "slow" "a", .discard "quick"]
    let log := along notices {} run
    ∃ b, (after {} run).bus "bus" = .ok b ∧ b.totals.published = 3 ∧ b.totals.delivered = 4 ∧
      b.totals.dropped = 2 ∧ lost ⟨0, 0⟩ run = 2 ∧
      (log.filter isEntry).length = (log.filter isRemoval).length + b.totals.subscriptions ∧
      (log.filter isRemoval).length = 2 ∧
      notices (after {} run) (.unsubscribe "bus" "slow" "a") = [] := by
  intro run log
  obtain ⟨b, hb⟩ : ∃ b, (after {} run).bus "bus" = .ok b := ⟨_, rfl⟩
  obtain ⟨⟨hpublished, hdelivered, hdropped⟩, ⟨hlost, -⟩, -, -, -, hgone, hlength, hsilent, -⟩ :=
    log_is_audit_trail (by decide +kernel) hb
  refine ⟨b, hb, ?_, ?_, ?_, ?_, hlength, by decide +kernel, ?_⟩
  · rw [hpublished]
    decide +kernel
  · rw [hdelivered]
    decide +kernel
  · rw [hdropped]
    decide +kernel
  · rw [hlost ("a", ⟨0, 0⟩) (by decide +kernel)]
    decide +kernel
  · refine hsilent "bus" "slow" "a" fun id hid => ((hgone id).mp ?_).2 "a"
    obtain rfl : id = ⟨0, 0⟩ := by
      have hknown : (after {} run).known.find? "slow" = some ⟨0, 0⟩ := by decide +kernel
      rw [hknown] at hid
      exact (Option.some.inj hid).symm
    decide +kernel

end AgentPulse.Hub
