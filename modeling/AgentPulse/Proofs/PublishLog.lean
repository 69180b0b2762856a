import AgentPulse.Proofs.Bus.Archive
import AgentPulse.Proofs.Bus.Counting
import AgentPulse.Proofs.Hub.View

/-!
# The archive of a bus is the end of its publish log

What a run publishes on a bus is its log (`Hub.published`). The archive of the bus holds the end of
this log for every agent, and all that a bus can be asked about the past is read off the log
(`archive_eq_log`). Subscriptions, their readers and their mailboxes do not come into it.
-/

namespace AgentPulse

namespace Bus

variable {b : Bus} {log : List Beat}

theorem capacity_apply (b : Bus) (op : Operation) :
    (b.apply op).archive.capacity = b.archive.capacity := by
  cases op with
  | unsubscribe key id => rw [apply, (sameRecords_unsubscribe b key id).archive]
  | discard id => rw [apply, (sameRecords_discard b id).archive]
  | _ => rfl

theorem capacity_applyAll (b : Bus) (ops : List Operation) :
    (b.applyAll ops).archive.capacity = b.archive.capacity := by
  induction ops generalizing b with
  | nil => rfl
  | cons op ops ih => rw [applyAll_cons, ih, capacity_apply]

/-- An operation stores what it publishes, and no other operation touches the archive. -/
theorem keeps_apply (h : b.archive.Keeps log) (op : Operation) :
    (b.apply op).archive.Keeps (log ++ op.beats) := by
  have hsame : ∀ {b' : Bus}, b'.archive = b.archive → b'.archive.Keeps (log ++ []) := by
    intro b' e
    rw [List.append_nil, e]
    exact h
  cases op with
  | publish beat => exact h.append beat
  | unsubscribe key id => exact hsame (sameRecords_unsubscribe b key id).archive
  | discard id => exact hsame (sameRecords_discard b id).archive
  | _ => exact hsame rfl

theorem keeps_applyAll (h : b.archive.Keeps log) (ops : List Operation) :
    (b.applyAll ops).archive.Keeps (log ++ ops.flatMap Operation.beats) := by
  induction ops generalizing b log with
  | nil =>
    rw [List.flatMap_nil, List.append_nil]
    exact h
  | cons op ops ih =>
    rw [List.flatMap_cons, ← List.append_assoc]
    exact ih (keeps_apply h op)

end Bus

namespace Hub

open Bus (Operation)

/-- The archive of a bus keeps the log of the bus, to the depth that the bus was made with. -/
theorem keeps_published {run : List Action} {n : Nat} {b : Bus}
    (hb : (after {} run).buses[n]? = some b) :
    b.archive.Keeps (along (published n) {} run) ∧ b.archive.capacity = b.limits.history := by
  obtain ⟨limits, hcheck, rfl⟩ := bus_after hb
  refine ⟨?_, ?_⟩
  · have hkeeps := Bus.keeps_applyAll (Archive.keeps_ofCapacity limits.history)
      (along (operations n) {} run) (b := Bus.ofLimits n limits)
    rw [along_flatMap, List.nil_append] at hkeeps
    rw [show published n = fun h a => (operations n h a).flatMap Operation.beats from
      funext fun h => funext fun a => published_eq n h a]
    exact hkeeps
  · rw [Bus.capacity_applyAll, (Bus.applyAll_frame _ _).2]
    -- A bus is made of checked limits only, so the archive has the depth that was asked for.
    have hpos : limits.history ≠ 0 := fun e => by
      rw [Limits.check, if_pos e] at hcheck
      cases hcheck
    show max limits.history 1 = limits.history
    omega

/-- Whatever a bus answers about the past, it reads off the end of its log. So two buses of the same
depth on which the same was published answer the same, whoever subscribed and read. -/
theorem archive_eq_log {run : List Action} {n : Nat} {b : Bus}
    (hb : (after {} run).buses[n]? = some b) :
    let log := along (published n) {} run
    let depth := b.limits.history
    (∀ agent, b.archive.history agent
      = Archive.lastOf (min depth (beatsOf agent log).length) (beatsOf agent log)) ∧
    (∀ agent count, b.archive.recent agent count
      = Archive.lastOf (min count (min depth (beatsOf agent log).length)) (beatsOf agent log)) ∧
    (∀ agent, b.archive.latest? agent = (beatsOf agent log).getLast? ∧
      (b.archive.latest? agent = none ↔ beatsOf agent log = [])) ∧
    (b.archive.keys.Pairwise (· < ·) ∧
      ∀ agent, agent ∈ b.archive.keys ↔ beatsOf agent log ≠ []) ∧
    b.totals.keys = (agentsOf log).card ∧
    b.totals.buffered = ∑ agent ∈ agentsOf log, min depth (beatsOf agent log).length ∧
    ∀ (run' : List Action) (n' : Nat) (b' : Bus), (after {} run').buses[n']? = some b' →
      b'.limits.history = depth → along (published n') {} run' = log →
      b'.archive = b.archive ∧ b'.totals.keys = b.totals.keys ∧
        b'.totals.buffered = b.totals.buffered := by
  intro log depth
  obtain ⟨hkeeps, hcapacity⟩ := keeps_published hb
  have hmin : ∀ agent m, Archive.lastOf (min m (min depth (beatsOf agent log).length))
      (beatsOf agent log) = Archive.lastOf (min m depth) (beatsOf agent log) := by
    intro agent m
    rw [← Nat.min_assoc, Archive.lastOf_min_length]
  refine ⟨fun agent => ?_, fun agent count => ?_, fun agent => ?_,
    ⟨hkeeps.keys_ascending, hkeeps.mem_keys_iff⟩, hkeeps.keyCount_eq, ?_, ?_⟩
  · rw [hkeeps.history_eq, hcapacity, Archive.lastOf_min_length]
  · rw [hkeeps.recent_eq, hcapacity, hmin]
  · rw [hkeeps.latest?_eq]
    exact ⟨rfl, List.getLast?_eq_none_iff⟩
  · show b.archive.total = ∑ agent ∈ agentsOf log, min b.limits.history (beatsOf agent log).length
    rw [← hcapacity]
    exact hkeeps.total_eq
  · intro run' n' b' hb' hdepth hlog
    obtain ⟨hkeeps', hcapacity'⟩ := keeps_published hb'
    rw [hlog] at hkeeps'
    have hsame : b'.archive = b.archive :=
      hkeeps'.unique hkeeps (by rw [hcapacity', hcapacity, hdepth])
    exact ⟨hsame, congrArg Archive.keyCount hsame, congrArg Archive.total hsame⟩

/-- A run with a reader that comes and goes, and one without, of another mailbox size. -/
theorem archive_eq_log_two_runs :
    let run : List Action := [.create "bus" ⟨1, 3⟩,
      .publish "bus" { agent := "a", status := "idle" },
      .publish "bus" { agent := "", status := "idle" },
      .publish "bus" { agent := "a", status := "waiting" }]
    let run' : List Action := [.create "bus" ⟨1, 1⟩, .subscribe "bus" "reader" "a",
      .publish "bus" { agent := "a", status := "idle" }, .discard "reader",
      .publish "bus" { agent := "", status := "idle" },
      .publish "bus" { agent := "a", status := "waiting" }]
    ∃ b b', (after {} run).buses[0]? = some b ∧ (after {} run').buses[0]? = some b' ∧
      b'.archive = b.archive ∧ b.totals.keys = 2 ∧ b.totals.buffered = 2 := by
  intro run run'
  obtain ⟨b, hb⟩ : ∃ b, (after {} run).buses[0]? = some b := ⟨_, rfl⟩
  obtain ⟨b', hb'⟩ : ∃ b', (after {} run').buses[0]? = some b' := ⟨_, rfl⟩
  have hdepth : ((after {} run).buses[0]?).map (·.limits.history) = some 1 := by decide +kernel
  have hdepth' : ((after {} run').buses[0]?).map (·.limits.history) = some 1 := by decide +kernel
  rw [hb] at hdepth
  rw [hb'] at hdepth'
  have hsame : b'.limits.history = b.limits.history :=
    (Option.some.inj hdepth').trans (Option.some.inj hdepth).symm
  obtain ⟨-, -, -, -, hkeys, hbuffered, hall⟩ := archive_eq_log hb
  refine ⟨b, b', hb, hb', (hall run' 0 b' hb' hsame rfl).1, ?_, ?_⟩
  · rw [hkeys]
    decide +kernel
  · rw [hbuffered, show b.limits.history = 1 from Option.some.inj hdepth]
    decide +kernel

end Hub

end AgentPulse
