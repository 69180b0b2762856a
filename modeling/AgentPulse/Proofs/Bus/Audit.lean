import AgentPulse.Proofs.Bus.Trail
import Mathlib.Algebra.GroupWithZero.Nat
import Mathlib.Data.List.Induction

/-!
# Auditing a log

Two accounts of a bus are kept in its log and checked against the bus after every operation.
`Counts` is about beats: the published ones, what became of them, and who lost them. `Registers` is
about subscriptions: the lines of those that were made are those of the closed ones and of the ones
on the roster, in some order, and this decides everything else. The first is kept by every operation
(`Counts.apply`), the second by every operation but closing the bus (`Registers.apply`).
-/

namespace AgentPulse

namespace Notice

/-! ## Losses between two publishes -/

/-- How many losses stand open after a line, given how many did before it. -/
def afterLine (k : Nat) (line : Notice) : Nat :=
  if line.isPublish then 0 else if line.isLoss then k + 1 else k

/-- How many losses stand open after some lines. -/
def pending (k : Nat) (log : List Notice) : Nat := log.foldl afterLine k

/-- Every line about a published beat counts the losses that stand open there. -/
def SumsUp (k : Nat) : List Notice → Prop
  | [] => True
  | line :: log => (line.isPublish → line.amount "dropped" = k) ∧ SumsUp (afterLine k line) log

variable {k : Nat} {log more : List Notice} {line : Notice}

theorem pending_append : pending k (log ++ more) = pending (pending k log) more :=
  List.foldl_append ..

theorem pending_concat (hline : line.isPublish) : pending k (log ++ [line]) = 0 := by
  rw [pending_append]
  exact if_pos hline

theorem sumsUp_append : SumsUp k (log ++ more) ↔ SumsUp k log ∧ SumsUp (pending k log) more := by
  induction log generalizing k with
  | nil => exact ⟨fun h => ⟨True.intro, h⟩, And.right⟩
  | cons line log ih => rw [List.cons_append, SumsUp, SumsUp, ih, and_assoc]; rfl

/-- As long as no beat is published the losses add up. -/
theorem pending_of_no_publish (h : log.filter isPublish = []) :
    pending k log = k + (log.filter isLoss).length := by
  induction log generalizing k with
  | nil => rfl
  | cons line log ih =>
    -- The line counts if it is a loss; it does not start the count anew.
    rw [List.filter_eq_nil_iff, List.forall_mem_cons, ← List.filter_eq_nil_iff] at h
    rw [pending, List.foldl_cons, ← pending, ih h.2, afterLine, if_neg h.1, List.filter_cons]
    split
    next => rw [List.length_cons, Nat.add_right_comm, Nat.add_assoc]
    next => rfl

theorem sumsUp_of_no_publish (h : log.filter isPublish = []) : SumsUp k log := by
  induction log generalizing k with
  | nil => exact True.intro
  | cons line log ih =>
    rw [List.filter_eq_nil_iff, List.forall_mem_cons, ← List.filter_eq_nil_iff] at h
    exact ⟨fun hline => absurd hline h.1, ih h.2⟩

/-- Between two lines about published beats, or before the first one, the log has as many losses as
the later line counts. -/
theorem SumsUp.length_losses {before between rest : List Notice}
    (h : SumsUp 0 (before ++ between ++ line :: rest)) (hline : line.isPublish)
    (hbefore : before = [] ∨ ∃ earlier first, before = earlier ++ [first] ∧ first.isPublish)
    (hbetween : between.filter isPublish = []) :
    (between.filter isLoss).length = line.amount "dropped" := by
  have hnone : pending 0 before = 0 := by
    rcases hbefore with rfl | ⟨earlier, first, rfl, hfirst⟩
    · rfl
    · exact pending_concat hfirst
  obtain ⟨-, hcount, -⟩ := sumsUp_append.mp h
  rw [hcount hline, pending_append, hnone, pending_of_no_publish hbetween, Nat.zero_add]

end Notice

namespace Bus

open Notice (isPublish isLoss isEntry isRemoval amount subject? pending SumsUp)

variable {b : Bus} {log : List Notice}

/-! ## The account of beats -/

/-- What a log says about beats is what a bus and its mailboxes have counted. -/
structure Counts (log : List Notice) (b : Bus) : Prop where
  published : b.published = .ofNat (log.filter isPublish).length
  delivered : b.delivered = .ofNat ((log.filter isPublish).map (amount "delivered")).sum
  dropped : b.dropped = .ofNat ((log.filter isPublish).map (amount "dropped")).sum
  /-- Only subscriptions that were made have lost anything. -/
  known : ∀ id, some id ∈ (log.filter isLoss).map subject? → id.serial < b.issued
  sumsUp : SumsUp 0 log
  settled : pending 0 log = 0

theorem counts_ofLimits (n : Nat) (limits : Limits) : Counts [] (ofLimits n limits) where
  published := rfl
  delivered := rfl
  dropped := rfl
  known := fun _ hid => by cases hid
  sumsUp := True.intro
  settled := rfl

namespace Counts

theorem publish (hc : Counts log b) (h : b.Sound) (beat : Beat) :
    Counts (log ++ b.notes (.publish beat)) (b.apply (.publish beat)) := by
  have hpublishes := (filter_notes_publish h beat).1
  have hbus : b.apply (.publish beat) = _ := (publish_eq h beat).1
  -- The subjects of the new losses are those who lose the beat.
  have hsubjects : ((log ++ b.notes (.publish beat)).filter isLoss).map subject?
      = (log.filter isLoss).map subject? ++ (b.losers beat).map some := by
    rw [List.filter_append, List.map_append, subjects_notes_publish h]
  refine ⟨?_, ?_, ?_, fun id hid => ?_, ?_, ?_⟩
  · rw [hbus, List.filter_append, hpublishes, List.length_append, UInt64.ofNat_add, ← hc.published]
    rfl
  · rw [hbus, List.filter_append, hpublishes, List.map_append, List.sum_append, UInt64.ofNat_add,
      ← hc.delivered, List.map_singleton, List.sum_singleton, Notice.amount_delivered]
  · rw [hbus, List.filter_append, hpublishes, List.map_append, List.sum_append, UInt64.ofNat_add,
      ← hc.dropped, List.map_singleton, List.sum_singleton, Notice.amount_dropped]
  · rw [issued_apply]
    rw [hsubjects] at hid
    rcases List.mem_append.mp hid with hold | hnew
    · exact hc.known id hold
    · have hloser := (List.mem_map_of_injective (Option.some_injective _)).mp hnew
      exact (issued_of_mem_followers h id (List.mem_of_mem_filter hloser)).2
  · -- No loss stands open before a publish, so those that its own line counts are its own.
    obtain ⟨hnone, hall⟩ := filter_map_mailboxFull beat.agent (b.losers beat)
    rw [Notice.sumsUp_append, hc.settled, notes_publish h, Notice.sumsUp_append]
    refine ⟨hc.sumsUp, Notice.sumsUp_of_no_publish hnone, fun _ => ?_, True.intro⟩
    rw [Notice.amount_dropped, Notice.pending_of_no_publish hnone, hall, List.length_map,
      length_losers, Nat.zero_add]
  · rw [notes_publish h, ← List.append_assoc]
    exact Notice.pending_concat rfl

/-- An operation that publishes nothing changes none of the counts. -/
theorem other (hc : Counts log b) (h : b.Sound) {op : Operation} (hop : op.beats = []) :
    Counts (log ++ b.notes op) (b.apply op) := by
  obtain ⟨hpublishes, hlosses⟩ := filter_notes_of_no_beats h hop
  obtain ⟨hpublished, hdelivered, hdropped⟩ := counters_apply b hop
  have hsame : (log ++ b.notes op).filter isPublish = log.filter isPublish := by
    rw [List.filter_append, hpublishes, List.append_nil]
  have hsame' : (log ++ b.notes op).filter isLoss = log.filter isLoss := by
    rw [List.filter_append, hlosses, List.append_nil]
  refine ⟨?_, ?_, ?_, fun id hid => ?_, ?_, ?_⟩
  · rw [hpublished, hsame, hc.published]
  · rw [hdelivered, hsame, hc.delivered]
  · rw [hdropped, hsame, hc.dropped]
  · rw [hsame'] at hid
    exact Nat.lt_of_lt_of_le (hc.known id hid) (issued_le_apply b op)
  · rw [Notice.sumsUp_append]
    exact ⟨hc.sumsUp, Notice.sumsUp_of_no_publish hpublishes⟩
  · rw [Notice.pending_append, hc.settled, Notice.pending_of_no_publish hpublishes, hlosses]
    rfl

theorem apply (hc : Counts log b) (h : b.Sound) (op : Operation) :
    Counts (log ++ b.notes op) (b.apply op) := by
  cases op with
  | publish beat => exact hc.publish h beat
  | _ => exact hc.other h rfl

/-- The account is right after any operations on a new bus. -/
theorem after (n : Nat) (limits : Limits) (ops : List Operation) :
    Counts ((ofLimits n limits).log ops) ((ofLimits n limits).applyAll ops) := by
  induction ops using List.reverseRecOn with
  | nil => exact counts_ofLimits n limits
  | append_singleton ops op ih =>
    rw [log_concat, applyAll_append]
    exact ih.apply ((sound_ofLimits n limits).applyAll ops) op

end Counts

/-! ## The account of subscriptions -/

/-- What a log says about subscriptions is what becomes of the roster of a bus. -/
structure Registers (log : List Notice) (b : Bus) : Prop where
  entered : (log.filter isEntry).map subject? = (List.range b.issued).map fun i => some ⟨b.id, i⟩
  /-- Whoever was entered was struck or is on the roster. -/
  balance : ((log.filter isEntry).map subject?).Perm
    ((log.filter isRemoval).map subject? ++ b.roster.ids.map some)
  noted : ∀ key id, id ∈ b.roster.under key → .subscribed key id ∈ log
  paired : ∀ key id, .unsubscribed key id ∈ log →
    [Notice.subscribed key id, .unsubscribed key id].Sublist log

theorem registers_ofLimits (n : Nat) (limits : Limits) : Registers [] (ofLimits n limits) where
  entered := rfl
  balance := List.Perm.nil
  noted := fun key id hid => by
    rw [show (ofLimits n limits).roster = Roster.empty from rfl, Roster.under_empty] at hid
    cases hid
  paired := fun _ _ hmem => by cases hmem

namespace Registers

theorem enter (hr : Registers log b) (h : b.Sound) (key : String) :
    Registers (log ++ [Notice.subscribed key b.nextId]) (b.apply (.subscribe key)) := by
  have hentries : ((log ++ [Notice.subscribed key b.nextId]).filter isEntry).map subject?
      = (log.filter isEntry).map subject? ++ [some b.nextId] := by
    rw [List.filter_append, List.map_append]
    exact congrArg _ (congrArg (· :: []) (Notice.subject?_subscribed key b.nextId))
  have hremovals : (log ++ [Notice.subscribed key b.nextId]).filter isRemoval
      = log.filter isRemoval := by
    rw [List.filter_append]
    exact List.append_nil _
  refine ⟨?_, ?_, fun other id hid => ?_, fun other id hmem => ?_⟩
  · rw [hentries, hr.entered]
    show _ = (List.range (b.issued + 1)).map _
    rw [List.range_succ, List.map_append]
    rfl
  · -- The new identity is appended to those that were entered and to the roster.
    rw [hentries, hremovals]
    refine (hr.balance.append_right _).trans ?_
    rw [List.append_assoc]
    refine List.Perm.append_left _ ?_
    have hperm := (h.perm_ids_enter key).symm.map some
    rwa [List.map_append] at hperm
  · rw [show (b.apply (.subscribe key)).roster = b.roster.register key b.nextId from rfl,
      Roster.under_register] at hid
    split at hid
    next e =>
      rcases List.mem_append.mp hid with hold | hnew
      · exact List.mem_append_left _ (hr.noted other id hold)
      · rw [List.mem_singleton.mp hnew, e]
        exact List.mem_append_right _ (List.mem_singleton_self _)
    next => exact List.mem_append_left _ (hr.noted other id hid)
  · rcases List.mem_append.mp hmem with hold | hnew
    · exact (hr.paired other id hold).trans (List.sublist_append_left _ _)
    · cases List.mem_singleton.mp hnew

theorem strike (hr : Registers log b) (h : b.Sound) {op : Operation} {key : String}
    {id : SubscriptionId} (hid : id ∈ b.roster.under key)
    (hunder : ∀ other, (b.apply op).roster.under other = (b.roster.under other).filter (· != id))
    (hkeys : op.keys = []) : Registers (log ++ [Notice.unsubscribed key id]) (b.apply op) := by
  have hentries : (log ++ [Notice.unsubscribed key id]).filter isEntry = log.filter isEntry := by
    rw [List.filter_append]
    exact List.append_nil _
  have hremovals : ((log ++ [Notice.unsubscribed key id]).filter isRemoval).map subject?
      = (log.filter isRemoval).map subject? ++ [some id] := by
    rw [List.filter_append, List.map_append]
    exact congrArg _ (congrArg (· :: []) (Notice.subject?_unsubscribed key id))
  refine ⟨?_, ?_, fun other i hi => ?_, fun other i hmem => ?_⟩
  · rw [hentries, hr.entered, issued_apply, hkeys, (apply_frame b op).1]
    rfl
  · -- The identity goes over from the roster to those that were struck.
    rw [hentries, hremovals, List.append_assoc]
    exact hr.balance.trans
      (List.Perm.append_left _ ((h.perm_ids_strike (h.apply op) hid hunder).map some))
  · rw [hunder] at hi
    exact List.mem_append_left _ (hr.noted other i (List.mem_of_mem_filter hi))
  · rcases List.mem_append.mp hmem with hold | hnew
    · exact (hr.paired other i hold).trans (List.sublist_append_left _ _)
    · -- Whoever is struck was on the roster, and so was noted before.
      cases List.mem_singleton.mp hnew
      exact (List.singleton_sublist.mpr (hr.noted key id hid)).append (List.Sublist.refl _)

/-- Where neither is noted that a subscription was made nor that one was closed, the roster has to
be as it was. -/
theorem other (hr : Registers log b) {op : Operation}
    (hnotes : ∀ line ∈ b.notes op, ¬ line.isEntry ∧ ¬ line.isRemoval)
    (hroster : (b.apply op).roster = b.roster) (hkeys : op.keys = []) :
    Registers (log ++ b.notes op) (b.apply op) := by
  have hentries : (log ++ b.notes op).filter isEntry = log.filter isEntry := by
    rw [List.filter_append, List.filter_eq_nil_iff.mpr fun line hline => (hnotes line hline).1,
      List.append_nil]
  have hremovals : (log ++ b.notes op).filter isRemoval = log.filter isRemoval := by
    rw [List.filter_append, List.filter_eq_nil_iff.mpr fun line hline => (hnotes line hline).2,
      List.append_nil]
  refine ⟨?_, ?_, fun key id hid => ?_, fun key id hmem => ?_⟩
  · rw [hentries, hr.entered, issued_apply, hkeys, (apply_frame b op).1]
    rfl
  · rw [hentries, hremovals, hroster]
    exact hr.balance
  · rw [hroster] at hid
    exact List.mem_append_left _ (hr.noted key id hid)
  · rcases List.mem_append.mp hmem with hold | hnew
    · exact (hr.paired key id hold).trans (List.sublist_append_left _ _)
    · exact absurd rfl (hnotes _ hnew).2

theorem apply (hr : Registers log b) (h : b.Sound) {op : Operation} (hop : op ≠ .close) :
    Registers (log ++ b.notes op) (b.apply op) := by
  cases effect h op with
  | publish beat =>
    refine hr.other (fun line hline => ?_) (roster_publish h beat) rfl
    rw [notes_publish h, List.mem_append, List.mem_map, List.mem_singleton] at hline
    rcases hline with ⟨id, -, rfl⟩ | rfl <;> simp [isEntry, isRemoval, Notice.message]
  | enter key => exact hr.enter h key
  | strike key id mem notes under keys =>
    rw [notes]
    exact hr.strike h mem under keys
  | silent notes roster keys =>
    refine hr.other (fun line hline => ?_) roster keys
    rw [notes] at hline
    cases hline
  | close => exact absurd rfl hop

/-- The account is right after any operations on a new bus, as long as it is not closed. -/
theorem after (n : Nat) (limits : Limits) {ops : List Operation} (hops : .close ∉ ops) :
    Registers ((ofLimits n limits).log ops) ((ofLimits n limits).applyAll ops) := by
  induction ops using List.reverseRecOn with
  | nil => exact registers_ofLimits n limits
  | append_singleton ops op ih =>
    rw [List.mem_append, not_or, List.mem_singleton] at hops
    rw [log_concat, applyAll_append]
    exact (ih hops.1).apply ((sound_ofLimits n limits).applyAll ops) (Ne.symm hops.2)

/-! ### What the balance says -/

theorem nodup_entries (hr : Registers log b) : ((log.filter isEntry).map subject?).Nodup := by
  rw [hr.entered]
  exact List.nodup_range.map fun i j e => by cases e; rfl

/-- Nobody is struck twice. -/
theorem nodup_removals (hr : Registers log b) : ((log.filter isRemoval).map subject?).Nodup :=
  (List.nodup_append.mp (hr.balance.nodup_iff.mp hr.nodup_entries)).1

/-- Those are struck that were entered and are no longer on the roster. -/
theorem mem_removals (hr : Registers log b) (h : b.Sound) {id : SubscriptionId} :
    some id ∈ (log.filter isRemoval).map subject?
      ↔ some id ∈ (log.filter isEntry).map subject? ∧ ∀ key, id ∉ b.roster.under key := by
  have hroster : some id ∈ b.roster.ids.map some ↔ ∃ key, id ∈ b.roster.under key := by
    rw [List.mem_map_of_injective (Option.some_injective _), h.tidy.mem_ids]
  obtain ⟨-, -, hapart⟩ := List.nodup_append.mp (hr.balance.nodup_iff.mp hr.nodup_entries)
  rw [hr.balance.mem_iff, List.mem_append, hroster, ← not_exists]
  constructor
  · exact fun hmem => ⟨Or.inl hmem, fun hstill => hapart _ hmem _ (hroster.mpr hstill) rfl⟩
  · rintro ⟨hmem | hstill, hnot⟩
    · exact hmem
    · exact absurd hstill hnot

theorem length_entries (hr : Registers log b) :
    (log.filter isEntry).length = (log.filter isRemoval).length + b.roster.size := by
  have hlength := hr.balance.length_eq
  rwa [List.length_append, List.length_map, List.length_map, List.length_map,
    ← Roster.size_eq_length_ids] at hlength

end Registers

end Bus

end AgentPulse
