import AgentPulse.Proofs.Bus.Enrolled
import AgentPulse.Proofs.Bus.Operation

/-!
# The algebra of leaving a roster

Unsubscribing strikes one identity from the list that it stands in, or does nothing at all
(`under_unsubscribe_of_mem`, `unsubscribe_of_not_mem`). From this: a second time changes nothing
(`unsubscribe_again`), the order of two does not matter (`unsubscribe_comm`), discarding a reader
strikes its own identity and no other (`under_discard`), and whoever has just subscribed leaves the
roster as it was before (`roster_unsubscribe_new`, `roster_discard_new`).
-/

namespace AgentPulse

/-- Changes of two mailboxes may be made in either order. -/
theorem Subscription.modify_comm {f g : Mailbox → Mailbox} {i j : SubscriptionId} (hij : i ≠ j)
    (l : List Subscription) : modify i f (modify j g l) = modify j g (modify i f l) := by
  unfold modify
  rw [List.map_map, List.map_map]
  refine List.map_congr_left fun s _ => ?_
  by_cases hi : s.id = i
  · have hj : s.id ≠ j := fun e => hij (hi.symm.trans e)
    simp [hi, hij]
  · by_cases hj : s.id = j
    · simp [hj, Ne.symm hij]
    · simp [hi, hj]

namespace Bus

variable {b : Bus} {key key' : String} {id id' : SubscriptionId}

theorem SameRecords.trans {b' b'' : Bus} (h : b.SameRecords b') (h' : b'.SameRecords b'') :
    b.SameRecords b'' where
  id := h'.id.trans h.id
  limits := h'.limits.trans h.limits
  archive := h'.archive.trans h.archive
  issued := h'.issued.trans h.issued
  published := h'.published.trans h.published
  delivered := h'.delivered.trans h.delivered
  dropped := h'.dropped.trans h.dropped

/-- What a bus may have besides its records is its roster and its subscriptions. -/
theorem SameRecords.ext {b' b'' : Bus} (h : b.SameRecords b') (h' : b.SameRecords b'')
    (hroster : b'.roster = b''.roster) (hsubs : b'.subscriptions = b''.subscriptions) :
    b' = b'' := by
  obtain ⟨hid, hlimits, harchive, hissued, hpublished, hdelivered, hdropped⟩ := h
  obtain ⟨hid', hlimits', harchive', hissued', hpublished', hdelivered', hdropped'⟩ := h'
  cases b'
  cases b''
  simp_all

/-- An identity that is not there need not be struck. -/
theorem filter_ne_of_not_mem {l : List SubscriptionId} (h : id ∉ l) : l.filter (· != id) = l :=
  List.filter_eq_self.mpr fun _ hi => bne_iff_ne.mpr fun e => h (e ▸ hi)

theorem subscriptions_unsubscribe (hid : id ∈ b.roster.under key) :
    (b.unsubscribe key id).1.subscriptions
      = Subscription.modify id Mailbox.close b.subscriptions := by
  rw [unsubscribe_of_mem hid]
  rfl

namespace Sound

/-! ## Unsubscribing -/

/-- Unsubscribing an entry strikes it and nothing else from the lists of all keys. -/
theorem under_unsubscribe_of_mem (h : b.Sound) (hid : id ∈ b.roster.under key) (other : String) :
    (b.unsubscribe key id).1.roster.under other = (b.roster.under other).filter (· != id) := by
  rw [unsubscribe_of_mem hid]
  show (b.roster.remove key id).under other = _
  rw [Roster.under_remove]
  split
  next => exact (h.nodup_under other).erase_eq_filter id
  next hne =>
    -- The identity stands under its own key only, so there is nothing to strike from this list.
    exact (filter_ne_of_not_mem fun hi => hne (h.key_unique hi hid)).symm

theorem mem_under_unsubscribe (h : b.Sound) {other : String} {i : SubscriptionId} :
    i ∈ (b.unsubscribe key id).1.roster.under other
      ↔ i ∈ b.roster.under other ∧ ¬ (id ∈ b.roster.under key ∧ i = id) := by
  by_cases hid : id ∈ b.roster.under key
  · rw [h.under_unsubscribe_of_mem hid, List.mem_filter, bne_iff_ne]
    simp [hid]
  · rw [unsubscribe_of_not_mem hid]
    simp [hid]

/-- Once unsubscribed, a pair is passed over. -/
theorem unsubscribe_again (h : b.Sound) (key : String) (id : SubscriptionId) :
    (b.unsubscribe key id).1.unsubscribe key id = ((b.unsubscribe key id).1, []) := by
  refine unsubscribe_of_not_mem fun hmem => ?_
  obtain ⟨hid, hnot⟩ := h.mem_under_unsubscribe.mp hmem
  exact hnot ⟨hid, rfl⟩

/-- The order of two unsubscribes does not matter. -/
theorem unsubscribe_comm (h : b.Sound) (key key' : String) (id id' : SubscriptionId) :
    ((b.unsubscribe key id).1.unsubscribe key' id').1
      = ((b.unsubscribe key' id').1.unsubscribe key id).1 := by
  by_cases hid : id ∈ b.roster.under key
  · by_cases hid' : id' ∈ b.roster.under key'
    · by_cases e : id = id'
      · -- One identity stands under one key, so this is the same pair twice.
        subst e
        rw [h.key_unique hid hid']
      · have hsound := h.unsubscribe key id
        have hsound' := h.unsubscribe key' id'
        have hstill : id' ∈ (b.unsubscribe key id).1.roster.under key' :=
          h.mem_under_unsubscribe.mpr ⟨hid', fun hboth => e hboth.2.symm⟩
        have hstill' : id ∈ (b.unsubscribe key' id').1.roster.under key :=
          h.mem_under_unsubscribe.mpr ⟨hid, fun hboth => e hboth.2⟩
        have hroster : ((b.unsubscribe key id).1.unsubscribe key' id').1.roster
            = ((b.unsubscribe key' id').1.unsubscribe key id).1.roster := by
          refine (hsound.unsubscribe key' id').tidy.ext (hsound'.unsubscribe key id).tidy
            fun other => ?_
          rw [hsound.under_unsubscribe_of_mem hstill, h.under_unsubscribe_of_mem hid,
            hsound'.under_unsubscribe_of_mem hstill', h.under_unsubscribe_of_mem hid',
            List.filter_comm]
        refine ((sameRecords_unsubscribe b key id).trans (sameRecords_unsubscribe _ key' id')).ext
          ((sameRecords_unsubscribe b key' id').trans (sameRecords_unsubscribe _ key id))
          hroster ?_
        rw [subscriptions_unsubscribe hstill, subscriptions_unsubscribe hid,
          subscriptions_unsubscribe hstill', subscriptions_unsubscribe hid',
          Subscription.modify_comm e]
    · have hnot : id' ∉ (b.unsubscribe key id).1.roster.under key' := fun hmem =>
        hid' (h.mem_under_unsubscribe.mp hmem).1
      rw [unsubscribe_of_not_mem hnot, unsubscribe_of_not_mem hid']
  · have hnot : id ∉ (b.unsubscribe key' id').1.roster.under key := fun hmem =>
      hid (h.mem_under_unsubscribe.mp hmem).1
    rw [unsubscribe_of_not_mem hnot, unsubscribe_of_not_mem hid]

/-! ## Discarding a reader -/

theorem not_mem_under_of_none (h : b.Sound) (hs : b.subscription? id = none) (key : String) :
    id ∉ b.roster.under key := fun hmem => by
  have hsome := h.isSome_of_mem_under hmem
  rw [hs] at hsome
  cases hsome

theorem not_mem_under_of_closed (h : b.Sound) {s : Subscription}
    (hs : b.subscription? id = some s) (hclosed : s.mailbox.isClosed = true) (key : String) :
    id ∉ b.roster.under key := fun hmem => by
  obtain ⟨t, ht, -, hopen⟩ := (h.entered _ _).mp hmem
  rw [hs] at ht
  cases ht
  rw [hclosed] at hopen
  cases hopen

/-- Discarding the reader of a closed subscription does not touch the roster. -/
theorem roster_discard_of_closed (h : b.Sound) {s : Subscription} (hs : b.subscription? id = some s)
    (hclosed : s.mailbox.isClosed = true) : (b.discard id).1.roster = b.roster := by
  rw [discard_of_some hs]
  show (b.unsubscribe s.key id).1.roster = b.roster
  rw [unsubscribe_of_not_mem (h.not_mem_under_of_closed hs hclosed s.key)]

/-- Discarding a reader strikes its own identity and nothing else. -/
theorem under_discard (h : b.Sound) (id : SubscriptionId) (other : String) :
    (b.discard id).1.roster.under other = (b.roster.under other).filter (· != id) := by
  cases hs : b.subscription? id with
  | none =>
    rw [discard_of_none hs, filter_ne_of_not_mem (h.not_mem_under_of_none hs other)]
  | some s =>
    cases hclosed : s.mailbox.isClosed with
    | true =>
      rw [h.roster_discard_of_closed hs hclosed,
        filter_ne_of_not_mem (h.not_mem_under_of_closed hs hclosed other)]
    | false =>
      have hid : id ∈ b.roster.under s.key := (h.entered _ _).mpr ⟨s, hs, rfl, hclosed⟩
      rw [discard_of_some hs]
      exact h.under_unsubscribe_of_mem hid other

/-! ## Leaving at once -/

/-- The lists that a roster has after a subscription and without it are those from before. -/
theorem filter_under_subscribe (h : b.Sound) (key other : String) :
    ((b.subscribe key).1.roster.under other).filter (· != b.nextId) = b.roster.under other := by
  have hold : (b.roster.under other).filter (· != b.nextId) = b.roster.under other :=
    filter_ne_of_not_mem (h.not_mem_under_of_none h.subscription?_nextId other)
  show ((b.roster.register key b.nextId).under other).filter _ = _
  rw [Roster.under_register]
  split
  next => rw [List.filter_append, hold]; simp
  next => exact hold

/-- Unsubscribing what has just been subscribed gives back the roster. -/
theorem roster_unsubscribe_new (h : b.Sound) (key : String) :
    ((b.subscribe key).1.unsubscribe key b.nextId).1.roster = b.roster := by
  have hsound := h.subscribe key
  have hmem : b.nextId ∈ (b.subscribe key).1.roster.under key :=
    (hsound.entered _ _).mpr ⟨_, subscription?_subscribe_nextId h key, rfl, rfl⟩
  refine (hsound.unsubscribe key b.nextId).tidy.ext h.tidy fun other => ?_
  rw [hsound.under_unsubscribe_of_mem hmem, h.filter_under_subscribe]

/-- Discarding the reader of what has just been subscribed gives back the roster. -/
theorem roster_discard_new (h : b.Sound) (key : String) :
    ((b.subscribe key).1.discard b.nextId).1.roster = b.roster := by
  have hsound := h.subscribe key
  refine (hsound.discard b.nextId).tidy.ext h.tidy fun other => ?_
  rw [hsound.under_discard, h.filter_under_subscribe]

end Sound

end Bus

end AgentPulse
