import AgentPulse.Proofs.Bus.Mailbox
import AgentPulse.Proofs.Bus.Sound

/-!
# Operations on a bus

Everything that can be done to a bus is one of seven operations. Each keeps a bus sound
(`Sound.apply`), and seen from one subscription a sound bus is nothing but that subscription: what
an operation does to it depends on the operation and the subscription alone
(`subscription?_apply`, with `Subscription.react`). So whatever holds of a subscription on its own
under a sequence of operations holds of it on a bus that it shares with others.
-/

namespace AgentPulse

/-- One thing that can be done to a bus. -/
inductive Bus.Operation where
  | publish (beat : Beat)
  | subscribe (key : String)
  | unsubscribe (key : String) (id : SubscriptionId)
  /-- Take the oldest beat that waits for a reader, if there is one. -/
  | take (id : SubscriptionId)
  /-- Take all beats that wait for a reader. -/
  | drain (id : SubscriptionId)
  | discard (id : SubscriptionId)
  | close

/-- A subscription on its own after an operation on its bus, if its reader still exists. -/
def Subscription.react (s : Subscription) : Bus.Operation → Option Subscription
  | .publish beat =>
    some (if s.mailbox.isClosed = false ∧ follows s.key beat.agent = true
      then s.onMailbox (Mailbox.offer · beat) else s)
  | .subscribe _ => some s
  | .unsubscribe key id =>
    some (if key = s.key ∧ id = s.id then s.onMailbox Mailbox.close else s)
  | .take id => some (if id = s.id then s.onMailbox (·.tryTake.2) else s)
  | .drain id => some (if id = s.id then s.onMailbox (·.drain.2) else s)
  | .discard id => if id = s.id then none else some s
  | .close => some (s.onMailbox Mailbox.close)

namespace Bus

/-- The bus after an operation. -/
def apply (b : Bus) : Operation → Bus
  | .publish beat => (b.publish beat).1
  | .subscribe key => (b.subscribe key).1
  | .unsubscribe key id => (b.unsubscribe key id).1
  | .take id => b.modifyMailbox id (·.tryTake.2)
  | .drain id => b.modifyMailbox id (·.drain.2)
  | .discard id => (b.discard id).1
  | .close => b.close

/-- The bus after operations, one after the other. -/
def applyAll (b : Bus) (ops : List Operation) : Bus := ops.foldl apply b

@[simp] theorem applyAll_nil (b : Bus) : b.applyAll [] = b := rfl

@[simp] theorem applyAll_cons (b : Bus) (op : Operation) (ops : List Operation) :
    b.applyAll (op :: ops) = (b.apply op).applyAll ops := rfl

theorem applyAll_append (b : Bus) (ops more : List Operation) :
    b.applyAll (ops ++ more) = (b.applyAll ops).applyAll more := List.foldl_append ..

variable {b : Bus}

/-- The identity that the next subscription of a bus will have. -/
def nextId (b : Bus) : SubscriptionId := ⟨b.id, b.issued⟩

/-! ## Publishing -/

/-- What publishing a beat does to one subscription, given who follows its agent. -/
def offered (b : Bus) (beat : Beat) (s : Subscription) : Subscription :=
  if s.id ∈ b.roster.followers beat.agent then s.onMailbox (Mailbox.offer · beat) else s

theorem offered_id (beat : Beat) (s : Subscription) : (b.offered beat s).id = s.id := by
  unfold offered
  split <;> rfl

theorem offered_key (beat : Beat) (s : Subscription) : (b.offered beat s).key = s.key := by
  unfold offered
  split <;> rfl

/-- How a beat fares at the mailboxes of its followers. -/
def fanOut (b : Bus) (beat : Beat) : Delivery :=
  let followers := b.roster.followers beat.agent
  ⟨followers.countP (Round.isTakenBy b.subscriptions),
    followers.countP (Round.isLostOn b.subscriptions)⟩

/-- On a sound bus publishing offers the beat once to each follower, and the roster stays: no reader
of a follower is gone, so every follower is kept. -/
theorem publish_eq (h : b.Sound) (beat : Beat) :
    (b.publish beat).1 =
      { b with
        archive := b.archive.append beat.agent beat
        subscriptions := b.subscriptions.map (b.offered beat)
        published := b.published + 1
        delivered := b.delivered + .ofNat (b.fanOut beat).delivered
        dropped := b.dropped + .ofNat (b.fanOut beat).dropped } ∧
    (b.publish beat).2.1 = b.fanOut beat := by
  -- The two rounds are one round down the list of all followers, each of whom is listed once.
  have hround : Round.offer beat b.subscriptions (b.roster.followers beat.agent) = _ :=
    Round.offer_append beat b.roster.everyone
  have hnodup := h.nodup_followers beat.agent
  have hexists : ∀ id ∈ b.roster.followers beat.agent,
      (Subscription.find? id b.subscriptions).isSome := fun id => h.isSome_of_mem_followers
  have hsubs := congrArg Round.subscriptions hround
  have hdelivery := congrArg Round.delivery hround
  have hkept := congrArg Round.kept hround
  -- Every follower exists, so both lists are kept whole, and that is no change of the roster.
  have hbyName : (Round.offer beat b.subscriptions (b.roster.byName beat.agent)).kept
      = b.roster.byName beat.agent := by
    rw [Round.kept_offer]
    exact List.filter_eq_self.mpr fun id hid => hexists id (List.mem_append_left _ hid)
  rw [Round.subscriptions_offer beat hnodup] at hsubs
  rw [Round.delivery_offer beat hnodup] at hdelivery
  rw [Round.kept_offer, List.filter_eq_self.mpr hexists, Roster.followers] at hkept
  simp only [hbyName, List.append_cancel_left_eq] at hkept
  simp only at hsubs hdelivery
  unfold publish
  simp only [← hsubs, ← hdelivery, hbyName, ← hkept, Roster.keep_byName_self _ h.tidy]
  exact ⟨rfl, rfl⟩

theorem roster_publish (h : b.Sound) (beat : Beat) : (b.publish beat).1.roster = b.roster := by
  rw [(publish_eq h beat).1]

theorem subscriptions_publish (h : b.Sound) (beat : Beat) :
    (b.publish beat).1.subscriptions = b.subscriptions.map (b.offered beat) := by
  rw [(publish_eq h beat).1]

theorem Sound.publish (h : b.Sound) (beat : Beat) : (b.publish beat).1.Sound := by
  refine h.of_map_mailbox (g := b.offered beat)
    (fun s => ⟨offered_id beat s, offered_key beat s, ?_⟩) ?_ ?_ (roster_publish h beat)
    (subscriptions_publish h beat)
  · unfold offered
    split
    next => exact Mailbox.isClosed_offer _ _
    next => rfl
  · rw [(publish_eq h beat).1]
  · rw [(publish_eq h beat).1]

theorem subscription?_publish (h : b.Sound) (beat : Beat) {id : SubscriptionId} {s : Subscription}
    (hs : b.subscription? id = some s) :
    (b.publish beat).1.subscription? id = s.react (.publish beat) := by
  have hid : s.id = id := Subscription.id_of_find? hs
  rw [subscription?_of_map (offered_id beat) (subscriptions_publish h beat), hs, Option.map_some,
    Subscription.react, offered, hid]
  simp only [h.mem_followers_iff hs]

/-! ## Changes of one mailbox -/

theorem subscription?_modifyMailbox (f : Mailbox → Mailbox) {id other : SubscriptionId}
    {s : Subscription} (hs : b.subscription? id = some s) :
    (b.modifyMailbox other f).subscription? id
      = some (if other = s.id then s.onMailbox f else s) := by
  show Subscription.find? id (Subscription.modify other f b.subscriptions) = _
  rw [Subscription.find?_modify, show Subscription.find? id b.subscriptions = some s from hs]
  simp only [Option.map_some, eq_comm]

/-- Where identities are not shared, a change of one mailbox may be told by what it held. -/
theorem modifyMailbox_const (h : b.Sound) {id : SubscriptionId} {s : Subscription}
    (hs : b.subscription? id = some s) (f : Mailbox → Mailbox) :
    b.modifyMailbox id (fun _ => f s.mailbox) = b.modifyMailbox id f := by
  unfold modifyMailbox Subscription.modify
  refine congrArg (fun l => { b with subscriptions := l }) (List.map_congr_left fun t ht => ?_)
  split
  next hid =>
    have hsame : some t = some s := by rw [← h.mem_iff.mp ht, hid, hs]
    cases hsame
    rfl
  next => rfl

theorem modifyMailbox_self (h : b.Sound) {id : SubscriptionId} {s : Subscription}
    (hs : b.subscription? id = some s) {f : Mailbox → Mailbox} (hf : f s.mailbox = s.mailbox) :
    b.modifyMailbox id f = b := by
  have hmap : Subscription.modify id f b.subscriptions = b.subscriptions := by
    refine (List.map_congr_left fun t ht => ?_).trans (List.map_id _)
    split
    next hid =>
      have hsame : some t = some s := by rw [← h.mem_iff.mp ht, hid, hs]
      cases hsame
      rw [Subscription.onMailbox, hf]
      rfl
    next => rfl
  rw [modifyMailbox, hmap]

theorem Sound.modifyMailbox (h : b.Sound) (id : SubscriptionId) {f : Mailbox → Mailbox}
    (hf : ∀ m, (f m).isClosed = m.isClosed) : (b.modifyMailbox id f).Sound := by
  refine h.of_map_mailbox (g := fun s => if s.id = id then s.onMailbox f else s)
    (fun s => ?_) rfl rfl rfl rfl
  split
  next => exact ⟨rfl, rfl, hf s.mailbox⟩
  next => exact ⟨rfl, rfl, rfl⟩

/-! ## Subscribing -/

/-- Nobody has the next identity yet. -/
theorem Sound.subscription?_nextId (h : b.Sound) : b.subscription? b.nextId = none := by
  cases hfind : b.subscription? b.nextId with
  | none => rfl
  | some s => exact absurd (h.issued hfind).2 (Nat.lt_irrefl b.issued)

theorem subscription?_subscribe_nextId (h : b.Sound) (key : String) :
    (b.subscribe key).1.subscription? b.nextId
      = some ⟨b.nextId, key, { capacity := b.limits.queue }⟩ := by
  show List.find? _ (b.subscriptions ++ [_]) = _
  rw [List.find?_append, show List.find? _ b.subscriptions = none from h.subscription?_nextId]
  simp [nextId]

theorem subscription?_subscribe_ne (key : String) {id : SubscriptionId} (hid : id ≠ b.nextId) :
    (b.subscribe key).1.subscription? id = b.subscription? id := by
  show List.find? _ (b.subscriptions ++ [_]) = _
  have hne : ((⟨b.id, b.issued⟩ : SubscriptionId) == id) = false :=
    beq_eq_false_iff_ne.mpr (Ne.symm hid)
  rw [List.find?_append, List.find?_singleton, hne]
  exact Option.or_none

theorem Sound.subscribe (h : b.Sound) (key : String) : (b.subscribe key).1.Sound where
  tidy := h.tidy.register key _
  own := by
    intro s hs
    show s.id.bus = b.id ∧ s.id.serial < b.issued + 1
    rcases List.mem_append.mp hs with hold | hnew
    · obtain ⟨hbus, hserial⟩ := h.own s hold
      exact ⟨hbus, Nat.lt_succ_of_lt hserial⟩
    · rw [List.mem_singleton.mp hnew]
      exact ⟨rfl, Nat.lt_succ_self _⟩
  ascending := by
    show (b.subscriptions ++ [_]).Pairwise _
    rw [List.pairwise_append]
    refine ⟨h.ascending, List.pairwise_singleton _ _, fun s hs t ht => ?_⟩
    rw [List.mem_singleton.mp ht]
    exact (h.own s hs).2
  ordered := by
    intro k
    show ((b.roster.register key b.nextId).under k).Pairwise _
    rw [Roster.under_register]
    split
    next =>
      rw [List.pairwise_append]
      refine ⟨h.ordered k, List.pairwise_singleton _ _, fun i hi j hj => ?_⟩
      rw [List.mem_singleton.mp hj]
      obtain ⟨s, hs, -, -⟩ := (h.entered k i).mp hi
      exact (h.issued hs).2
    next => exact h.ordered k
  entered := by
    intro k id
    show id ∈ (b.roster.register key b.nextId).under k ↔ _
    rw [Roster.under_register]
    by_cases hid : id = b.nextId
    · subst hid
      rw [subscription?_subscribe_nextId h]
      have hold : b.nextId ∉ b.roster.under k := fun hmem => by
        have hsome := h.isSome_of_mem_under hmem
        rw [h.subscription?_nextId] at hsome
        exact absurd hsome (by simp)
      split
      next hk => simp [hk]
      next hk => simpa [hold] using Ne.symm hk
    · rw [subscription?_subscribe_ne key hid, ← h.entered k id]
      split
      next => simp [hid]
      next => rfl

/-! ## Unsubscribing -/

theorem unsubscribe_of_mem {key : String} {id : SubscriptionId} (hid : id ∈ b.roster.under key) :
    (b.unsubscribe key id).1
      = { b with roster := b.roster.remove key id }.modifyMailbox id Mailbox.close := by
  rw [unsubscribe, if_pos hid]

theorem unsubscribe_of_not_mem {key : String} {id : SubscriptionId}
    (hid : id ∉ b.roster.under key) : b.unsubscribe key id = (b, []) := by
  rw [unsubscribe, if_neg hid]

theorem subscription?_unsubscribe (h : b.Sound) (key : String) {id other : SubscriptionId}
    {s : Subscription} (hs : b.subscription? id = some s) :
    (b.unsubscribe key other).1.subscription? id = s.react (.unsubscribe key other) := by
  have hid : s.id = id := Subscription.id_of_find? hs
  by_cases hmem : other ∈ b.roster.under key
  · have hs' : { b with roster := b.roster.remove key other }.subscription? id = some s := hs
    rw [unsubscribe_of_mem hmem, subscription?_modifyMailbox _ hs', Subscription.react]
    by_cases ho : other = s.id
    · -- The entry under the key is this subscription's own, so the keys agree.
      obtain ⟨t, ht, hkey, -⟩ := (h.entered key other).mp hmem
      rw [ho, hid, hs] at ht
      cases ht
      simp [ho, hkey]
    · simp [ho]
  · rw [unsubscribe_of_not_mem hmem, hs, Subscription.react]
    by_cases ho : key = s.key ∧ other = s.id
    · -- A subscription that is not entered under its key is closed already.
      obtain ⟨rfl, rfl⟩ := ho
      have hclosed : s.mailbox.isClosed = true := by
        by_contra hopen
        exact hmem ((h.entered _ _).mpr ⟨s, hid ▸ hs, rfl, by simpa using hopen⟩)
      simp [Subscription.onMailbox, Mailbox.close_of_isClosed hclosed]
    · rw [if_neg ho]

theorem Sound.unsubscribe (h : b.Sound) (key : String) (id : SubscriptionId) :
    (b.unsubscribe key id).1.Sound := by
  by_cases hid : id ∈ b.roster.under key
  · rw [unsubscribe_of_mem hid]
    have hg : ∀ s : Subscription,
        (if s.id = id then s.onMailbox Mailbox.close else s).id = s.id := fun s => by
      split <;> rfl
    refine h.of_map hg rfl rfl rfl (h.tidy.remove key id) (fun k => ?_) (fun k i => ?_)
    · show ((b.roster.remove key id).under k).Pairwise _
      rw [Roster.under_remove]
      split
      next => exact (h.ordered k).sublist List.erase_sublist
      next => exact h.ordered k
    · show i ∈ (b.roster.remove key id).under k ↔ _
      -- An identity stands under one key only, so it is struck from every list that has it.
      have hleft : i ∈ (b.roster.remove key id).under k ↔ i ≠ id ∧ i ∈ b.roster.under k := by
        rw [Roster.under_remove]
        split
        next => exact (h.nodup_under k).mem_erase_iff
        next hk =>
          exact ⟨fun hi => ⟨fun e => hk (h.key_unique (e ▸ hi) hid), hi⟩, fun hi => hi.2⟩
      rw [hleft, h.entered k i]
      constructor
      · rintro ⟨hne, s, hs, hkey, hopen⟩
        have hsid : s.id ≠ id := fun e => hne (Subscription.id_of_find? hs ▸ e)
        exact ⟨s, hs, by rw [if_neg hsid]; exact hkey, by rw [if_neg hsid]; exact hopen⟩
      · rintro ⟨s, hs, hkey, hopen⟩
        have hsid : s.id ≠ id := fun e => by
          rw [if_pos e] at hopen
          exact absurd hopen (by simp)
        rw [if_neg hsid] at hkey hopen
        exact ⟨fun e => hsid (Subscription.id_of_find? hs ▸ e), s, hs, hkey, hopen⟩
  · rw [unsubscribe_of_not_mem hid]
    exact h

/-! ## Discarding a reader -/

theorem discard_of_none {id : SubscriptionId} (h : b.subscription? id = none) :
    b.discard id = (b, []) := by
  rw [discard, h]

theorem discard_of_some {id : SubscriptionId} {s : Subscription}
    (hs : b.subscription? id = some s) :
    (b.discard id).1 =
      let closed := (b.unsubscribe s.key id).1
      { closed with subscriptions := closed.subscriptions.filter fun t => t.id != id } := by
  rw [discard, hs]

theorem find?_filter_ne (l : List Subscription) (id other : SubscriptionId) :
    Subscription.find? id (l.filter fun t => t.id != other)
      = if id = other then none else Subscription.find? id l := by
  rw [Subscription.find?, List.find?_filter]
  split
  next h =>
    rw [List.find?_eq_none]
    intro t _
    simp [h]
  next h =>
    refine congrArg (List.find? · l) (funext fun t => ?_)
    by_cases ht : t.id = id
    · simp [ht, h]
    · simp [ht]

theorem subscription?_discard (h : b.Sound) {id other : SubscriptionId} {s : Subscription}
    (hs : b.subscription? id = some s) :
    (b.discard other).1.subscription? id = s.react (.discard other) := by
  have hid : s.id = id := Subscription.id_of_find? hs
  rw [Subscription.react, hid]
  cases hother : b.subscription? other with
  | none =>
    have hne : other ≠ id := fun e => by rw [e, hs] at hother; cases hother
    rw [discard_of_none hother, if_neg hne]
    exact hs
  | some t =>
    rw [discard_of_some hother]
    show Subscription.find? id (List.filter _ (b.unsubscribe t.key other).1.subscriptions) = _
    rw [find?_filter_ne]
    by_cases ho : other = id
    · rw [if_pos ho, if_pos ho.symm]
    · rw [if_neg ho, if_neg (Ne.symm ho)]
      show (b.unsubscribe t.key other).1.subscription? id = _
      rw [subscription?_unsubscribe h t.key hs, Subscription.react, hid, if_neg (fun e => ho e.2)]

theorem Sound.discard (h : b.Sound) (id : SubscriptionId) : (b.discard id).1.Sound := by
  cases hfind : b.subscription? id with
  | none =>
    rw [discard_of_none hfind]
    exact h
  | some s =>
    have hclosed := h.unsubscribe s.key id
    rw [discard_of_some hfind]
    refine ⟨hclosed.tidy, fun t ht => hclosed.own t (List.mem_of_mem_filter ht),
      hclosed.ascending.filter _, hclosed.ordered, fun k i => ?_⟩
    show i ∈ (b.unsubscribe s.key id).1.roster.under k ↔ ∃ t, Subscription.find? i (List.filter _ _)
      = some t ∧ _
    rw [find?_filter_ne, hclosed.entered k i]
    by_cases hi : i = id
    · -- Its own subscription has just been closed, so it is not entered anywhere.
      subst hi
      rw [if_pos rfl, subscription?_unsubscribe h s.key hfind, Subscription.react,
        if_pos ⟨rfl, (Subscription.id_of_find? hfind).symm⟩]
      constructor
      · rintro ⟨t, ht, -, hopen⟩
        cases ht
        exact absurd hopen (by simp)
      · rintro ⟨t, ht, -⟩
        cases ht
    · rw [if_neg hi]
      rfl

/-! ## Closing -/

theorem Sound.close (h : b.Sound) : b.close.Sound := by
  refine h.of_map (g := Subscription.onMailbox Mailbox.close) (fun s => rfl) rfl rfl rfl
    Roster.tidy_empty (fun k => ?_) (fun k i => ?_)
  · show (Roster.empty.under k).Pairwise _
    rw [Roster.under_empty]
    exact List.Pairwise.nil
  · show i ∈ Roster.empty.under k ↔ _
    simp

theorem subscription?_close (id : SubscriptionId) :
    b.close.subscription? id
      = (b.subscription? id).map (Subscription.onMailbox Mailbox.close) :=
  subscription?_of_map (g := Subscription.onMailbox Mailbox.close) (fun _ => rfl) rfl id

/-! ## All operations -/

/-- One bus at two moments between which at most its subscriptions have changed. -/
structure SameRecords (b b' : Bus) : Prop where
  id : b'.id = b.id
  limits : b'.limits = b.limits
  archive : b'.archive = b.archive
  issued : b'.issued = b.issued
  published : b'.published = b.published
  delivered : b'.delivered = b.delivered
  dropped : b'.dropped = b.dropped

theorem sameRecords_unsubscribe (b : Bus) (key : String) (id : SubscriptionId) :
    b.SameRecords (b.unsubscribe key id).1 := by
  unfold unsubscribe
  split <;> exact ⟨rfl, rfl, rfl, rfl, rfl, rfl, rfl⟩

theorem sameRecords_discard (b : Bus) (id : SubscriptionId) :
    b.SameRecords (b.discard id).1 := by
  cases hfind : b.subscription? id with
  | none => rw [discard_of_none hfind]; exact ⟨rfl, rfl, rfl, rfl, rfl, rfl, rfl⟩
  | some s =>
    obtain ⟨id, limits, archive, issued, published, delivered, dropped⟩ :=
      sameRecords_unsubscribe b s.key id
    rw [discard_of_some hfind]
    exact ⟨id, limits, archive, issued, published, delivered, dropped⟩

/-- No operation makes a bus another one or changes its limits. -/
theorem apply_frame (b : Bus) (op : Operation) :
    (b.apply op).id = b.id ∧ (b.apply op).limits = b.limits := by
  cases op with
  | unsubscribe key id =>
    have hsame := sameRecords_unsubscribe b key id
    exact ⟨hsame.id, hsame.limits⟩
  | discard id =>
    have hsame := sameRecords_discard b id
    exact ⟨hsame.id, hsame.limits⟩
  | _ => exact ⟨rfl, rfl⟩

theorem applyAll_frame (b : Bus) (ops : List Operation) :
    (b.applyAll ops).id = b.id ∧ (b.applyAll ops).limits = b.limits := by
  induction ops generalizing b with
  | nil => exact ⟨rfl, rfl⟩
  | cons op ops ih =>
    obtain ⟨hid, hlimits⟩ := ih (b.apply op)
    exact ⟨hid.trans (apply_frame b op).1, hlimits.trans (apply_frame b op).2⟩

/-- Every operation keeps a bus sound. -/
theorem Sound.apply (h : b.Sound) (op : Operation) : (b.apply op).Sound := by
  cases op with
  | publish beat => exact h.publish beat
  | subscribe key => exact h.subscribe key
  | unsubscribe key id => exact h.unsubscribe key id
  | take id => exact h.modifyMailbox id Mailbox.isClosed_tryTake
  | drain id => exact h.modifyMailbox id Mailbox.isClosed_drain
  | discard id => exact h.discard id
  | close => exact h.close

theorem Sound.applyAll (h : b.Sound) (ops : List Operation) : (b.applyAll ops).Sound := by
  induction ops generalizing b with
  | nil => exact h
  | cons op ops ih => exact ih (h.apply op)

/-- Seen from one subscription, a bus is that subscription: no operation does anything to it that
the subscription on its own would not do. -/
theorem subscription?_apply (h : b.Sound) (op : Operation) {id : SubscriptionId} {s : Subscription}
    (hs : b.subscription? id = some s) : (b.apply op).subscription? id = s.react op := by
  cases op with
  | publish beat => exact subscription?_publish h beat hs
  | subscribe key =>
    have hne : id ≠ b.nextId := fun e => by
      rw [e, h.subscription?_nextId] at hs
      cases hs
    show (b.subscribe key).1.subscription? id = some s
    rw [subscription?_subscribe_ne key hne, hs]
  | unsubscribe key other => exact subscription?_unsubscribe h key hs
  | take other => exact subscription?_modifyMailbox _ hs
  | drain other => exact subscription?_modifyMailbox _ hs
  | discard other => exact subscription?_discard h hs
  | close =>
    show b.close.subscription? id = some _
    rw [subscription?_close, hs]
    rfl

/-- Nothing but subscribing brings a subscription into being. -/
theorem subscription?_apply_of_none (h : b.Sound) (op : Operation) {id : SubscriptionId}
    (hs : b.subscription? id = none) :
    (b.apply op).subscription? id = none
      ∨ ∃ key, op = .subscribe key ∧ id = b.nextId := by
  have hmap : ∀ {b' : Bus} {g : Subscription → Subscription}, (∀ s, (g s).id = s.id) →
      b'.subscriptions = b.subscriptions.map g → b'.subscription? id = none := fun hg hsubs => by
    rw [subscription?_of_map hg hsubs, hs]
    rfl
  have hmodify : ∀ other f, (b.modifyMailbox other f).subscription? id = none := fun other f =>
    hmap (g := fun s => if s.id = other then s.onMailbox f else s) (fun s => by split <;> rfl) rfl
  have hunsubscribe : ∀ key other, (b.unsubscribe key other).1.subscription? id = none :=
    fun key other => by
      by_cases hmem : other ∈ b.roster.under key
      · rw [unsubscribe_of_mem hmem]
        exact hmodify other Mailbox.close
      · rw [unsubscribe_of_not_mem hmem]
        exact hs
  cases op with
  | publish beat => exact Or.inl (hmap (offered_id beat) (subscriptions_publish h beat))
  | subscribe key =>
    by_cases hid : id = b.nextId
    · exact Or.inr ⟨key, rfl, hid⟩
    · left
      show (b.subscribe key).1.subscription? id = none
      rw [subscription?_subscribe_ne key hid, hs]
  | unsubscribe key other => exact Or.inl (hunsubscribe key other)
  | take other => exact Or.inl (hmodify other _)
  | drain other => exact Or.inl (hmodify other _)
  | discard other =>
    left
    show (b.discard other).1.subscription? id = none
    cases hother : b.subscription? other with
    | none => rw [discard_of_none hother]; exact hs
    | some t =>
      rw [discard_of_some hother]
      show Subscription.find? id (List.filter _ _) = none
      rw [find?_filter_ne]
      split
      next => rfl
      next => exact hunsubscribe t.key other
  | close =>
    left
    show b.close.subscription? id = none
    rw [subscription?_close, hs]
    rfl

/-- A reader exists until it is discarded. -/
theorem isSome_apply (h : b.Sound) {op : Operation} {id : SubscriptionId}
    (hs : (b.subscription? id).isSome) (hop : op ≠ .discard id) :
    ((b.apply op).subscription? id).isSome := by
  obtain ⟨s, hs⟩ := Option.isSome_iff_exists.mp hs
  rw [subscription?_apply h op hs]
  cases op with
  | discard other =>
    have hne : other ≠ s.id := fun e => hop (by rw [e, Subscription.id_of_find? hs])
    simp [Subscription.react, hne]
  | _ => rfl

theorem isSome_applyAll (h : b.Sound) {ops : List Operation} {id : SubscriptionId}
    (hs : (b.subscription? id).isSome) (hops : .discard id ∉ ops) :
    ((b.applyAll ops).subscription? id).isSome := by
  induction ops generalizing b with
  | nil => exact hs
  | cons op ops ih =>
    rw [List.mem_cons, not_or] at hops
    exact ih (h.apply op) (isSome_apply h hs (Ne.symm hops.1)) hops.2

end Bus

/-- A subscription is closed by being unsubscribed under its own key, or with all others of its bus;
nothing opens it again. -/
theorem Subscription.isClosed_react {s s' : Subscription} {op : Bus.Operation}
    (h : s.react op = some s') :
    s'.mailbox.isClosed = true
      ↔ s.mailbox.isClosed = true ∨ op = .close ∨ op = .unsubscribe s.key s.id := by
  cases op with
  | discard id =>
    rw [Subscription.react] at h
    split at h
    · cases h
    · cases h; simp
  | publish beat => cases h; split <;> simp
  | subscribe key => cases h; simp
  | unsubscribe key id =>
    cases h
    split
    next hboth => simp [hboth]
    next hne => simp [hne]
  | take id => cases h; split <;> simp
  | drain id => cases h; split <;> simp
  | close => cases h; simp

namespace Bus

variable {b : Bus}

/-- Whether every mailbox of a bus is closed. -/
def IsClosed (b : Bus) : Prop :=
  ∀ id s, b.subscription? id = some s → s.mailbox.isClosed = true

theorem isClosed_close : b.close.IsClosed := by
  intro id s hs
  rw [subscription?_close] at hs
  obtain ⟨t, -, rfl⟩ := Option.map_eq_some_iff.mp hs
  rfl

/-- A closed bus stays closed as long as nobody subscribes. -/
theorem IsClosed.apply (hc : b.IsClosed) (h : b.Sound) {op : Operation}
    (hop : ∀ key, op ≠ .subscribe key) : (b.apply op).IsClosed := by
  intro id s hs
  cases hfind : b.subscription? id with
  | none =>
    rcases subscription?_apply_of_none h op hfind with hnone | ⟨key, rfl, -⟩
    · rw [hnone] at hs; cases hs
    · exact absurd rfl (hop key)
  | some t =>
    rw [subscription?_apply h op hfind] at hs
    exact (Subscription.isClosed_react hs).mpr (Or.inl (hc id t hfind))

theorem IsClosed.applyAll (hc : b.IsClosed) (h : b.Sound) {ops : List Operation}
    (hops : ∀ key, .subscribe key ∉ ops) : (b.applyAll ops).IsClosed := by
  induction ops generalizing b with
  | nil => exact hc
  | cons op ops ih =>
    refine ih (hc.apply h fun key e => ?_) (h.apply op) fun key hmem => ?_
    · exact hops key (e ▸ List.mem_cons_self)
    · exact hops key (List.mem_cons_of_mem _ hmem)

end Bus

end AgentPulse
