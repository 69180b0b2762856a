import AgentPulse.Proofs.Bus.Counting
import AgentPulse.Proofs.Bus.Unsubscribe
import AgentPulse.Proofs.Text.Decimal

/-!
# What a bus notes

A log is read here as its reader has it, by the sentences of its lines and by their fields
(`Notice.amount`, `Notice.subject?`). A publish notes every mailbox that loses the
beat, then the beat itself with how it fared (`notes_publish`). Any other operation notes nothing
but a change of the roster, and each such change once (`effect`). Only closing a bus changes the
roster in silence.
-/

namespace AgentPulse

namespace Notice

/-! ## Reading a log -/

/-- The number that stands in a field. -/
def amount (field : String) (line : Notice) : Nat :=
  match line.fields.lookup field with
  | some (.text s) => Text.Decimal.value s.toList
  | _ => 0

/-- The subscription that a line names. -/
def subject? (line : Notice) : Option SubscriptionId :=
  match line.fields.lookup "subscription" with
  | some (.subscription id) => some id
  | _ => none

/-- Whether a line is about a beat that was published. -/
def isPublish (line : Notice) : Bool := line.message == "Heartbeat published"

/-- Whether a line is about a beat that a mailbox lost. -/
def isLoss (line : Notice) : Bool := line.message == "Subscriber queue full, heartbeat dropped"

/-- Whether a line is about a subscription that was made. -/
def isEntry (line : Notice) : Bool := line.message == "Subscription registered"

/-- Whether a line is about a subscription that was closed. -/
def isRemoval (line : Notice) : Bool := line.message == "Subscription removed"

section

variable (agent status key : String) (delivered dropped : Nat) (id : SubscriptionId)

theorem amount_delivered : (published agent status delivered dropped).amount "delivered"
    = delivered := by
  show Text.Decimal.value (Text.Decimal.ofNat delivered).toList = delivered
  rw [Text.Decimal.ofNat, String.toList_ofList, Text.Decimal.value_digits]

theorem amount_dropped : (published agent status delivered dropped).amount "dropped"
    = dropped := by
  show Text.Decimal.value (Text.Decimal.ofNat dropped).toList = dropped
  rw [Text.Decimal.ofNat, String.toList_ofList, Text.Decimal.value_digits]

theorem subject?_mailboxFull : (mailboxFull agent id).subject? = some id := rfl

theorem subject?_subscribed : (subscribed key id).subject? = some id := rfl

theorem subject?_unsubscribed : (unsubscribed key id).subject? = some id := rfl

end

theorem eq_unsubscribed {line : Notice} (h : line.isRemoval) :
    ∃ key id, line = .unsubscribed key id := by
  cases line with
  | unsubscribed key id => exact ⟨key, id, rfl⟩
  | _ => simp [isRemoval, message] at h

end Notice

namespace Bus

open Notice (isPublish isLoss isEntry isRemoval subject?)

variable {b : Bus}

/-! ## What an operation notes -/

/-- What an operation notes. -/
def notes (b : Bus) : Operation → List Notice
  | .publish beat => (b.publish beat).2.2
  | .subscribe key => (b.subscribe key).2.2
  | .unsubscribe key id => (b.unsubscribe key id).2
  | .discard id => (b.discard id).2
  | .take _ | .drain _ | .close => []

/-- What operations note, one after the other. -/
def log (b : Bus) : List Operation → List Notice
  | [] => []
  | op :: ops => b.notes op ++ (b.apply op).log ops

@[simp] theorem log_nil (b : Bus) : b.log [] = [] := rfl

@[simp] theorem log_cons (b : Bus) (op : Operation) (ops : List Operation) :
    b.log (op :: ops) = b.notes op ++ (b.apply op).log ops := rfl

theorem log_append (b : Bus) (ops more : List Operation) :
    b.log (ops ++ more) = b.log ops ++ (b.applyAll ops).log more := by
  induction ops generalizing b with
  | nil => rfl
  | cons op ops ih =>
    rw [List.cons_append, log_cons, ih, log_cons, List.append_assoc, applyAll_cons]

theorem log_concat (b : Bus) (ops : List Operation) (op : Operation) :
    b.log (ops ++ [op]) = b.log ops ++ (b.applyAll ops).notes op := by
  rw [log_append, log_cons, log_nil, List.append_nil]

theorem log_eq_nil (b : Bus) {ops : List Operation}
    (hops : ∀ op ∈ ops, ∀ b : Bus, b.notes op = []) : b.log ops = [] := by
  induction ops generalizing b with
  | nil => rfl
  | cons op ops ih =>
    rw [List.forall_mem_cons] at hops
    rw [log_cons, hops.1, ih _ hops.2]
    rfl

/-- The followers of a beat's agent that lose the beat. -/
def losers (b : Bus) (beat : Beat) : List SubscriptionId :=
  (b.roster.followers beat.agent).filter (Round.isLostOn b.subscriptions)

/-- A publish notes each loss, and then the beat with the counts that the publish returns. -/
theorem notes_publish (h : b.Sound) (beat : Beat) :
    b.notes (.publish beat) = (b.losers beat).map (.mailboxFull beat.agent)
      ++ [.published beat.agent beat.status (b.fanOut beat).delivered (b.fanOut beat).dropped] := by
  -- The two rounds are one round down the list of all followers, none of whom is gone.
  have hround : Round.offer beat b.subscriptions (b.roster.followers beat.agent) = _ :=
    Round.offer_append beat b.roster.everyone
  have hnotices := congrArg Round.notices hround
  rw [Round.notices_offer beat (h.nodup_followers _) fun id => h.isSome_of_mem_followers]
    at hnotices
  rw [losers, hnotices, ← (publish_eq h beat).2]
  rfl

theorem filter_map_mailboxFull (agent : String) (ids : List SubscriptionId) :
    (ids.map (Notice.mailboxFull agent)).filter isPublish = [] ∧
    (ids.map (Notice.mailboxFull agent)).filter isLoss = ids.map (.mailboxFull agent) := by
  simp [isPublish, isLoss, Notice.message]

/-- The lines of a publish by their sentences. -/
theorem filter_notes_publish (h : b.Sound) (beat : Beat) :
    (b.notes (.publish beat)).filter isPublish
      = [.published beat.agent beat.status (b.fanOut beat).delivered (b.fanOut beat).dropped] ∧
    (b.notes (.publish beat)).filter isLoss = (b.losers beat).map (.mailboxFull beat.agent) := by
  obtain ⟨hnone, hall⟩ := filter_map_mailboxFull beat.agent (b.losers beat)
  rw [notes_publish h, List.filter_append, List.filter_append, hnone, hall]
  exact ⟨rfl, List.append_nil _⟩

/-- The losses that a publish notes name those who lose the beat. -/
theorem subjects_notes_publish (h : b.Sound) (beat : Beat) :
    ((b.notes (.publish beat)).filter isLoss).map subject? = (b.losers beat).map some := by
  rw [(filter_notes_publish h beat).2, List.map_map]
  exact List.map_congr_left fun id _ => Notice.subject?_mailboxFull beat.agent id

theorem length_losers (b : Bus) (beat : Beat) :
    (b.losers beat).length = (b.fanOut beat).dropped := by
  rw [losers, ← List.countP_eq_length_filter]
  rfl

/-- Whoever loses a beat is among the losers once. -/
theorem count_losers (h : b.Sound) (beat : Beat) (id : SubscriptionId) :
    (b.losers beat).count id = (b.loses beat id).toNat := by
  have hmem : id ∈ b.losers beat ↔ b.loses beat id = true := by
    rw [losers, List.mem_filter, loses, Bool.and_eq_true, decide_eq_true_iff]
  have hnodup : (b.losers beat).Nodup := (h.nodup_followers _).filter _
  cases hloses : b.loses beat id with
  | true => exact List.count_eq_one_of_mem hnodup (hmem.mpr hloses)
  | false =>
    refine List.count_eq_zero.mpr fun hin => ?_
    rw [hmem, hloses] at hin
    cases hin

theorem notes_unsubscribe_of_mem {key : String} {id : SubscriptionId}
    (hid : id ∈ b.roster.under key) :
    b.notes (.unsubscribe key id) = [.unsubscribed key id] := by
  rw [notes, unsubscribe, if_pos hid]

theorem notes_unsubscribe_of_not_mem {key : String} {id : SubscriptionId}
    (hid : id ∉ b.roster.under key) : b.notes (.unsubscribe key id) = [] := by
  rw [notes, unsubscribe_of_not_mem hid]

theorem notes_discard_of_none {id : SubscriptionId} (hs : b.subscription? id = none) :
    b.notes (.discard id) = [] := by
  rw [notes, discard_of_none hs]

/-- A discard notes what the unsubscribing under the subscription's own key does. -/
theorem notes_discard_of_some {id : SubscriptionId} {s : Subscription}
    (hs : b.subscription? id = some s) :
    b.notes (.discard id) = b.notes (.unsubscribe s.key id) := by
  simp only [notes, discard, hs]

/-! ## What an operation does to the roster -/

/-- What an operation notes and does to the roster. -/
inductive Effect (b : Bus) : Operation → Prop where
  | publish (beat : Beat) : Effect b (.publish beat)
  | enter (key : String) : Effect b (.subscribe key)
  | strike {op : Operation} (key : String) (id : SubscriptionId) (mem : id ∈ b.roster.under key)
    (notes : b.notes op = [.unsubscribed key id])
    (under : ∀ other, (b.apply op).roster.under other = (b.roster.under other).filter (· != id))
    (keys : op.keys = []) : Effect b op
  | silent {op : Operation} (notes : b.notes op = []) (roster : (b.apply op).roster = b.roster)
    (keys : op.keys = []) : Effect b op
  | close : Effect b .close

/-- Every operation has one of these effects. -/
theorem effect (h : b.Sound) (op : Operation) : b.Effect op := by
  cases op with
  | publish beat => exact .publish beat
  | subscribe key => exact .enter key
  | unsubscribe key id =>
    by_cases hid : id ∈ b.roster.under key
    · exact .strike key id hid (notes_unsubscribe_of_mem hid) (h.under_unsubscribe_of_mem hid) rfl
    · refine .silent (notes_unsubscribe_of_not_mem hid) ?_ rfl
      rw [apply, unsubscribe_of_not_mem hid]
  | take id => exact .silent rfl rfl rfl
  | drain id => exact .silent rfl rfl rfl
  | discard id =>
    cases hs : b.subscription? id with
    | none =>
      refine .silent (notes_discard_of_none hs) ?_ rfl
      rw [apply, discard_of_none hs]
    | some s =>
      -- A reader whose subscription was closed before leaves the roster as it is.
      have hnotes := notes_discard_of_some hs
      by_cases hid : id ∈ b.roster.under s.key
      · rw [notes_unsubscribe_of_mem hid] at hnotes
        exact .strike s.key id hid hnotes (h.under_discard id) rfl
      · rw [notes_unsubscribe_of_not_mem hid] at hnotes
        refine .silent hnotes ?_ rfl
        rw [apply, discard_of_some hs]
        show (b.unsubscribe s.key id).1.roster = b.roster
        rw [unsubscribe_of_not_mem hid]
  | close => exact .close

/-- Nothing but a publish notes beats that were published or lost. -/
theorem filter_notes_of_no_beats (h : b.Sound) {op : Operation} (hop : op.beats = []) :
    (b.notes op).filter isPublish = [] ∧ (b.notes op).filter isLoss = [] := by
  cases effect h op with
  | publish beat => cases hop
  | enter key => exact ⟨rfl, rfl⟩
  | strike key id mem notes under keys => rw [notes]; exact ⟨rfl, rfl⟩
  | silent notes roster keys => rw [notes]; exact ⟨rfl, rfl⟩
  | close => exact ⟨rfl, rfl⟩

/-- Every subscription that is made is noted, and no other. -/
theorem filter_notes_isEntry (h : b.Sound) (op : Operation) :
    (b.notes op).filter isEntry = op.keys.map (.subscribed · b.nextId) := by
  cases effect h op with
  | publish beat =>
    rw [notes_publish h, List.filter_append]
    simp [isEntry, Notice.message, Operation.keys]
  | enter key => rfl
  | strike key id mem notes under keys => rw [notes, keys]; rfl
  | silent notes roster keys => rw [notes, keys]; rfl
  | close => rfl

theorem filter_log_of_no_beats (h : b.Sound) {ops : List Operation}
    (hops : ops.flatMap Operation.beats = []) : (b.log ops).filter isLoss = [] := by
  induction ops generalizing b with
  | nil => rfl
  | cons op ops ih =>
    rw [List.flatMap_cons, List.append_eq_nil_iff] at hops
    rw [log_cons, List.filter_append, (filter_notes_of_no_beats h hops.1).2,
      ih (h.apply op) hops.2]
    rfl

theorem filter_log_of_no_keys (h : b.Sound) {ops : List Operation}
    (hops : ops.flatMap Operation.keys = []) : (b.log ops).filter isEntry = [] := by
  induction ops generalizing b with
  | nil => rfl
  | cons op ops ih =>
    rw [List.flatMap_cons, List.append_eq_nil_iff] at hops
    rw [log_cons, List.filter_append, filter_notes_isEntry h, hops.1, ih (h.apply op) hops.2]
    rfl

/-! ## The roster as one list -/

/-- Subscribing adds the new identity to the roster. -/
theorem Sound.perm_ids_enter (h : b.Sound) (key : String) :
    (b.apply (.subscribe key)).roster.ids.Perm (b.roster.ids ++ [b.nextId]) := by
  -- No identity is in either list twice, so it is enough that both have the same members.
  have h' := h.apply (.subscribe key)
  have hnew : b.nextId ∉ b.roster.ids := fun hmem => by
    obtain ⟨other, hid⟩ := h.tidy.mem_ids.mp hmem
    exact h.not_mem_under_of_none h.subscription?_nextId other hid
  have hnodup : (b.roster.ids ++ [b.nextId]).Nodup :=
    List.nodup_append.mpr ⟨h.nodup_roster, List.nodup_singleton _, fun i hi j hj e =>
      hnew (List.mem_singleton.mp hj ▸ e ▸ hi)⟩
  refine (List.perm_ext_iff_of_nodup h'.nodup_roster hnodup).mpr fun id => ?_
  rw [h'.tidy.mem_ids, List.mem_append, List.mem_singleton, h.tidy.mem_ids]
  have hunder : ∀ other, id ∈ (b.apply (.subscribe key)).roster.under other
      ↔ id ∈ b.roster.under other ∨ (other = key ∧ id = b.nextId) := fun other => by
    show id ∈ (b.roster.register key b.nextId).under other ↔ _
    rw [Roster.under_register]
    split
    next e => simp [e]
    next e => simp [e]
  simp only [hunder, exists_or, exists_and_right, exists_eq, true_and]

/-- Striking an identity from all lists takes it off the roster and nothing else. -/
theorem Sound.perm_ids_strike {b' : Bus} (h : b.Sound) (h' : b'.Sound) {key : String}
    {id : SubscriptionId} (hid : id ∈ b.roster.under key)
    (hunder : ∀ other, b'.roster.under other = (b.roster.under other).filter (· != id)) :
    b.roster.ids.Perm (id :: b'.roster.ids) := by
  have hmem : ∀ i, i ∈ b'.roster.ids ↔ i ∈ b.roster.ids ∧ i ≠ id := fun i => by
    simp only [h'.tidy.mem_ids, h.tidy.mem_ids, hunder, List.mem_filter, bne_iff_ne,
      exists_and_right]
  have hnodup : (id :: b'.roster.ids).Nodup :=
    List.nodup_cons.mpr ⟨fun e => ((hmem id).mp e).2 rfl, h'.nodup_roster⟩
  refine (List.perm_ext_iff_of_nodup h.nodup_roster hnodup).mpr fun i => ?_
  rw [List.mem_cons, hmem]
  constructor
  · intro hi
    by_cases e : i = id
    · exact Or.inl e
    · exact Or.inr ⟨hi, e⟩
  · rintro (rfl | hi)
    · exact h.tidy.mem_ids.mpr ⟨key, hid⟩
    · exact hi.1

end Bus

end AgentPulse
