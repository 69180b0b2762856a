import AgentPulse.Proofs.Hub.Queue

/-!
# The account of one subscription

What came to a subscription in a run (`came`) is what its reader was handed and what was still
waiting when the subscription was last seen; what it lost is what its mailbox had dropped by then
(`lost`). A publish on its bus adds to both what the mailbox takes and loses by it
(`account_publish`), and no other step adds anything (`account_other`).
-/

namespace AgentPulse.Hub

open Bus (Operation)

variable {h : Hub} {id : SubscriptionId} {s : Subscription} {a : Action} {run : List Action}

/-- A subscription as it was last seen in a run: as it is at the end, or as it was when its reader
was discarded. -/
def lastSeen (id : SubscriptionId) (h : Hub) : List Action → Option Subscription
  | [] => h.subscription? id
  | a :: run => (lastSeen id (h.next a) run).or (h.subscription? id)

/-- How many beats came to a subscription: those that its reader was handed, and those that waited
when it was last seen. -/
def came (id : SubscriptionId) (run : List Action) : Nat :=
  (along (taken id) {} run).length + (lastSeen id {} run).elim 0 (·.mailbox.waiting.length)

/-- How many beats a subscription had dropped when it was last seen, as far as the counter holds. -/
def lost (id : SubscriptionId) (run : List Action) : UInt64 :=
  (lastSeen id {} run).elim 0 (·.mailbox.dropped)

/-! ## The subscription as last seen -/

theorem lastSeen_concat :
    lastSeen id h (run ++ [a])
      = ((h.after (run ++ [a])).subscription? id).or (lastSeen id h run) := by
  induction run generalizing h with
  | nil => rfl
  | cons a' run ih => rw [List.cons_append, lastSeen, ih, lastSeen, Option.or_assoc, after_cons]

theorem lastSeen_of_some (hsub : (h.after run).subscription? id = some s) :
    lastSeen id h run = some s := by
  induction run generalizing h with
  | nil => exact hsub
  | cons a run ih => rw [lastSeen, ih hsub, Option.some_or]

theorem came_concat (hsub : (after {} run).subscription? id = some s) :
    came id (run ++ [a]) = (along (taken id) {} run).length + ((taken id (after {} run) a).length
      + (((after {} run).next a).subscription? id).elim s.mailbox.waiting.length
          (·.mailbox.waiting.length)) := by
  rw [came, along_concat, List.length_append, Nat.add_assoc, lastSeen_concat,
    lastSeen_of_some hsub, after_concat]
  cases ((after {} run).next a).subscription? id <;> rfl

theorem lost_concat (hsub : (after {} run).subscription? id = some s) :
    lost id (run ++ [a])
      = (((after {} run).next a).subscription? id).elim s.mailbox.dropped (·.mailbox.dropped) := by
  rw [lost, lastSeen_concat, lastSeen_of_some hsub, after_concat]
  cases ((after {} run).next a).subscription? id <;> rfl

theorem came_of_some (hsub : (after {} run).subscription? id = some s) :
    came id run = (along (taken id) {} run).length + s.mailbox.waiting.length := by
  rw [came, lastSeen_of_some hsub]
  rfl

theorem lost_of_some (hsub : (after {} run).subscription? id = some s) :
    lost id run = s.mailbox.dropped := by
  rw [lost, lastSeen_of_some hsub]
  rfl

/-- The account of a subscription whose reader is gone does not change any more. -/
theorem account_of_gone (hg : (after {} run).IsGone id) (a : Action) :
    came id (run ++ [a]) = came id run ∧ lost id (run ++ [a]) = lost id run := by
  have hs := sound_empty.after run
  have hseen : lastSeen id {} (run ++ [a]) = lastSeen id {} run := by
    rw [lastSeen_concat, after_concat, (hg.next hs a).1, Option.none_or]
  rw [came, came, lost, lost, hseen, along_concat, taken_of_none hs hg.1, List.append_nil]
  exact ⟨rfl, rfl⟩

/-! ## Steps -/

/-- A publish adds to the account of every subscription of its bus what the mailbox takes and what
it loses. -/
theorem account_publish (id : SubscriptionId) {handle : String} (beat : Beat) {b : Bus}
    (hfind : (after {} run).handles.find? handle = some id.bus)
    (hb : (after {} run).buses[id.bus]? = some b) (hid : id.serial < b.issued) :
    came id (run ++ [.publish handle beat]) = came id run + (b.takes beat id).toNat ∧
    lost id (run ++ [.publish handle beat])
      = lost id run + .ofNat (b.loses beat id).toNat := by
  have hs := sound_empty.after run
  have hbus := hs.buses _ b hb
  cases hsub : (after {} run).subscription? id with
  | none =>
    -- Who is gone is on no roster.
    have hnot : id ∉ b.roster.followers beat.agent := fun hmem => by
      have hsome := hbus.isSome_of_mem_followers hmem
      rw [← subscription?_of_bus rfl hb, hsub] at hsome
      cases hsome
    obtain ⟨hcame, hlost⟩ := account_of_gone ⟨hsub, b, hb, hid⟩ (.publish handle beat)
    rw [hcame, hlost]
    simp [Bus.takes, Bus.loses, hnot]
  | some s =>
    have hsub' := subscription?_next hs hsub (.publish handle beat)
    simp only [operations, hfind, if_true] at hsub'
    obtain ⟨s', hs'⟩ : ∃ s', s.react (.publish beat) = some s' := ⟨_, rfl⟩
    have hnext : ((after {} run).next (.publish handle beat)).subscription? id = some s' := by
      rw [hsub', Subscription.reactAll, hs']
      rfl
    rw [subscription?_of_bus rfl hb] at hsub
    obtain ⟨hwaiting, hdropped⟩ := Bus.react_publish hbus beat hsub hs'
    rw [← subscription?_of_bus rfl hb] at hsub
    rw [came_concat hsub, lost_concat hsub, came_of_some hsub, lost_of_some hsub, hnext]
    refine ⟨?_, hdropped⟩
    show _ + (0 + s'.mailbox.waiting.length) = _
    rw [hwaiting]
    omega

/-- A reader is handed nothing by the step that discards it. -/
theorem taken_of_discarded (hs : h.Sound) (hsub : h.subscription? id = some s)
    (hnone : (h.next a).subscription? id = none) : taken id h a = [] := by
  obtain ⟨b, hb, hfind⟩ := bus_of_subscription? hsub
  have hop : .discard id ∈ operations id.bus h a := by
    by_contra hnot
    have hsome := Bus.isSome_applyAll (hs.buses _ b hb) (by rw [hfind]; rfl) hnot
    rw [← subscription?_of_bus rfl (buses_next hs a hb), hnone] at hsome
    cases hsome
  cases cause_of_mem hop with
  | replace => rfl
  | discard => rfl

/-- A step that publishes nothing on its bus leaves the account of a subscription as it was. -/
theorem account_other (id : SubscriptionId) {b : Bus} (hb : (after {} run).buses[id.bus]? = some b)
    (hid : id.serial < b.issued) (hnone : published id.bus (after {} run) a = []) :
    came id (run ++ [a]) = came id run ∧ lost id (run ++ [a]) = lost id run := by
  have hs := sound_empty.after run
  cases hsub : (after {} run).subscription? id with
  | none => exact account_of_gone ⟨hsub, b, hb, hid⟩ a
  | some s =>
    rw [came_concat hsub, lost_concat hsub, came_of_some hsub, lost_of_some hsub]
    cases hnext : ((after {} run).next a).subscription? id with
    | none =>
      rw [taken_of_discarded hs hsub hnext]
      exact ⟨congrArg (_ + ·) (Nat.zero_add _), rfl⟩
    | some s' =>
      -- The queue that is like the mailbox is offered nothing, so it only runs empty.
      have htold : (told s.key id (after {} run) a).filterMap Fifo.Input.beat? = [] := by
        have hoffers := sublist_told_next (after {} run) s.key id a
        rw [hnone] at hoffers
        exact List.sublist_nil.mp hoffers
      obtain ⟨hqueue, hlost⟩ := (Fifo.ofMailbox s.mailbox).feedAll_of_no_offer htold
      obtain ⟨htaken, hafter⟩ := matches_next hs hsub rfl (Fifo.ofMailbox_matches s) a
      have hf := hafter s' hnext
      rw [htaken, ← hf.waiting] at hqueue
      have hlength := congrArg List.length hqueue
      rw [List.length_append] at hlength
      refine ⟨congrArg (_ + ·) hlength, ?_⟩
      show s'.mailbox.dropped = s.mailbox.dropped
      rw [hf.dropped, hlost]
      exact UInt64.ofNat_toNat

/-- A subscription has an empty account when it is made. -/
theorem account_subscribe {handle : String} {b : Bus} {n : Nat}
    (hfind : (after {} run).handles.find? handle = some n)
    (hb : (after {} run).buses[n]? = some b) (name key : String)
    (hfresh : along (taken b.nextId) {} run = []) :
    (lastSeen b.nextId {} (run ++ [.subscribe handle name key])).isSome ∧
    came b.nextId (run ++ [.subscribe handle name key]) = 0 ∧
    lost b.nextId (run ++ [.subscribe handle name key]) = 0 := by
  have hs := sound_empty.after run
  have hseen : lastSeen b.nextId {} (run ++ [.subscribe handle name key])
      = some ⟨b.nextId, key, { capacity := b.limits.queue }⟩ := by
    rw [lastSeen_concat, after_concat, subscription?_next_subscribe hs hfind hb, Option.some_or]
  rw [came, lost, hseen, along_concat, hfresh]
  exact ⟨rfl, rfl, rfl⟩

end AgentPulse.Hub
