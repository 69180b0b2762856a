import AgentPulse.Proofs.Bus.Queue
import AgentPulse.Proofs.Hub.View

/-!
# A mailbox is a queue on its own

What a run does to a subscription is told by the beats published for it while it is registered and
by the reads of its own reader (`told`). A bounded queue that is told this and nothing else stays
like the mailbox of the subscription and hands out what its reader is handed, step by step
(`matches_next`) and so along a run (`matches_after`). A subscription that is still open was offered
everything that was published for it (`told_of_open_after`).
-/

namespace AgentPulse.Hub

open Bus (Operation)

/-- Whether a subscription is registered under a key. -/
def isRegistered (h : Hub) (key : String) (id : SubscriptionId) : Bool :=
  (h.buses[id.bus]?).any fun b => id ∈ b.roster.under key

/-- What a step tells the queue of a subscription that was made under a key. Draining a mailbox is
reading until nothing is found. -/
def told (key : String) (id : SubscriptionId) (h : Hub) (a : Action) : List Fifo.Input :=
  match a with
  | .publish handle beat =>
    if h.handles.find? handle = some id.bus ∧ h.isRegistered key id ∧ follows key beat.agent
      then [.offer beat] else []
  | .read name _ => if h.isReaderOf name id then [.take] else []
  | .drain name =>
    if h.isReaderOf name id then List.replicate ((h.handed a).length + 1) .take else []
  | _ => []

/-! ## A step -/

variable {h : Hub} {id : SubscriptionId} {key : String} {s : Subscription} {f : Fifo}

/-- A subscription is registered under its key as long as it is open. -/
theorem isRegistered_iff (hs : h.Sound) (hsub : h.subscription? id = some s) :
    h.isRegistered s.key id = true ↔ s.mailbox.isClosed = false := by
  obtain ⟨b, hb, hfind⟩ := bus_of_subscription? hsub
  rw [isRegistered, hb, Option.any_some, decide_eq_true_iff, (hs.buses _ b hb).entered]
  constructor
  · rintro ⟨t, ht, -, hopen⟩
    rw [hfind] at ht
    cases ht
    exact hopen
  · exact fun hopen => ⟨s, hfind, rfl, hopen⟩

theorem Sound.isSome_of_isRegistered (hs : h.Sound) (hregistered : h.isRegistered key id = true) :
    (h.subscription? id).isSome := by
  obtain ⟨b, hb, hmem⟩ := (Option.any_eq_true _ _).mp hregistered
  rw [subscription?_of_bus rfl hb]
  exact (hs.buses _ b hb).isSome_of_mem_under (of_decide_eq_true hmem)

/-- Whether an action is to fill mailboxes or to empty one. -/
def Action.movesBeats : Action → Bool
  | .publish .. | .read .. | .drain _ => true
  | _ => false

/-- All other actions leave the mailboxes that stay as full as they were. -/
theorem isInert_of_mem_operations {a : Action} (ha : a.movesBeats = false) {n : Nat}
    {op : Operation} (hop : op ∈ operations n h a) : op.isInert = true := by
  cases cause_of_mem hop with
  | publish => cases ha
  | read => cases ha
  | drain => cases ha
  | _ => rfl

theorem given_of_inert (s : Subscription) {ops : List Operation}
    (hops : ∀ op ∈ ops, op.isInert = true) : ops.flatMap s.given = [] := by
  refine List.flatMap_eq_nil_iff.mpr fun op hop => ?_
  have hinert := hops op hop
  cases op with
  | take id => cases hinert
  | drain id => cases hinert
  | _ => rfl

/-- A step hands out what the queue hands out, and leaves the queue and the mailbox alike. -/
theorem matches_next (hs : h.Sound) (hsub : h.subscription? id = some s) (hkey : s.key = key)
    (hf : f.Matches s) (a : Action) :
    (f.feedAll (told key id h a)).taken = f.taken ++ taken id h a ∧
    ∀ s', (h.next a).subscription? id = some s' → (f.feedAll (told key id h a)).Matches s' := by
  subst hkey
  have hid := id_of_subscription? hsub
  rw [taken_eq hsub, subscription?_next hs hsub]
  -- Most steps tell the queue nothing.
  have hinert : a.movesBeats = false → told s.key id h a = [] →
      (f.feedAll (told s.key id h a)).taken
        = f.taken ++ (operations id.bus h a).flatMap s.given ∧
      ∀ s', s.reactAll (operations id.bus h a) = some s' →
        (f.feedAll (told s.key id h a)).Matches s' := by
    intro ha htold
    have hops : ∀ op ∈ operations id.bus h a, op.isInert = true := fun op =>
      isInert_of_mem_operations ha
    rw [htold, given_of_inert s hops]
    exact ⟨(List.append_nil _).symm, fun s' => hf.reactAll_inert hops⟩
  cases a with
  | publish handle beat =>
    simp only [told, operations, isRegistered_iff hs hsub]
    by_cases hhandle : h.handles.find? handle = some id.bus
    · rw [if_pos hhandle]
      refine ⟨?_, fun s' hs' => ?_⟩
      · split <;> simp [Subscription.given, Fifo.feed, apply_ite]
      · -- To be registered is to be open, so the mailbox is offered what the queue is told.
        simp only [Subscription.reactAll, Subscription.react, Option.bind_some, Option.some.injEq]
          at hs'
        subst hs'
        simp only [hhandle, true_and]
        split
        next => exact hf.offer beat
        next => exact hf
    · rw [if_neg hhandle, if_neg (fun e => hhandle e.1)]
      exact ⟨(List.append_nil _).symm, fun s' hs' => by cases hs'; exact hf⟩
  | read name reading =>
    rw [told]
    split
    next hname =>
      rw [(operations_of_isReaderOf hname reading).1]
      refine ⟨?_, fun s' hs' => ?_⟩
      · simpa [Subscription.given, hid] using hf.take.2
      · simp only [Subscription.reactAll, Subscription.react, hid, if_true, Option.bind_some,
          Option.some.injEq] at hs'
        subst hs'
        exact hf.take.1
    next hname =>
      obtain ⟨hreact, hnone⟩ :=
        operations_of_not_isReaderOf hname hid (Or.inl ⟨reading, rfl⟩)
      rw [hreact, hnone]
      exact ⟨(List.append_nil _).symm, fun s' hs' => by cases hs'; exact hf⟩
  | drain name =>
    rw [told]
    split
    next hname =>
      obtain ⟨r, hr, hrid⟩ := isReaderOf_iff.mp hname
      rw [(operations_of_isReaderOf hname .attempt).2,
        handed_drain (subscription_of_reader hr (hrid ▸ hsub))]
      refine ⟨?_, fun s' hs' => ?_⟩
      · simpa [Subscription.given, hid] using hf.drain.2
      · simp only [Subscription.reactAll, Subscription.react, hid, if_true, Option.bind_some,
          Option.some.injEq] at hs'
        subst hs'
        exact hf.drain.1
    next hname =>
      obtain ⟨hreact, hnone⟩ := operations_of_not_isReaderOf hname hid (Or.inr rfl)
      rw [hreact, hnone]
      exact ⟨(List.append_nil _).symm, fun s' hs' => by cases hs'; exact hf⟩
  | create handle limits => exact hinert rfl rfl
  | clone handle copy => exact hinert rfl rfl
  | release handle => exact hinert rfl rfl
  | subscribe handle name key => exact hinert rfl rfl
  | unsubscribe handle name key => exact hinert rfl rfl
  | stream name => exact hinert rfl rfl
  | discard name => exact hinert rfl rfl

/-! ## A run -/

/-- Nothing is told to the queue of a subscription whose reader is gone. -/
theorem told_of_none (hs : h.Sound) (hg : h.IsGone id) (a : Action) : told key id h a = [] := by
  have hnone := hg.1
  have hreader : ∀ name, ¬ h.isReaderOf name id = true := fun name e => by
    obtain ⟨r, hr, hrid⟩ := isReaderOf_iff.mp e
    exact hs.find?_readers_of_none hnone hr hrid
  have hregistered : ¬ h.isRegistered key id = true := fun e => by
    have hsome := hs.isSome_of_isRegistered e
    rw [hnone] at hsome
    cases hsome
  cases a with
  | publish handle beat => exact if_neg fun e => hregistered e.2.1
  | read name reading => exact if_neg (hreader name)
  | drain name => exact if_neg (hreader name)
  | _ => rfl

/-- Along a run nothing changes for a subscription whose reader is gone. -/
theorem told_taken_of_gone (hs : h.Sound) (hg : h.IsGone id) (rest : List Action) :
    along (told key id) h rest = [] ∧ along (taken id) h rest = [] := by
  induction rest generalizing h with
  | nil => exact ⟨rfl, rfl⟩
  | cons a rest ih =>
    obtain ⟨htold, htaken⟩ := ih (hs.next a) (hg.next hs a)
    rw [along_cons, along_cons, told_of_none hs hg, taken_of_none hs hg.1, htold, htaken]
    exact ⟨rfl, rfl⟩

/-- Along a run the reader is handed what the queue hands out, and as long as the reader exists the
queue and the mailbox are alike. -/
theorem matches_after (hs : h.Sound) (hsub : h.subscription? id = some s) (hkey : s.key = key)
    (hf : f.Matches s) (rest : List Action) :
    (f.feedAll (along (told key id) h rest)).taken = f.taken ++ along (taken id) h rest ∧
    ∀ s', (h.after rest).subscription? id = some s' →
      s'.key = key ∧ (f.feedAll (along (told key id) h rest)).Matches s' := by
  induction rest generalizing h s f with
  | nil =>
    refine ⟨(List.append_nil _).symm, fun s' hs' => ?_⟩
    rw [after_nil, hsub] at hs'
    cases hs'
    exact ⟨hkey, hf⟩
  | cons a rest ih =>
    obtain ⟨htaken, hnext⟩ := matches_next hs hsub hkey hf a
    rw [along_cons, along_cons, after_cons, Fifo.feedAll_append, ← List.append_assoc, ← htaken]
    cases hsub' : (h.next a).subscription? id with
    | some t =>
      have hframe := Subscription.reactAll_frame
        (subscription?_next hs hsub a ▸ hsub' : s.reactAll (operations id.bus h a) = some t)
      exact ih (hs.next a) hsub' (hframe.2.1.trans hkey) (hnext t hsub')
    | none =>
      -- The reader is gone: from here on nothing is told and nothing is handed out.
      have hgone := isGone_of_next hs hsub hsub'
      obtain ⟨htold, htaken'⟩ : along (told key id) (h.next a) rest = [] ∧ _ :=
        told_taken_of_gone (hs.next a) hgone rest
      rw [htold, htaken']
      refine ⟨(List.append_nil _).symm, fun s' hs' => ?_⟩
      rw [(hgone.after (hs.next a) rest).1] at hs'
      cases hs'

/-- The queue is offered nothing but beats that are published on its bus and are for its key. -/
theorem sublist_told_next (h : Hub) (key : String) (id : SubscriptionId) (a : Action) :
    ((told key id h a).filterMap Fifo.Input.beat?).Sublist
      ((published id.bus h a).filter fun beat => follows key beat.agent) := by
  have hreplicate : ∀ n, (List.replicate n Fifo.Input.take).filterMap Fifo.Input.beat? = [] :=
    fun n => by simp [Fifo.Input.beat?]
  cases a with
  | publish handle beat =>
    rw [told, published]
    split
    next hall => simp [hall.1, hall.2.2, Fifo.Input.beat?]
    next => exact List.nil_sublist _
  | read name reading =>
    rw [told]
    split <;> exact List.nil_sublist _
  | drain name =>
    rw [told]
    split
    next => rw [hreplicate]; exact List.nil_sublist _
    next => exact List.nil_sublist _
  | _ => exact List.nil_sublist _

/-- Along a run it is offered each of them at most once, in the order of publishing. -/
theorem sublist_told (h : Hub) (key : String) (id : SubscriptionId) (rest : List Action) :
    ((along (told key id) h rest).filterMap Fifo.Input.beat?).Sublist
      ((along (published id.bus) h rest).filter fun beat => follows key beat.agent) := by
  induction rest generalizing h with
  | nil => exact List.Sublist.refl _
  | cons a rest ih =>
    rw [along_cons, along_cons, List.filterMap_append, List.filter_append]
    exact (sublist_told_next h key id a).append (ih (h.next a))

/-! ## An open subscription -/

theorem isOpen_of_next (hs : h.Sound) (hsub : h.subscription? id = some s) {a : Action}
    {s' : Subscription} (hsub' : (h.next a).subscription? id = some s')
    (hopen : s'.mailbox.isClosed = false) : s.mailbox.isClosed = false := by
  have hreact := subscription?_next hs hsub a ▸ hsub'
  by_contra hclosed
  rw [(Subscription.isClosed_reactAll hreact).mpr (.inl (by simpa using hclosed))] at hopen
  cases hopen

/-- The queue of an open subscription is offered every beat that is published on its bus and is for
its key. -/
theorem told_of_open (hs : h.Sound) (hsub : h.subscription? id = some s) (hkey : s.key = key)
    (hopen : s.mailbox.isClosed = false) (a : Action) :
    (told key id h a).filterMap Fifo.Input.beat?
      = (published id.bus h a).filter fun beat => follows key beat.agent := by
  have hreplicate : ∀ n, (List.replicate n Fifo.Input.take).filterMap Fifo.Input.beat? = [] :=
    fun n => by simp [Fifo.Input.beat?]
  have hregistered := hkey ▸ (isRegistered_iff hs hsub).mpr hopen
  cases a with
  | publish handle beat =>
    simp only [told, published, hregistered, true_and]
    by_cases hfind : h.handles.find? handle = some id.bus
    · by_cases hfollows : follows key beat.agent = true
      · simp [hfind, hfollows, Fifo.Input.beat?]
      · simp [hfind, hfollows]
    · simp [hfind]
  | read name reading =>
    rw [told]
    split <;> rfl
  | drain name =>
    rw [told]
    split
    next => exact hreplicate _
    next => rfl
  | _ => rfl

/-- A subscription that is open after a run was offered all beats for its key along the run. -/
theorem told_of_open_after (hs : h.Sound) (hsub : h.subscription? id = some s)
    (hkey : s.key = key) {rest : List Action} {s' : Subscription}
    (hsub' : (h.after rest).subscription? id = some s') (hopen : s'.mailbox.isClosed = false) :
    s.mailbox.isClosed = false ∧
    (along (told key id) h rest).filterMap Fifo.Input.beat?
      = (along (published id.bus) h rest).filter fun beat => follows key beat.agent := by
  induction rest generalizing h s with
  | nil =>
    rw [after_nil, hsub] at hsub'
    cases hsub'
    exact ⟨hopen, rfl⟩
  | cons a rest ih =>
    cases hnext : (h.next a).subscription? id with
    | none =>
      -- Who is gone does not come back.
      rw [after_cons, ((isGone_of_next hs hsub hnext).after (hs.next a) rest).1] at hsub'
      cases hsub'
    | some t =>
      have hframe := Subscription.reactAll_frame
        (subscription?_next hs hsub a ▸ hnext : s.reactAll (operations id.bus h a) = some t)
      obtain ⟨hopen', hrest⟩ := ih (hs.next a) hnext (hframe.2.1.trans hkey) hsub'
      have hopen := isOpen_of_next hs hsub hnext hopen'
      rw [along_cons, along_cons, List.filterMap_append, List.filter_append, hrest,
        told_of_open hs hsub hkey hopen]
      exact ⟨hopen, rfl⟩

end AgentPulse.Hub
