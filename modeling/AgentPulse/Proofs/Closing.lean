import AgentPulse.Proofs.Hub.Queue

/-!
# When subscriptions close, and what becomes of closed ones

A subscription is open as long as its bus has a handle and nobody has unsubscribed its identity
under its own key on its own bus (`isOpen_after`); nothing else closes it and nothing opens it
again. What waits in the mailbox when it closes is still read in order, and nothing is added to it
(`closed_after`).
-/

namespace AgentPulse.Hub

open Bus (Operation)

variable {h : Hub} {id : SubscriptionId} {s s' : Subscription}

/-- The keys under which a step unsubscribes an identity on the bus that it belongs to. -/
def unsubscribed (id : SubscriptionId) (h : Hub) (a : Action) : List String :=
  match a with
  | .unsubscribe handle name key =>
    if h.handles.find? handle = some id.bus ∧ h.known.find? name = some id then [key] else []
  | _ => []

theorem mem_unsubscribed {a : Action} {key : String} :
    key ∈ unsubscribed id h a ↔ .unsubscribe key id ∈ operations id.bus h a := by
  constructor
  · intro hkey
    cases a with
    | unsubscribe handle name key' =>
      rw [unsubscribed] at hkey
      split at hkey
      next hboth =>
        rw [List.mem_singleton.mp hkey]
        simp only [operations, hboth.2, hboth.1, if_true]
        exact List.mem_singleton_self _
      next => cases hkey
    | _ => cases hkey
  · intro hop
    cases cause_of_mem hop with
    | unsubscribe _ known find =>
      rw [unsubscribed, if_pos ⟨find, known⟩]
      exact List.mem_singleton_self _

/-! ## Open and closed -/

/-- A bus that no handle leads to gets none again. -/
theorem Sound.mem_handles_of_after (hs : h.Sound) {n : Nat} (hn : n < h.buses.length)
    {run : List Action} (hmem : n ∈ (h.after run).handles.values) : n ∈ h.handles.values := by
  induction run generalizing h with
  | nil => exact hmem
  | cons a run ih =>
    have hchange := handleChange_next hs a
    exact hchange.mem_values hn
      (ih (hs.next a) (Nat.lt_of_lt_of_le hn hchange.length_le) hmem)

/-- An open subscription has a bus that a handle leads to. -/
theorem Sound.mem_handles_of_open (hs : h.Sound) (hsub : h.subscription? id = some s)
    (hopen : s.mailbox.isClosed = false) : id.bus ∈ h.handles.values := by
  obtain ⟨b, hb, hfind⟩ := bus_of_subscription? hsub
  by_contra hnot
  rw [hs.closed _ b hb hnot id s hfind] at hopen
  cases hopen

/-- A step leaves a subscription open unless its bus loses its last handle or it is unsubscribed
under its own key. -/
theorem isOpen_next (hs : h.Sound) (hsub : h.subscription? id = some s) {a : Action}
    (hsub' : (h.next a).subscription? id = some s') :
    s'.mailbox.isClosed = false ↔ s.mailbox.isClosed = false ∧
      id.bus ∈ (h.next a).handles.values ∧ s.key ∉ unsubscribed id h a := by
  have hid := id_of_subscription? hsub
  rw [subscription?_next hs hsub] at hsub'
  have hclosed := Subscription.isClosed_reactAll hsub'
  rw [hid, ← mem_unsubscribed] at hclosed
  constructor
  · intro hopen'
    have hnot : ¬ (s.mailbox.isClosed = true ∨ .close ∈ operations id.bus h a ∨
        s.key ∈ unsubscribed id h a) := fun e => by
      rw [hclosed.mpr e] at hopen'
      cases hopen'
    rw [not_or, not_or, Bool.not_eq_true] at hnot
    obtain ⟨hopen, hclose, hkey⟩ := hnot
    refine ⟨hopen, ?_, hkey⟩
    -- A bus that loses its last handle is closed in the same step.
    by_contra hlost
    rw [operations_of_lost hs (hs.mem_handles_of_open hsub hopen) hlost] at hclose
    exact hclose List.mem_cons_self
  · rintro ⟨hopen, hmem, hkey⟩
    by_contra hc
    rcases hclosed.mp (by simpa using hc) with h1 | h2 | h3
    · rw [hopen] at h1
      cases h1
    · cases cause_of_mem h2 with
      | lost _ gone => exact gone hmem
    · exact hkey h3

/-- Along a run a subscription is open as long as its bus has a handle and it is not unsubscribed
under its own key. -/
theorem isOpen_after (hs : h.Sound) (hsub : h.subscription? id = some s) {run : List Action}
    (hsub' : (h.after run).subscription? id = some s') :
    s'.mailbox.isClosed = false ↔ s.mailbox.isClosed = false ∧
      id.bus ∈ (h.after run).handles.values ∧ s.key ∉ along (unsubscribed id) h run := by
  induction run generalizing h s with
  | nil =>
    rw [after_nil, hsub] at hsub'
    cases hsub'
    exact ⟨fun hopen => ⟨hopen, hs.mem_handles_of_open hsub hopen, List.not_mem_nil⟩, fun e => e.1⟩
  | cons a run ih =>
    rw [after_cons] at hsub' ⊢
    rw [along_cons, List.mem_append, not_or]
    cases hnext : (h.next a).subscription? id with
    | none =>
      rw [((isGone_of_next hs hsub hnext).after (hs.next a) run).1] at hsub'
      cases hsub'
    | some t =>
      obtain ⟨-, hkey, -⟩ :=
        Subscription.reactAll_frame ((subscription?_next hs hsub a).symm.trans hnext)
      rw [ih (hs.next a) hnext hsub', isOpen_next hs hsub hnext, hkey]
      constructor
      · rintro ⟨⟨hopen, -, hfirst⟩, hmem, hrest⟩
        exact ⟨hopen, hmem, hfirst, hrest⟩
      · rintro ⟨hopen, hmem, hfirst, hrest⟩
        -- A handle at the end was there, or was copied from one, at every step before.
        obtain ⟨b, hb, -⟩ := bus_of_subscription? hnext
        have hlt := (List.getElem?_eq_some_iff.mp hb).1
        exact ⟨⟨hopen, (hs.next a).mem_handles_of_after hlt hmem, hfirst⟩, hmem, hrest⟩

/-! ## After closing -/

/-- Nothing is offered to a closed subscription. -/
theorem told_of_closed (hs : h.Sound) (hsub : h.subscription? id = some s)
    (hclosed : s.mailbox.isClosed = true) (a : Action) :
    (told s.key id h a).filterMap Fifo.Input.beat? = [] := by
  cases a with
  | publish handle beat =>
    have hnot : ¬ h.isRegistered s.key id = true := by
      rw [isRegistered_iff hs hsub, hclosed]
      exact Bool.noConfusion
    rw [told, if_neg fun e => hnot e.2.1]
    rfl
  | read name reading => rw [told]; split <;> rfl
  | drain name => rw [told]; split <;> simp [Fifo.Input.beat?]
  | _ => rfl

theorem along_told_of_closed (hs : h.Sound) (hsub : h.subscription? id = some s)
    (hclosed : s.mailbox.isClosed = true) (run : List Action) :
    (along (told s.key id) h run).filterMap Fifo.Input.beat? = [] := by
  induction run generalizing h s with
  | nil => rfl
  | cons a run ih =>
    rw [along_cons, List.filterMap_append, told_of_closed hs hsub hclosed, List.nil_append]
    cases hnext : (h.next a).subscription? id with
    | none =>
      rw [(told_taken_of_gone (hs.next a) (isGone_of_next hs hsub hnext) run).1]
      rfl
    | some t =>
      have hreact := (subscription?_next hs hsub a).symm.trans hnext
      rw [← (Subscription.reactAll_frame hreact).2.1]
      exact ih (hs.next a) hnext ((Subscription.isClosed_reactAll hreact).mpr (Or.inl hclosed))

/-- After closing the reader is handed what waited then, in order, and nothing more; nothing is
dropped any more, and the subscription stays closed. -/
theorem closed_after (hs : h.Sound) (hsub : h.subscription? id = some s)
    (hclosed : s.mailbox.isClosed = true) (run : List Action) :
    along (taken id) h run <+: s.mailbox.waiting ∧
    ∀ s', (h.after run).subscription? id = some s' → s'.mailbox.isClosed = true ∧
      s'.mailbox.dropped = s.mailbox.dropped ∧
      along (taken id) h run ++ s'.mailbox.waiting = s.mailbox.waiting := by
  obtain ⟨hqueue, hlost⟩ := (Fifo.ofMailbox s.mailbox).feedAll_of_no_offer
    (along_told_of_closed hs hsub hclosed run)
  obtain ⟨htaken, hafter⟩ := matches_after hs hsub rfl (Fifo.ofMailbox_matches s) run
  rw [htaken] at hqueue
  refine ⟨⟨_, hqueue⟩, fun s' hsub' => ?_⟩
  obtain ⟨-, hf'⟩ := hafter s' hsub'
  refine ⟨?_, ?_, ?_⟩
  · by_contra hopen
    have hboth := (isOpen_after hs hsub hsub').mp (by simpa using hopen)
    rw [hclosed] at hboth
    cases hboth.1
  · rw [hf'.dropped, hlost]
    exact UInt64.ofNat_toNat
  · rw [hf'.waiting]
    exact hqueue

/-- A subscription made anywhere in a run, as its reader finds it later. It is open exactly as long
as some handle leads to its bus and it was not unsubscribed there under its own key. While it is
open no read says that it has ended. From when it is closed on, whatever is done (`more`): it stays
closed and drops nothing more, its reader is handed what waited in it, in order, and every read
after that says that it has ended. -/
theorem closing_exact_and_final {first : List Action} {handle : String} {b : Bus}
    (hb : (after {} first).bus handle = .ok b) (name key : String) (rest : List Action) :
    let start := (after {} first).next (.subscribe handle name key)
    let h := start.after rest
    ∀ owner r s, h.subscription owner = .ok (r, s) → r.id = b.nextId →
      (s.mailbox.isClosed = false ↔ (∃ other, h.handles.find? other = some b.id) ∧
        key ∉ along (unsubscribed b.nextId) start rest) ∧
      (s.mailbox.isClosed = false → s.mailbox.waiting = [] → ∀ reading,
        h.answer (.read owner reading) = reading.nothingYet ∧
          h.answer (.read owner reading) ≠ reading.ended) ∧
      (s.mailbox.isClosed = true → ∀ more,
        let out := along (taken b.nextId) h more
        out <+: s.mailbox.waiting ∧
        ∀ owner' r', (h.after more).readers.find? owner' = some r' → r'.id = b.nextId →
          ∃ s', (h.after more).subscription owner' = .ok (r', s') ∧
            s'.mailbox.isClosed = true ∧ s'.mailbox.dropped = s.mailbox.dropped ∧
            out ++ s'.mailbox.waiting = s.mailbox.waiting ∧
            ∀ reading, (h.after more).answer (.read owner' reading)
              = match s.mailbox.waiting.drop out.length with
                | beat :: _ => reading.found beat
                | [] => reading.ended) := by
  intro start h owner r s hsub hid
  have hs := sound_empty.after first
  obtain ⟨n, hfind, hbus⟩ := bus_eq_ok hb
  have hnew := subscription?_next_subscribe hs hfind hbus name key
  have hstart : start.Sound := hs.next _
  have hh : h.Sound := hstart.after rest
  obtain ⟨hr, hsub'⟩ := reader_of_subscription hsub
  rw [hid] at hsub'
  refine ⟨?_, fun hopen hempty reading => ?_, fun hclosed more => ?_⟩
  · rw [isOpen_after hstart hnew hsub', mem_values]
    exact ⟨fun e => e.2, fun e => ⟨rfl, e⟩⟩
  · rw [answer_read hsub, hempty, hopen]
    exact ⟨rfl, reading.nothingYet_ne_ended⟩
  · obtain ⟨hout, hafter⟩ := closed_after hh hsub' hclosed more
    refine ⟨hout, fun owner' r' hr' hid' => ?_⟩
    obtain ⟨s', hsub''⟩ := Option.isSome_iff_exists.mp ((hh.after more).readers owner' r' hr')
    obtain ⟨hstill, hdropped, hqueue⟩ := hafter s' (hid' ▸ hsub'')
    have hread := subscription_of_reader hr' hsub''
    refine ⟨s', hread, hstill, hdropped, hqueue, fun reading => ?_⟩
    rw [answer_read hread, hstill, ← hqueue, List.drop_left]
    rfl

/-- A bus of two handles: the subscription outlives the one, is not touched by being unsubscribed
under a wrong key, and closes with the other. What waits is read, and then the end. -/
theorem closing_exact_and_final_two_handles :
    let first : List Action := [.create "bus" ⟨1, 1⟩, .clone "bus" "copy"]
    let rest : List Action := [.publish "bus" { agent := "a", status := "idle" }, .release "bus",
      .unsubscribe "copy" "reader" "*", .release "copy"]
    let h := ((after {} first).next (.subscribe "bus" "reader" "a")).after rest
    (after {} first).bus "bus" = .ok (Bus.ofLimits 0 ⟨1, 1⟩) ∧
    ∃ s, h.subscription "reader" = .ok (⟨⟨0, 0⟩, false⟩, s) ∧ s.mailbox.isClosed = true ∧
      (h.after [.read "reader" .attempt]).answer (.read "reader" .poll)
        = .ok (.polled (.ready none)) := by
  intro first rest h
  have hb : (after {} first).bus "bus" = .ok (Bus.ofLimits 0 ⟨1, 1⟩) := rfl
  have hwaiting : (h.subscription? ⟨0, 0⟩).map (·.mailbox.waiting.length) = some 1 := by
    decide +kernel
  obtain ⟨s, hfind, hlength⟩ := Option.map_eq_some_iff.mp hwaiting
  have hsub := subscription_of_reader (r := ⟨⟨0, 0⟩, false⟩)
    (by decide +kernel : h.readers.find? "reader" = some ⟨⟨0, 0⟩, false⟩) hfind
  obtain ⟨hiff, -, hfinal⟩ :=
    closing_exact_and_final hb "reader" "a" rest "reader" _ s hsub (by decide +kernel)
  have hclosed : s.mailbox.isClosed = true := by
    by_contra hopen
    obtain ⟨⟨other, hother⟩, -⟩ := hiff.mp (by simpa using hopen)
    have hvalues : h.handles.values = [] := by decide +kernel
    have hmem := mem_values.mpr ⟨other, hother⟩
    rw [hvalues] at hmem
    cases hmem
  obtain ⟨-, hread⟩ := hfinal hclosed [.read "reader" .attempt]
  obtain ⟨s', -, -, -, -, hanswer⟩ :=
    hread "reader" ⟨⟨0, 0⟩, false⟩ (by decide +kernel) (by decide +kernel)
  refine ⟨hb, s, hsub, hclosed, ?_⟩
  have hout : (along (taken (Bus.ofLimits 0 ⟨1, 1⟩).nextId) h
      [.read "reader" .attempt]).length = 1 := by decide +kernel
  rw [hanswer .poll, hout, List.drop_eq_nil_of_le (Nat.le_of_eq hlength)]
  rfl

end AgentPulse.Hub
