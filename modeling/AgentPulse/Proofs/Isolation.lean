import AgentPulse.Proofs.Closing
import AgentPulse.Proofs.Hub.Owner

/-!
# Subscriptions do not disturb each other

The mailbox of a subscription is a bounded queue that sees the beats published for it while it is
registered and the reads of its own reader (`mailbox_eq_fifo`). For how long it is registered is a
matter of the handles to its bus, of being unsubscribed itself and of its own reader
(`isRegistered_after_iff`). Whatever else a run does, under the same key or another, with quick
readers or slow ones, is not seen.
-/

namespace AgentPulse.Hub

/-- An open subscription stays registered as long as its bus has a handle, it is not unsubscribed
under its own key, and nothing takes the name from its reader. -/
theorem isRegistered_after_iff {h : Hub} (hs : h.Sound) {name : String} {r : Reader}
    (hr : h.readers.find? name = some r) {s : Subscription} (hsub : h.subscription? r.id = some s)
    (hopen : s.mailbox.isClosed = false) (run : List Action) :
    (h.after run).isRegistered s.key r.id = true ↔
      (∃ handle, (h.after run).handles.find? handle = some r.id.bus) ∧
      s.key ∉ along (unsubscribed r.id) h run ∧ name ∉ along vacated h run := by
  rw [← isSome_subscription?_after hs hr]
  cases hsub' : (h.after run).subscription? r.id with
  | none =>
    -- Who is gone is not registered.
    refine ⟨fun hregistered => ?_, fun hall => absurd hall.2.2 nofun⟩
    have hsome := (hs.after run).isSome_of_isRegistered hregistered
    rw [hsub'] at hsome
    cases hsome
  | some s' =>
    have hmatches := matches_after hs hsub rfl (Fifo.ofMailbox_matches s) run
    obtain ⟨hkey, -⟩ := hmatches.2 s' hsub'
    rw [← hkey, isRegistered_iff (hs.after run) hsub', isOpen_after hs hsub hsub', mem_values, hkey]
    exact ⟨fun hall => ⟨hall.2.1, hall.2.2, rfl⟩, fun hall => ⟨hopen, hall.1, hall.2.1⟩⟩

/-- A subscription made anywhere in a run, under any key and on any bus, is a bounded queue on its
own from then on. Whatever else is done in `rest`, the queue is told only the beats for its key that
are published while it is registered and the reads of its own reader, and it tells what the reader
was handed, what waits in the mailbox and how much was dropped. What was handed out and what waits
are matching beats in the order in which they were published, none of them twice. At any moment the
subscription is registered exactly if some handle leads to its bus, it was not unsubscribed there
under its own key, and its reader neither was discarded nor made way for another one: nothing that
is done with other subscriptions counts. -/
theorem mailbox_eq_fifo {first : List Action} {handle : String} {b : Bus}
    (hb : (after {} first).bus handle = .ok b) (name key : String) (rest : List Action) :
    let start := (after {} first).next (.subscribe handle name key)
    let f := Fifo.feedAll { capacity := b.limits.queue } (along (told key b.nextId) start rest)
    start.readers.find? name = some { id := b.nextId } ∧
    along (taken b.nextId) start rest = f.taken ∧
    (∀ owner r, (start.after rest).readers.find? owner = some r → r.id = b.nextId →
      ∃ s, (start.after rest).subscription owner = .ok (r, s) ∧ s.key = key ∧
        s.mailbox.waiting = f.queue ∧ s.mailbox.dropped = .ofNat f.lost) ∧
    (f.taken ++ f.queue).Sublist
      ((along (published b.id) start rest).filter fun beat => follows key beat.agent) ∧
    (∀ part, (start.after part).isRegistered key b.nextId = true ↔
      (∃ other, (start.after part).handles.find? other = some b.id) ∧
      key ∉ along (unsubscribed b.nextId) start part ∧ name ∉ along vacated start part) := by
  intro start f
  have hs := sound_empty.after first
  obtain ⟨n, hfind, hbus⟩ := bus_eq_ok hb
  have hsub := subscription?_next_subscribe hs hfind hbus name key
  have hempty : Fifo.Matches { capacity := b.limits.queue }
      ⟨b.nextId, key, { capacity := b.limits.queue }⟩ := ⟨rfl, rfl, rfl⟩
  have hstart : start.Sound := hs.next _
  obtain ⟨htaken, hafter⟩ := matches_after hstart hsub rfl hempty rest
  have hreader : start.readers.find? name = some { id := b.nextId } := by
    show ((after {} first).next (.subscribe handle name key)).readers.find? name = _
    rw [next_subscribe hs hb, Dict.find?_insert, if_pos rfl]
  refine ⟨hreader, htaken.symm, fun owner r hr hid => ?_, ?_,
    isRegistered_after_iff hstart hreader hsub rfl⟩
  · have hsome := (hstart.after rest).readers owner r hr
    obtain ⟨s, hsub'⟩ := Option.isSome_iff_exists.mp hsome
    obtain ⟨hkey, hf⟩ := hafter s (hid ▸ hsub')
    exact ⟨s, subscription_of_reader hr hsub', hkey, hf.waiting, hf.dropped⟩
  · have hoffers := (Fifo.sublist_feedAll { capacity := b.limits.queue }
      (along (told key b.nextId) start rest)).trans (sublist_told start key b.nextId rest)
    exact hoffers

/-- A reader that never reads loses what another one of the same bus gets. -/
theorem mailbox_eq_fifo_slow_reader :
    let first : List Action := [.create "bus" ⟨1, 1⟩]
    let rest : List Action := [.subscribe "bus" "quick" "a",
      .publish "bus" { agent := "a", status := "idle" }, .read "quick" .attempt,
      .publish "bus" { agent := "a", status := "waiting" }]
    (after {} first).bus "bus" = .ok (Bus.ofLimits 0 ⟨1, 1⟩) ∧
    ∃ r s, (((after {} first).next (.subscribe "bus" "slow" "*")).after rest).subscription "slow"
        = .ok (r, s) ∧
      s.mailbox.waiting.map (·.status) = ["idle"] ∧ s.mailbox.dropped = 1 := by
  intro first rest
  have hb : (after {} first).bus "bus" = .ok (Bus.ofLimits 0 ⟨1, 1⟩) := rfl
  obtain ⟨-, -, hall, -, -⟩ := mailbox_eq_fifo hb "slow" "*" rest
  obtain ⟨s, hs, -, hwaiting, hdropped⟩ :=
    hall "slow" ⟨⟨0, 0⟩, false⟩ (by decide +kernel) (by decide +kernel)
  refine ⟨hb, _, s, hs, ?_, ?_⟩
  · rw [hwaiting]
    decide +kernel
  · rw [hdropped]
    decide +kernel

end AgentPulse.Hub
