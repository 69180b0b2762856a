import AgentPulse.Proofs.Bus.Order
import AgentPulse.Proofs.PublishLog

/-!
# The order in which producers publish

When nothing else is done to a bus, publishing many beats on it is the same whoever publishes first
(`publishing_order`): every open mailbox takes the first beats that are for it, up to its capacity,
and counts the others as lost. So the totals, the counts and the lengths are the same in any order,
and in any order that leaves the beats of each agent in turn the contents are the same too.
-/

namespace AgentPulse

namespace Bus

variable {b : Bus} {log beats beats' : List Beat}

/-- What is published stands at the end of the log. -/
theorem keeps_publishAll (h : b.archive.Keeps log) (beats : List Beat) :
    (b.applyAll (beats.map .publish)).archive.Keeps (log ++ beats) := by
  have hbeats : (beats.map Operation.publish).flatMap Operation.beats = beats := by
    rw [List.flatMap_map]
    exact List.flatMap_singleton' beats
  have hkeeps := keeps_applyAll h (beats.map .publish)
  rwa [hbeats] at hkeeps

/-- The totals, the subscribers, the keys and the lengths of the histories do not depend on the
order in which beats are published. -/
theorem publishAll_perm (hs : b.Sound) (h : b.archive.Keeps log) (hperm : beats'.Perm beats) :
    let c := b.applyAll (beats.map .publish)
    let c' := b.applyAll (beats'.map .publish)
    c'.totals = c.totals ∧ c'.roster = c.roster ∧ c'.archive.keys = c.archive.keys ∧
    ∀ key, (c'.archive.history key).length = (c.archive.history key).length := by
  intro c c'
  obtain ⟨hkeys, hcount, htotal, hlength⟩ := (keeps_publishAll h beats).perm
    (keeps_publishAll h beats') ((capacity_applyAll ..).trans (capacity_applyAll ..).symm)
    (hperm.append_left log)
  have haccepted :
      b.subscriptions.map (·.accepted beats') = b.subscriptions.map (·.accepted beats) :=
    List.map_congr_left fun s _ => (s.counts_perm hperm).1
  have hrefused : b.subscriptions.map (·.refused beats') = b.subscriptions.map (·.refused beats) :=
    List.map_congr_left fun s _ => (s.counts_perm hperm).2
  have hc : c = _ := publishAll_eq hs beats
  have hc' : c' = _ := publishAll_eq hs beats'
  rw [haccepted, hrefused, hperm.length_eq] at hc'
  have hroster : c'.roster = c.roster := by rw [hc, hc']
  have hcounters : c.SameCounters c' := ⟨by rw [hc, hc'], by rw [hc, hc'], by rw [hc, hc']⟩
  refine ⟨?_, hroster, hkeys, hlength⟩
  rw [totals, totals, hcount, htotal, hroster, hcounters.published, hcounters.delivered,
    hcounters.dropped]

/-- The archive depends only on the order in which the beats of each agent are published. -/
theorem archive_publishAll_sameOrder (h : b.archive.Keeps log) (hsame : SameOrder beats beats') :
    (b.applyAll (beats'.map .publish)).archive = (b.applyAll (beats.map .publish)).archive := by
  have hlogs : SameOrder (log ++ beats) (log ++ beats') := fun agent => by
    rw [beatsOf_append_list, beatsOf_append_list, hsame agent]
  exact (keeps_publishAll h beats').unique ((keeps_publishAll h beats).sameOrder hlogs)
    ((capacity_applyAll ..).trans (capacity_applyAll ..).symm)

end Bus

namespace Hub

open Bus (Operation)

variable {h : Hub} {n : Nat} {b : Bus} {events : List (String × Beat)}

/-- Publish beats one after the other, each through a handle of its own. -/
def publishing (events : List (String × Beat)) : List Action :=
  events.map fun e => .publish e.1 e.2

/-- Whether the handles through which beats are published all belong to one bus. -/
def AllOn (n : Nat) (h : Hub) (events : List (String × Beat)) : Prop :=
  ∀ e ∈ events, h.handles.find? e.1 = some n

instance (n : Nat) (h : Hub) (events : List (String × Beat)) : Decidable (AllOn n h events) :=
  inferInstanceAs (Decidable (∀ e ∈ events, _))

/-- Publishing reaches its bus and moves no name. -/
theorem after_publishing (hs : h.Sound) (hon : AllOn n h events) (hb : h.buses[n]? = some b) :
    (h.after (publishing events)).buses[n]?
      = some (b.applyAll ((events.map (·.2)).map Operation.publish)) ∧
    (h.after (publishing events)).readers = h.readers := by
  induction events generalizing h b with
  | nil => exact ⟨hb, rfl⟩
  | cons e events ih =>
    have hfind := hon e List.mem_cons_self
    have hops : operations n h (.publish e.1 e.2) = [.publish e.2] := if_pos hfind
    have hhandles := (handles_next hs (a := .publish e.1 e.2) rfl).1
    have hbus := buses_next hs (.publish e.1 e.2) hb
    rw [hops] at hbus
    have hon' : AllOn n (h.next (.publish e.1 e.2)) events := fun e' he' => by
      rw [hhandles]
      exact hon e' (List.mem_cons_of_mem _ he')
    obtain ⟨hlast, hreaders⟩ := ih (hs.next _) hon' hbus
    exact ⟨hlast, hreaders.trans (readers_next_eq hs rfl)⟩

/-- What publishing makes of a subscription. -/
theorem subscription?_publishing (hs : h.Sound) (hon : AllOn n h events)
    (hb : h.buses[n]? = some b) {name : String} {r : Reader} {s : Subscription}
    (hsub : h.subscription name = .ok (r, s)) (hr : r.id.bus = n) :
    (h.after (publishing events)).subscription name = .ok (r, s.receive (events.map (·.2))) := by
  obtain ⟨hreader, hfind⟩ := reader_of_subscription hsub
  obtain ⟨hlast, hreaders⟩ := after_publishing hs hon hb
  rw [subscription?_of_bus hr hb] at hfind
  refine subscription_of_reader (hreaders ▸ hreader) ?_
  rw [subscription?_of_bus hr hlast, Bus.subscription?_applyAll (hs.buses n b hb) _ hfind,
    Subscription.reactAll_publish]

/-- Publishing the beats of `events` with nothing in between fills each open mailbox up to its
capacity. In any other order, and through other handles of the bus, it leads to the same totals,
the same subscribers, the same keys and the same lengths of histories and mailboxes; and if the
beats of each agent stay in turn, to the same histories and the same mailboxes of all who follow one
agent. So it is for producers with agents of their own. -/
theorem publishing_order {run : List Action} (hb : (after {} run).buses[n]? = some b)
    (hon : AllOn n (after {} run) events) :
    let reached (events : List (String × Beat)) := (after {} run).after (publishing events)
    let beats := events.map (·.2)
    (∀ name r s, (after {} run).subscription name = .ok (r, s) → r.id.bus = n →
      s.mailbox.isClosed = false →
      let matching := beats.filter fun beat => follows s.key beat.agent
      let accepted := min (s.mailbox.capacity - s.mailbox.waiting.length) matching.length
      ∃ s', (reached events).subscription name = .ok (r, s') ∧
        s'.mailbox.waiting = s.mailbox.waiting ++ matching.take accepted ∧
        s'.mailbox.dropped = s.mailbox.dropped + .ofNat (matching.length - accepted)) ∧
    (∀ events', AllOn n (after {} run) events' → (events'.map (·.2)).Perm beats →
      ∃ c c', (reached events).buses[n]? = some c ∧ (reached events').buses[n]? = some c' ∧
        c'.totals = c.totals ∧
        (∀ key, c'.subscriberCount key = c.subscriberCount key) ∧
        c'.archive.keys = c.archive.keys ∧
        (∀ key, (c'.archive.history key).length = (c.archive.history key).length) ∧
        (∀ name r s, (after {} run).subscription name = .ok (r, s) → r.id.bus = n →
          ∃ t t', (reached events).subscription name = .ok (r, t) ∧
            (reached events').subscription name = .ok (r, t') ∧
            t'.mailbox.dropped = t.mailbox.dropped ∧
            t'.mailbox.waiting.length = t.mailbox.waiting.length ∧
            (SameOrder beats (events'.map (·.2)) → s.key ≠ everyAgent →
              t'.mailbox.waiting = t.mailbox.waiting)) ∧
        (SameOrder beats (events'.map (·.2)) →
          (∀ key, c'.archive.history key = c.archive.history key) ∧
          (∀ key count, c'.archive.recent key count = c.archive.recent key count) ∧
          ∀ key, c'.archive.latest? key = c.archive.latest? key)) ∧
    ∀ producers, OwnAgents producers → Interleaving producers beats →
      ∀ beats', Interleaving producers beats' → beats'.Perm beats ∧ SameOrder beats beats' := by
  intro reached beats
  have hs := sound_empty.after run
  have hbus := hs.buses n b hb
  refine ⟨fun name r s hsub hr hopen => ?_, fun events' hon' hperm => ?_,
    fun producers hown h beats' h' => ⟨h'.perm.trans h.perm.symm, h.sameOrder h' hown⟩⟩
  · refine ⟨_, subscription?_publishing hs hon hb hsub hr, ?_⟩
    rw [Subscription.receive_of_open hopen, Subscription.onMailbox_mailbox, Mailbox.offerAll_eq]
    have hlost : ∀ room m : Nat, m - room = m - min room m := fun room m => by omega
    exact ⟨congrArg (_ ++ ·) List.take_eq_take_min,
      congrArg (s.mailbox.dropped + .ofNat ·) (hlost _ _)⟩
  · have hkeeps := (keeps_published hb).1
    obtain ⟨htotals, hroster, hkeys, hlength⟩ := Bus.publishAll_perm hbus hkeeps hperm
    refine ⟨_, _, (after_publishing hs hon hb).1, (after_publishing hs hon' hb).1, htotals,
      fun key => congrArg (Roster.count · key) hroster, hkeys, hlength,
      fun name r s hsub hr => ?_, fun hsame => ?_⟩
    · obtain ⟨hdropped, hwaiting⟩ := s.receive_perm hperm
      exact ⟨_, _, subscription?_publishing hs hon hb hsub hr,
        subscription?_publishing hs hon' hb hsub hr, hdropped, hwaiting,
        fun hsame hkey => by rw [Subscription.receive_sameOrder hkey hsame]⟩
    · rw [Bus.archive_publishAll_sameOrder hkeeps hsame]
      exact ⟨fun _ => rfl, fun _ _ => rfl, fun _ => rfl⟩

/-- Two producers on two handles: whichever comes first, the one mailbox for all agents takes one
beat and loses the others, and a mailbox for one agent has the same beat in it. -/
theorem publishing_order_two_producers :
    let run : List Action := [.create "bus" ⟨2, 1⟩, .clone "bus" "copy",
      .subscribe "bus" "all" "*", .subscribe "bus" "one" "a"]
    let first : Beat := { agent := "a", status := "idle" }
    let second : Beat := { agent := "a", status := "waiting" }
    let other : Beat := { agent := "b", status := "idle" }
    let events := [("bus", first), ("bus", second), ("copy", other)]
    let events' := [("copy", other), ("bus", first), ("bus", second)]
    AllOn 0 (after {} run) events ∧ AllOn 0 (after {} run) events' ∧
    (∃ r s, ((after {} run).after (publishing events)).subscription "all" = .ok (r, s) ∧
      s.mailbox.waiting = [first] ∧ s.mailbox.dropped = 2) ∧
    (∃ r s s', ((after {} run).after (publishing events)).subscription "one" = .ok (r, s) ∧
      ((after {} run).after (publishing events')).subscription "one" = .ok (r, s') ∧
      s'.mailbox.waiting = s.mailbox.waiting) := by
  intro run first second other events events'
  have hs := sound_empty.after run
  have hon : AllOn 0 (after {} run) events := by decide +kernel
  have hon' : AllOn 0 (after {} run) events' := by decide +kernel
  obtain ⟨b, hb⟩ : ∃ b, (after {} run).buses[0]? = some b := ⟨_, rfl⟩
  obtain ⟨hfill, horder, hproducers⟩ := publishing_order hb hon
  have hall : (after {} run).subscription "all"
      = .ok ({ id := ⟨0, 0⟩ }, ⟨⟨0, 0⟩, "*", { capacity := 1 }⟩) := rfl
  have hone : (after {} run).subscription "one"
      = .ok ({ id := ⟨0, 1⟩ }, ⟨⟨0, 1⟩, "a", { capacity := 1 }⟩) := rfl
  -- One producer has two beats of its agent, the other has one of another agent.
  have hfirst : Interleaving [[first, second], [other]] (events.map (·.2)) :=
    .next [] (.next [] (.next [[]] (.done (by simp))))
  have hsecond : Interleaving [[first, second], [other]] (events'.map (·.2)) :=
    .next [_] (.next [] (.next [] (.done (by simp))))
  obtain ⟨hperm, hsame⟩ := hproducers _ (by simp [OwnAgents, first, second, other]) hfirst _ hsecond
  obtain ⟨c, c', -, -, -, -, -, -, hreaders, -⟩ := horder events' hon' hperm
  obtain ⟨s, hs, hwaiting, hdropped⟩ := hfill _ _ _ hall rfl rfl
  obtain ⟨t, t', ht, ht', -, -, hcontent⟩ := hreaders _ _ _ hone rfl
  exact ⟨hon, hon', ⟨_, s, hs, hwaiting, hdropped⟩, ⟨_, t, t', ht, ht', hcontent hsame (by decide)⟩⟩

end Hub

end AgentPulse
