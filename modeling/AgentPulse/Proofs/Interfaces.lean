import AgentPulse.Proofs.Hub.Bare
import AgentPulse.Proofs.Hub.Owner
import AgentPulse.Proofs.Hub.Queue

/-!
# All ways to read are one queue

A reader may try for a beat, look once for the next, wait for it, or make a stream of its
subscription and look at that; it may change from one way to another at any time. Each way hands out
the oldest beat that waits and says in its own words if there is none. Main statement:
`ways_to_read_alike`. Runs that differ in the ways of reading only cannot be told apart, and nothing
that waits is lost, repeated or put out of order by a look that finds nothing or by a change of the
way.
-/

namespace AgentPulse.Hub

open Bus (Operation)

/-- Whether an action is to read, in some way, or to make a stream. -/
def Action.onlyReads : Action → Bool
  | .read .. | .drain _ | .stream _ => true
  | _ => false

section

variable {h : Hub} {name : String} {r : Reader} {s : Subscription} {run : List Action}

/-- Reading discards nobody. -/
theorem reader_next_of_onlyReads (hs : h.Sound) (hr : h.readers.find? name = some r) {a : Action}
    (ha : a.onlyReads = true) : ∃ r', (h.next a).readers.find? name = some r' ∧ r'.id = r.id := by
  refine reader_stays hs hr fun hop => ?_
  cases a with
  | read | drain | stream => cases cause_of_mem hop
  | _ => cases ha

theorem reader_after_of_onlyReads (hs : h.Sound) (hr : h.readers.find? name = some r)
    (hrun : ∀ a ∈ run, a.onlyReads = true) :
    ∃ r', (h.after run).readers.find? name = some r' ∧ r'.id = r.id := by
  induction run generalizing h r with
  | nil => exact ⟨r, hr, rfl⟩
  | cons a run ih =>
    obtain ⟨t, ht, htid⟩ := reader_next_of_onlyReads hs hr (hrun a List.mem_cons_self)
    obtain ⟨r', hr', hid⟩ := ih (hs.next a) ht fun b hb => hrun b (List.mem_cons_of_mem _ hb)
    exact ⟨r', hr', hid.trans htid⟩

/-- Reading offers nothing to any queue. -/
theorem told_of_onlyReads (key : String) (id : SubscriptionId) (h : Hub)
    (hrun : ∀ a ∈ run, a.onlyReads = true) :
    (along (told key id) h run).filterMap Fifo.Input.beat? = [] := by
  induction run generalizing h with
  | nil => rfl
  | cons a run ih =>
    have hhead : (told key id h a).filterMap Fifo.Input.beat? = [] := by
      have ha := hrun a List.mem_cons_self
      cases a with
      | read other reading => rw [told]; split <;> rfl
      | drain other => rw [told]; split <;> simp [Fifo.Input.beat?]
      | stream other => rfl
      | _ => cases ha
    rw [along_cons, List.filterMap_append, hhead]
    exact ih _ fun b hb => hrun b (List.mem_cons_of_mem _ hb)

/-- As long as there is nothing but reading, what was handed out and what waits is what waited. -/
theorem taken_append_waiting (hs : h.Sound) (hsub : h.subscription name = .ok (r, s))
    (hrun : ∀ a ∈ run, a.onlyReads = true) :
    ∃ r' s', (h.after run).subscription name = .ok (r', s') ∧ r'.id = r.id ∧ s'.key = s.key ∧
      along (taken r.id) h run ++ s'.mailbox.waiting = s.mailbox.waiting ∧
      s'.mailbox.dropped = s.mailbox.dropped := by
  obtain ⟨hr, hfind⟩ := reader_of_subscription hsub
  obtain ⟨r', hr', hid⟩ := reader_after_of_onlyReads hs hr hrun
  obtain ⟨s', hfind'⟩ := Option.isSome_iff_exists.mp ((hs.after run).readers name r' hr')
  obtain ⟨hqueue, hlost⟩ := (Fifo.ofMailbox s.mailbox).feedAll_of_no_offer
    (told_of_onlyReads s.key r.id h hrun)
  obtain ⟨htaken, hafter⟩ := matches_after hs hfind rfl (Fifo.ofMailbox_matches s) run
  obtain ⟨hkey, hmatches⟩ := hafter s' (hid ▸ hfind')
  refine ⟨r', s', subscription_of_reader hr' hfind', hid, hkey, ?_, ?_⟩
  · rw [htaken, ← hmatches.waiting] at hqueue
    exact hqueue
  · rw [hmatches.dropped, hlost]
    exact UInt64.ofNat_toNat

end

/-- In every hub that a run leads to: all ways to read a subscription come to what is found in its
mailbox, each says so by its own answer and all lead to the same hub, which is the hub as it was
unless there is a beat. To make a stream of the subscription changes nothing but the way to read it.
As long as readers do nothing but read, in any ways, what they were handed and what still waits is
what waited before.

Two runs that go on from there and differ only in the ways of reading and in where streams are made
show the same at every step, hand the same beats to each reader and lead to the same hub, apart from
which subscriptions are streams. -/
theorem ways_to_read_alike (first : List Action) :
    let h := after {} first
    (∀ name r s, h.subscription name = .ok (r, s) →
      ((sightOf s.mailbox).beat?.toList = s.mailbox.waiting.take 1 ∧
        (∀ reading, reading.sight? (h.answer (.read name reading)) = some (sightOf s.mailbox) ∧
          h.answer (.read name reading) = reading.tells (sightOf s.mailbox)) ∧
        (∀ reading other, h.next (.read name reading) = h.next (.read name other)) ∧
        ((sightOf s.mailbox).beat? = none → ∀ reading, h.next (.read name reading) = h)) ∧
      (h.answer (.stream name) = .ok .done ∧ (h.next (.stream name)).bare = h.bare ∧
        (h.next (.stream name)).subscription name = .ok ({ r with isStream := true }, s)) ∧
      ∀ run : List Action, (∀ a ∈ run, a.onlyReads = true) →
        ∃ r' s', (h.after run).subscription name = .ok (r', s') ∧ r'.id = r.id ∧ s'.key = s.key ∧
          along (taken r.id) h run ++ s'.mailbox.waiting = s.mailbox.waiting ∧
          s'.mailbox.dropped = s.mailbox.dropped) ∧
    ∀ run other : List Action, run.filterMap Action.gist = other.filterMap Action.gist →
      along seen h run = along seen h other ∧ (h.after run).bare = (h.after other).bare ∧
      ∀ id, along (taken id) h run = along (taken id) h other ∧
        (h.after run).subscription? id = (h.after other).subscription? id := by
  intro h
  have hs : h.Sound := sound_empty.after first
  refine ⟨fun name r s hsub => ⟨?_, ?_, fun run => taken_append_waiting hs hsub⟩,
    fun run other hgist => ?_⟩
  · refine ⟨beat?_sightOf _, fun reading => ?_, next_read_eq hs name,
      next_read_of_no_beat hs hsub⟩
    rw [answer_eq_tells hsub, Reading.sight?_tells]
    exact ⟨rfl, rfl⟩
  · obtain ⟨hr, hfind⟩ := reader_of_subscription hsub
    refine ⟨?_, bare_next_stream h name, ?_⟩
    · simp only [answer, step, reader, hr]
      rfl
    · rw [next_stream hr]
      exact subscription_of_reader (Dict.find?_insert .. |>.trans (if_pos rfl)) hfind
  · have hbare : (h.after run).bare = (h.after other).bare := by
      rw [bare_after hs, bare_after hs, hgist]
    refine ⟨?_, hbare, fun id => ⟨?_, ?_⟩⟩
    · rw [isBlind_seen.along hs, isBlind_seen.along hs, hgist]
    · rw [(isBlind_taken id).along hs, (isBlind_taken id).along hs, hgist]
    · exact congrArg (·.subscription? id) hbare

/-- A reader that tries, waits and looks in vain, and one that makes a stream after the first beat
and looks in vain on the way. -/
theorem ways_to_read_alike_stream_halfway :
    let first : List Action := [.create "bus" ⟨1, 2⟩, .subscribe "bus" "reader" "*",
      .publish "bus" { agent := "a", status := "idle" },
      .publish "bus" { agent := "a", status := "waiting" }]
    let run : List Action := [.read "reader" .attempt, .read "reader" .wait, .read "reader" .poll]
    let other : List Action := [.read "reader" .poll, .stream "reader", .read "reader" .poll,
      .read "reader" .poll]
    let h := after {} first
    (∃ s, h.subscription "reader" = .ok (⟨⟨0, 0⟩, false⟩, s) ∧
      along (taken ⟨0, 0⟩) h run = s.mailbox.waiting) ∧
    run.filterMap Action.gist = other.filterMap Action.gist ∧
    along seen h run = along seen h other ∧ (h.after run).bare = (h.after other).bare ∧
    (along (taken ⟨0, 0⟩) h other).map (·.status) = ["idle", "waiting"] ∧
    (h.after run).next (.read "reader" .attempt) = h.after run := by
  intro first run other h
  obtain ⟨hreader, hruns⟩ := ways_to_read_alike first
  have hgist : run.filterMap Action.gist = other.filterMap Action.gist := rfl
  obtain ⟨hseen, hbare, htaken⟩ := hruns run other hgist
  have hlength : (h.subscription? ⟨0, 0⟩).map (·.mailbox.waiting.length) = some 2 := by
    decide +kernel
  obtain ⟨s, hfind, htwo⟩ := Option.map_eq_some_iff.mp hlength
  have hsub := subscription_of_reader (r := ⟨⟨0, 0⟩, false⟩)
    (by decide +kernel : h.readers.find? "reader" = some ⟨⟨0, 0⟩, false⟩) hfind
  obtain ⟨-, -, hall⟩ := hreader "reader" _ s hsub
  obtain ⟨r', s', hsub', -, -, hwaiting, -⟩ := hall run (by decide)
  have hstatus : (along (taken ⟨0, 0⟩) h run).map (·.status) = ["idle", "waiting"] := by
    decide +kernel
  have hempty : s'.mailbox.waiting = [] := by
    have hsum := congrArg List.length hwaiting
    rw [List.length_append, htwo, ← List.length_map (·.status), hstatus] at hsum
    exact List.length_eq_zero_iff.mp (by simpa using hsum)
  refine ⟨⟨s, hsub, ?_⟩, hgist, hseen, hbare, ?_, ?_⟩
  · rw [← hwaiting, hempty, List.append_nil]
  · rw [← (htaken _).1, hstatus]
  · -- The hub that reading has led to is one that a run leads to as well.
    obtain ⟨hthere, -⟩ := ways_to_read_alike (first ++ run)
    rw [after_append] at hthere
    obtain ⟨⟨hbeat, -, -, hsame⟩, -⟩ := hthere "reader" r' s' hsub'
    rw [hempty] at hbeat
    exact hsame (by simpa using hbeat) .attempt

end AgentPulse.Hub
