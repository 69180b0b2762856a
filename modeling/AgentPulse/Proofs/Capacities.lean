import AgentPulse.Proofs.Hub.Queue
import AgentPulse.Proofs.PublishLog
import AgentPulse.Proofs.Text.Numeral

/-!
# Limits that are checked once and hold from then on

The limits of a bus come from two variables of the environment, each read on its own
(`isSetting_word?`), and are checked when the bus is made and never again. What stands behind them
does not take every number: a mailbox of no size or of one beyond `maxQueue` cannot be made at all
(`Mailbox.ofCapacity?`), and an archive of no depth gets one of one beat. A checked bus meets
neither (`Bus.subscribe?_of_check`, `Hub.keeps_published`), at no moment of any run, and a mailbox
from which nothing is taken has room for exactly as many beats as its limit says
(`Hub.mailbox_of_none_taken`).
-/

namespace AgentPulse

/-! ## Limits from the environment -/

namespace Limits

/-- Whether a number is the one that a variable sets: the number that its value is the numeral of,
if there is one below `2 ^ 64`, and the default otherwise. -/
structure IsSetting (value : Option Bytes) (default n : Nat) : Prop where
  given : ∀ bytes m, value = some bytes → Text.Decimal.IsNumeral bytes m → m < 2 ^ 64 → n = m
  otherwise : (∀ bytes m, value = some bytes → Text.Decimal.IsNumeral bytes m → 2 ^ 64 ≤ m) →
    n = default

theorem isSetting_word? (env : Environment) (name : String) (default : Nat) :
    IsSetting (env.values.find? name) default ((env.word? name).getD default) := by
  have hword : ∀ m, env.word? name = some m ↔
      ∃ bytes, env.values.find? name = some bytes ∧ Text.Decimal.IsNumeral bytes m ∧
        m < 2 ^ 64 := by
    intro m
    rw [Environment.word?, Environment.text?, Option.bind_assoc, Option.bind_eq_some_iff]
    exact exists_congr fun bytes => and_congr_right fun _ => Text.Decimal.number?_eq_some
  refine ⟨fun bytes m hvalue hnumeral hlt => ?_, fun hnone => ?_⟩
  · rw [(hword m).mpr ⟨bytes, hvalue, hnumeral, hlt⟩, Option.getD_some]
  · cases hm : env.word? name with
    | none => rfl
    | some m =>
      obtain ⟨bytes, hvalue, hnumeral, hlt⟩ := (hword m).mp hm
      exact absurd hlt (Nat.not_lt.mpr (hnone bytes m hvalue hnumeral))

/-! ## The check -/

variable {limits : Limits}

theorem check_eq_ok_iff :
    limits.check = .ok () ↔ 1 ≤ limits.history ∧ 1 ≤ limits.queue ∧ limits.queue ≤ maxQueue := by
  unfold check
  split_ifs <;> simp <;> omega

/-- The flaws in the order in which they are looked for. -/
theorem check_eq_error_iff :
    (limits.check = .error .zeroHistory ↔ limits.history = 0) ∧
    (limits.check = .error .zeroQueue ↔ 1 ≤ limits.history ∧ limits.queue = 0) ∧
    ∀ queue, limits.check = .error (.queueTooLarge queue)
      ↔ 1 ≤ limits.history ∧ maxQueue < limits.queue ∧ queue = limits.queue := by
  unfold check
  refine ⟨?_, ?_, fun queue => ?_⟩ <;> split_ifs <;> simp <;> omega

end Limits

namespace Bus

variable {limits : Limits}

theorem create_of_ok (id : Nat) (hc : limits.check = .ok ()) :
    create id limits = .ok (ofLimits id limits) := by
  simp only [create, hc]
  rfl

theorem create_eq_error_iff (id : Nat) (flaw : Limits.Flaw) :
    create id limits = .error flaw ↔ limits.check = .error flaw := by
  cases hc : limits.check with
  | error other => simp [create, hc, bind, Except.bind]
  | ok _ => simp [create_of_ok id hc]

theorem create_eq_ok_iff (id : Nat) :
    (∃ b, create id limits = .ok b) ↔ limits.check = .ok () := by
  cases hc : limits.check with
  | error flaw => simp [(create_eq_error_iff id flaw).mpr hc]
  | ok _ => simp [create_of_ok id hc]

end Bus

/-! ## Making a mailbox -/

/-- An empty mailbox, if there can be one of the size. -/
def Mailbox.ofCapacity? (capacity : Nat) : Option Mailbox :=
  if 1 ≤ capacity ∧ capacity ≤ Limits.maxQueue then some { capacity } else none

/-- Make a subscription under a key, if there can be a mailbox for it. -/
def Bus.subscribe? (b : Bus) (key : String) : Option (Bus × SubscriptionId × List Notice) :=
  (Mailbox.ofCapacity? b.limits.queue).map (b.enroll key)

/-- On a bus of checked limits there is a mailbox for every subscription. -/
theorem Bus.subscribe?_of_check {b : Bus} (hc : b.limits.check = .ok ()) (key : String) :
    b.subscribe? key = some (b.subscribe key) := by
  rw [subscribe?, Mailbox.ofCapacity?, if_pos (Limits.check_eq_ok_iff.mp hc).2]
  rfl

/-! ## A mailbox from which nothing is taken -/

namespace Hub

open Bus (Operation)

variable {h : Hub} {id : SubscriptionId} {s : Subscription}

/-- A new mailbox from which nothing is taken fills up with the first beats that it is offered and
loses all others. -/
theorem mailbox_of_none_taken (hs : h.Sound) {key : String} {capacity : Nat}
    (hsub : h.subscription? id = some ⟨id, key, { capacity }⟩) {rest : List Action}
    (hnone : along (taken id) h rest = []) (hsub' : (h.after rest).subscription? id = some s) :
    let offers := (along (told key id) h rest).filterMap Fifo.Input.beat?
    s.mailbox.waiting = offers.take capacity ∧
    s.mailbox.dropped = .ofNat (offers.length - capacity) ∧
    (s.mailbox.isClosed = false →
      offers = (along (published id.bus) h rest).filter fun beat => follows key beat.agent) := by
  intro offers
  have hempty : Fifo.Matches { capacity } ⟨id, key, { capacity }⟩ := ⟨rfl, rfl, rfl⟩
  obtain ⟨htaken, hafter⟩ := matches_after hs hsub rfl hempty rest
  obtain ⟨-, hmatches⟩ := hafter s hsub'
  -- What went out of the queue was handed to the reader, so nothing went out.
  rw [hnone, List.append_nil] at htaken
  have hfull := Fifo.feedAll_of_nothing_taken _ htaken
  have hwaiting := hmatches.waiting
  have hdropped := hmatches.dropped
  rw [hfull] at hwaiting hdropped
  refine ⟨?_, ?_, fun hopen => (told_of_open_after hs hsub rfl hsub' hopen).2⟩
  · rw [hwaiting]
    exact List.nil_append _
  · rw [hdropped]
    exact congrArg UInt64.ofNat (Nat.zero_add _)

/-- The bus that a step of a run makes, after all further steps. -/
theorem bus_after_create (first more : List Action) (handle : String) {limits : Limits}
    (hc : limits.check = .ok ()) :
    ∃ b, (after {} (first ++ .create handle limits :: more)).buses[(after {} first).buses.length]?
        = some b ∧ b.limits = limits := by
  have hs := sound_empty.after first
  have hafter := buses_after (hs.next _) (hs.bus_next_create handle hc) more
  rw [← after_cons, ← after_append] at hafter
  exact ⟨_, hafter, (Bus.applyAll_frame _ _).2⟩

theorem answer_subscribe (hs : h.Sound) {handle : String} {n : Nat}
    (hfind : h.handles.find? handle = some n) (name key : String) :
    ∃ count, h.answer (.subscribe handle name key) = .ok (.count count) := by
  obtain ⟨b, -, hbus⟩ := hs.bus_of_handle hfind
  obtain ⟨count, hstep⟩ := step_subscribe hs hbus name key
  exact ⟨count, by rw [answer, hstep]; rfl⟩

/-- From the environment to a bus whose limits hold.

Each of the two limits is what its own variable sets. Limits make a bus if both are at least one and
the size of a mailbox is at most `2 ^ 61 - 1`, and are refused otherwise for the first reason.

The bus that limits made in a run has, after whatever other steps, still these limits. It keeps as
many beats for an agent as its history says. Through any of its handles anybody can subscribe at any
time: a mailbox can be made, and the new one takes, as long as its reader is handed nothing, as many
beats as the limit says before it drops one. As long as the subscription is open, every matching
beat that is published on the bus is offered to it. -/
theorem limits_checked_once_hold :
    (∀ env : Environment,
      Limits.IsSetting (env.values.find? "HEARTBEAT_HISTORY_CAPACITY") 100
        (Limits.ofEnvironment env).history ∧
      Limits.IsSetting (env.values.find? "HEARTBEAT_QUEUE_CAPACITY") 10
        (Limits.ofEnvironment env).queue) ∧
    (∀ number limits,
      ((∃ b, Bus.create number limits = .ok b)
        ↔ 1 ≤ limits.history ∧ 1 ≤ limits.queue ∧ limits.queue ≤ 2 ^ 61 - 1) ∧
      (Bus.create number limits = .error .zeroHistory ↔ limits.history = 0) ∧
      (Bus.create number limits = .error .zeroQueue ↔ 1 ≤ limits.history ∧ limits.queue = 0) ∧
      ∀ queue, Bus.create number limits = .error (.queueTooLarge queue)
        ↔ 1 ≤ limits.history ∧ 2 ^ 61 - 1 < limits.queue ∧ queue = limits.queue) ∧
    ∀ (first : List Action) (handle : String) (limits : Limits) (more : List Action),
      let n := (after {} first).buses.length
      (∃ b, Bus.create n limits = .ok b) →
      let run := first ++ .create handle limits :: more
      let h := after {} run
      ∃ b, h.buses[n]? = some b ∧ b.limits = limits ∧ b.archive.capacity = limits.history ∧
        (∀ agent, (b.archive.history agent).length
          = min limits.history (beatsOf agent (along (published n) {} run)).length) ∧
        (∀ key, b.subscribe? key = some (b.subscribe key)) ∧
        ∀ other name key, h.handles.find? other = some n →
          (∃ count, h.answer (.subscribe other name key) = .ok (.count count)) ∧
          let start := h.next (.subscribe other name key)
          start.readers.find? name = some { id := b.nextId } ∧
          ∀ rest, along (taken b.nextId) start rest = [] →
            ∀ owner r s, (start.after rest).subscription owner = .ok (r, s) → r.id = b.nextId →
              let offers := (along (told key b.nextId) start rest).filterMap Fifo.Input.beat?
              s.mailbox.waiting = offers.take limits.queue ∧
              s.mailbox.dropped = .ofNat (offers.length - limits.queue) ∧
              (s.mailbox.isClosed = false → offers
                = (along (published n) start rest).filter fun beat => follows key beat.agent) := by
  refine ⟨fun env => ⟨Limits.isSetting_word? env _ _, Limits.isSetting_word? env _ _⟩,
    fun number limits => ?_, ?_⟩
  · simp only [Bus.create_eq_ok_iff, Bus.create_eq_error_iff]
    exact ⟨Limits.check_eq_ok_iff, Limits.check_eq_error_iff⟩
  · intro first handle limits more n hmade run h
    have hcheck := (Bus.create_eq_ok_iff n).mp hmade
    have hs : h.Sound := sound_empty.after run
    obtain ⟨b, hb, hlimits⟩ := bus_after_create first more handle hcheck
    obtain ⟨hkeeps, hcapacity⟩ := keeps_published hb
    rw [hlimits] at hcapacity
    refine ⟨b, hb, hlimits, hcapacity, fun agent => ?_,
      Bus.subscribe?_of_check (hlimits ▸ hcheck), fun other name key hfind =>
        ⟨answer_subscribe hs hfind name key, ?_, fun rest hnone owner r s hsub hr => ?_⟩⟩
    · rw [hkeeps.history_eq, hcapacity, Archive.length_lastOf]
    · rw [next_subscribe hs (bus_of_some hfind hb), Dict.find?_insert, if_pos rfl]
    · have hnew := subscription?_next_subscribe hs hfind hb name key
      obtain ⟨-, hsub'⟩ := reader_of_subscription hsub
      rw [hlimits] at hnew
      rw [hr] at hsub'
      have hnumber : b.nextId.bus = n := hs.numbered n b hb
      have hall := mailbox_of_none_taken (hs.next _) hnew hnone hsub'
      rw [hnumber] at hall
      exact hall

/-- A bus with the larger history and the smallest mailboxes: the second of two beats is lost for a
reader that is handed none, and both are kept. -/
theorem limits_checked_once_hold_smallest_mailbox :
    let first : List Action := [.create "other" {}]
    let more : List Action := [.release "other", .clone "bus" "copy"]
    let rest : List Action := [.publish "bus" { agent := "a", status := "idle" },
      .read "nobody" .attempt, .publish "copy" { agent := "a", status := "waiting" }]
    let h := after {} (first ++ .create "bus" ⟨2, 1⟩ :: more)
    let start := h.next (.subscribe "copy" "slow" "*")
    (∃ b, Bus.create 1 ⟨2, 1⟩ = .ok b) ∧ h.handles.find? "copy" = some 1 ∧
    along (taken ⟨1, 0⟩) start rest = [] ∧
    ∃ r s, (start.after rest).subscription "slow" = .ok (r, s) ∧ r.id = ⟨1, 0⟩ ∧
      s.mailbox.waiting.map (·.status) = ["idle"] ∧ s.mailbox.dropped = 1 := by
  intro first more rest h start
  obtain ⟨-, hcheck, hall⟩ := limits_checked_once_hold
  have hmade : ∃ b, Bus.create 1 ⟨2, 1⟩ = .ok b := (hcheck 1 ⟨2, 1⟩).1.mpr (by decide)
  obtain ⟨b, hb, -, -, -, -, hsubscribe⟩ := hall first "bus" ⟨2, 1⟩ more hmade
  have hid : (h.buses[1]?).map Bus.nextId = some ⟨1, 0⟩ := by decide +kernel
  have hb' : h.buses[1]? = some b := hb
  rw [hb', Option.map_some, Option.some.injEq] at hid
  have hfind : h.handles.find? "copy" = some 1 := by decide +kernel
  obtain ⟨-, -, htaken⟩ := hsubscribe "copy" "slow" "*" hfind
  rw [hid] at htaken
  have hnone : along (taken ⟨1, 0⟩) start rest = [] := by decide +kernel
  obtain ⟨r, s, hsub, hr⟩ : ∃ r s, (start.after rest).subscription "slow" = .ok (r, s)
      ∧ r.id = ⟨1, 0⟩ := ⟨_, _, rfl, rfl⟩
  obtain ⟨hwaiting, hdropped, -⟩ := htaken rest hnone "slow" r s hsub hr
  refine ⟨hmade, hfind, hnone, r, s, hsub, hr, ?_, ?_⟩
  · rw [hwaiting]
    decide +kernel
  · rw [hdropped]
    decide +kernel

end Hub

end AgentPulse
