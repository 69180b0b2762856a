import AgentPulse.Proofs.Hub.Account
import AgentPulse.Proofs.Hub.Owner

/-!
# Deliveries and drops are conserved

Three accounts are kept of what becomes of published beats: each publish returns how its beat
fared, the bus adds up how all of them did, and every subscription has what came to it and counts
what it lost. The three agree after every run (`deliveries_conserved`): the totals of a bus are the
sums of what its publishes returned (`Counted`) and the sums over all subscriptions that were ever
made on it (`Balanced`).
-/

namespace AgentPulse

/-- A sum of wrapping counters that each take something more. -/
theorem ofNat_sum_toNat_add (l : Finset Nat) (counter : Nat → UInt64) (more : Nat → Nat) :
    UInt64.ofNat (∑ i ∈ l, (counter i + .ofNat (more i)).toNat)
      = .ofNat (∑ i ∈ l, (counter i).toNat) + .ofNat (∑ i ∈ l, more i) := by
  induction l using Finset.induction_on with
  | empty => rfl
  | insert i l hi ih =>
    simp only [Finset.sum_insert hi, UInt64.ofNat_add, UInt64.ofNat_toNat]
    rw [ih]
    ac_rfl

/-- Several deliveries taken together. -/
def Delivery.total (l : List Delivery) : Delivery := l.foldr (· + ·) {}

theorem Delivery.total_concat (l : List Delivery) (d : Delivery) :
    total (l ++ [d]) = total l + d := by
  induction l with
  | nil => simp [total, add_eq]
  | cons e l ih =>
    show e + total (l ++ [d]) = e + total l + d
    rw [ih]
    simp only [add_eq, Nat.add_assoc]

namespace Hub

open Bus (Operation)

variable {h : Hub} {n : Nat} {run : List Action} {a : Action} {b : Bus}

/-- The deliveries that a step returns for publishing on the bus of a number. -/
def deliveries (n : Nat) (h : Hub) (a : Action) : List Delivery :=
  match a with
  | .publish handle beat =>
    if h.handles.find? handle = some n then
      match h.answer (.publish handle beat) with
      | .ok (.delivery d) => [d]
      | _ => []
    else []
  | _ => []

/-- A step publishes one beat on a bus through a handle, or none. -/
theorem published_cases (n : Nat) (h : Hub) (a : Action) :
    (published n h a = [] ∧ deliveries n h a = []) ∨
    ∃ handle beat, a = .publish handle beat ∧ h.handles.find? handle = some n := by
  cases a with
  | publish handle beat =>
    by_cases hfind : h.handles.find? handle = some n
    · exact Or.inr ⟨handle, beat, rfl, hfind⟩
    · exact Or.inl ⟨if_neg hfind, if_neg hfind⟩
  | _ => exact Or.inl ⟨rfl, rfl⟩

theorem published_of_no_bus (h : Hub) (a : Action) (hs : h.Sound) (hn : h.buses.length ≤ n) :
    published n h a = [] ∧ deliveries n h a = [] := by
  rcases published_cases n h a with hnone | ⟨handle, beat, -, hfind⟩
  · exact hnone
  · exact absurd (hs.handles handle n hfind) (Nat.not_lt.mpr hn)

/-- A publish answers how the beat fared at its followers. -/
theorem answer_publish (hs : h.Sound) {handle : String} (hfind : h.handles.find? handle = some n)
    (hb : h.buses[n]? = some b) (beat : Beat) :
    h.answer (.publish handle beat) = .ok (.delivery (b.fanOut beat)) := by
  rw [answer, step_publish (bus_of_some hfind hb), ← (Bus.publish_eq (hs.buses n b hb) beat).2]
  rfl

theorem deliveries_publish (hs : h.Sound) {handle : String}
    (hfind : h.handles.find? handle = some n) (hb : h.buses[n]? = some b) (beat : Beat) :
    deliveries n h (.publish handle beat) = [b.fanOut beat] := by
  rw [deliveries, if_pos hfind, answer_publish hs hfind hb]

/-! ## What the publishes returned -/

/-- The totals of a bus are the sums of what its publishes returned. -/
structure Counted (n : Nat) (run : List Action) (b : Bus) : Prop where
  published : b.published = .ofNat (along (published n) {} run).length
  delivered : b.delivered = .ofNat (Delivery.total (along (deliveries n) {} run)).delivered
  dropped : b.dropped = .ofNat (Delivery.total (along (deliveries n) {} run)).dropped

theorem Counted.publish (hc : Counted n run b) (hb : (after {} run).buses[n]? = some b)
    {handle : String} (hfind : (after {} run).handles.find? handle = some n) (beat : Beat) :
    Counted n (run ++ [.publish handle beat]) (b.apply (.publish beat)) := by
  have hs := sound_empty.after run
  have hpublished : Hub.published n (after {} run) (.publish handle beat) = [beat] := if_pos hfind
  have htotal : Delivery.total (along (deliveries n) {} (run ++ [.publish handle beat]))
      = Delivery.total (along (deliveries n) {} run) + b.fanOut beat := by
    rw [along_concat, deliveries_publish hs hfind hb, Delivery.total_concat]
  have hbus := (Bus.publish_eq (hs.buses n b hb) beat).1
  refine ⟨?_, ?_, ?_⟩
  · rw [along_concat, hpublished, List.length_append, UInt64.ofNat_add, ← hc.published]
    rfl
  · rw [htotal, Delivery.add_eq, UInt64.ofNat_add, ← hc.delivered, Bus.apply, hbus]
  · rw [htotal, Delivery.add_eq, UInt64.ofNat_add, ← hc.dropped, Bus.apply, hbus]

theorem counted_after (hb : (after {} run).buses[n]? = some b) : Counted n run b := by
  refine bus_induction (P := Counted n) (fun run a limits hn _ _ => ?_)
    (fun run a b hb hc => ?_) hb
  · have hs := sound_empty.after run
    obtain ⟨hpublished, hdeliveries⟩ := published_of_no_bus (after {} run) a hs hn
    -- Before the bus was made nothing was published on it.
    have hbefore : along (published n) {} run = [] :=
      along_of_no_bus (fun h a hs hn => (published_of_no_bus h a hs hn).1) hn
    have hbefore' : along (deliveries n) {} run = [] :=
      along_of_no_bus (fun h a hs hn => (published_of_no_bus h a hs hn).2) hn
    refine ⟨?_, ?_, ?_⟩
    · rw [along_concat, hbefore, hpublished]; rfl
    · rw [along_concat, hbefore', hdeliveries]; rfl
    · rw [along_concat, hbefore', hdeliveries]; rfl
  · rcases published_cases n (after {} run) a with ⟨hnone, hnone'⟩ | ⟨handle, beat, rfl, hfind⟩
    · obtain ⟨published, delivered, dropped⟩ :=
        b.counters_applyAll ((published_eq n (after {} run) a).symm.trans hnone)
      refine ⟨?_, ?_, ?_⟩
      · rw [along_concat, hnone, List.append_nil, published, hc.published]
      · rw [along_concat, hnone', List.append_nil, delivered, hc.delivered]
      · rw [along_concat, hnone', List.append_nil, dropped, hc.dropped]
    · have hops : operations n (after {} run) (.publish handle beat) = [.publish beat] :=
        if_pos hfind
      rw [hops]
      exact hc.publish hb hfind beat

/-! ## What came to the subscriptions -/

/-- The totals of a bus are the sums over all subscriptions that were ever made on it. -/
structure Balanced (n : Nat) (run : List Action) (b : Bus) : Prop where
  delivered : b.delivered = .ofNat (∑ i ∈ Finset.range b.issued, came ⟨n, i⟩ run)
  dropped : b.dropped = .ofNat (∑ i ∈ Finset.range b.issued, (lost ⟨n, i⟩ run).toNat)
  /-- Those were all there at some time. -/
  seen : ∀ i < b.issued, (lastSeen ⟨n, i⟩ {} run).isSome
  /-- No others were. -/
  fresh : ∀ i, b.issued ≤ i → along (taken ⟨n, i⟩) {} run = [] ∧ lastSeen ⟨n, i⟩ {} run = none

theorem subscription?_of_no_bus (hn : h.buses.length ≤ n) (i : Nat) :
    h.subscription? ⟨n, i⟩ = none := by
  rw [subscription?, List.getElem?_eq_none hn, Option.bind_none]

/-- Identities that were not given away belong to nobody. -/
theorem subscription?_of_issued_le (hs : h.Sound) (hb : h.buses[n]? = some b) {i : Nat}
    (hi : b.issued ≤ i) : h.subscription? ⟨n, i⟩ = none := by
  rw [subscription?_of_bus rfl hb]
  cases hfind : b.subscription? ⟨n, i⟩ with
  | none => rfl
  | some s => exact absurd ((hs.buses n b hb).issued hfind).2 (Nat.not_lt.mpr hi)

theorem lastSeen_of_no_bus (hn : (after {} run).buses.length ≤ n) (i : Nat) :
    lastSeen ⟨n, i⟩ {} run = none := by
  induction run using List.reverseRecOn with
  | nil => rfl
  | append_singleton run a ih =>
    have hlength := (handleChange_next (sound_empty.after run) a).length_le
    rw [after_concat] at hn
    rw [lastSeen_concat, after_concat, subscription?_of_no_bus hn, Option.none_or,
      ih (Nat.le_trans hlength hn)]

/-- An identity that a step does not give away stays without an account. -/
theorem Balanced.fresh_next (hc : Balanced n run b) (hb : (after {} run).buses[n]? = some b)
    {i : Nat} (hi : (b.applyAll (operations n (after {} run) a)).issued ≤ i) :
    along (taken ⟨n, i⟩) {} (run ++ [a]) = [] ∧ lastSeen ⟨n, i⟩ {} (run ++ [a]) = none := by
  have hs := sound_empty.after run
  -- An identity that is not given away after the step was not given away before it.
  have hbefore : b.issued ≤ i := Nat.le_trans (Bus.issued_le_applyAll b _) hi
  obtain ⟨htaken, hseen⟩ := hc.fresh i hbefore
  refine ⟨?_, ?_⟩
  · rw [along_concat, htaken, taken_of_none hs (subscription?_of_issued_le hs hb hbefore)]
    rfl
  · rw [lastSeen_concat, hseen, after_concat,
      subscription?_of_issued_le (hs.next a) (buses_next hs a hb) hi]
    rfl

theorem Balanced.seen_next (hc : Balanced n run b) {i : Nat} (hi : i < b.issued) :
    (lastSeen ⟨n, i⟩ {} (run ++ [a])).isSome := by
  rw [lastSeen_concat, Option.isSome_or, hc.seen i hi, Bool.or_true]

theorem Balanced.publish (hc : Balanced n run b) (hb : (after {} run).buses[n]? = some b)
    {handle : String} (hfind : (after {} run).handles.find? handle = some n) (beat : Beat) :
    Balanced n (run ++ [.publish handle beat]) (b.apply (.publish beat)) := by
  have hs := sound_empty.after run
  have hbus := hs.buses n b hb
  obtain rfl : b.id = n := hs.numbered n b hb
  have hops : operations b.id (after {} run) (.publish handle beat) = [.publish beat] :=
    if_pos hfind
  -- Each account grows by what the subscription takes, and the sum of this is what was delivered.
  have haccount : ∀ i ∈ Finset.range b.issued, _ := fun i hi =>
    account_publish ⟨b.id, i⟩ beat hfind hb (Finset.mem_range.mp hi)
  refine ⟨?_, ?_, fun i hi => hc.seen_next hi, fun i hi => hc.fresh_next hb (hops ▸ hi)⟩
  · show (b.publish beat).1.delivered = .ofNat (∑ i ∈ Finset.range b.issued, _)
    rw [Finset.sum_congr rfl fun i hi => (haccount i hi).1, Finset.sum_add_distrib,
      Bus.sum_takes hbus, UInt64.ofNat_add, ← hc.delivered, (Bus.publish_eq hbus beat).1]
  · show (b.publish beat).1.dropped = .ofNat (∑ i ∈ Finset.range b.issued, _)
    rw [Finset.sum_congr rfl fun i hi => congrArg UInt64.toNat (haccount i hi).2,
      ofNat_sum_toNat_add, Bus.sum_loses hbus, ← hc.dropped, (Bus.publish_eq hbus beat).1]

/-- The sums over the subscriptions that were there before a step that publishes nothing. -/
theorem Balanced.sums_other (hc : Balanced n run b) (hb : (after {} run).buses[n]? = some b)
    (hnone : Hub.published n (after {} run) a = []) :
    .ofNat (∑ i ∈ Finset.range b.issued, came ⟨n, i⟩ (run ++ [a])) = b.delivered ∧
    .ofNat (∑ i ∈ Finset.range b.issued, (lost ⟨n, i⟩ (run ++ [a])).toNat) = b.dropped := by
  have haccount : ∀ i ∈ Finset.range b.issued, _ := fun i hi =>
    account_other ⟨n, i⟩ hb (Finset.mem_range.mp hi) hnone
  rw [Finset.sum_congr rfl fun i hi => (haccount i hi).1,
    Finset.sum_congr rfl fun i hi => congrArg UInt64.toNat (haccount i hi).2, ← hc.delivered,
    ← hc.dropped]
  exact ⟨rfl, rfl⟩

/-- A step that neither publishes nor subscribes on a bus moves beats from mailboxes to readers at
most. -/
theorem Balanced.other (hc : Balanced n run b) (hb : (after {} run).buses[n]? = some b)
    (hnone : Hub.published n (after {} run) a = [])
    (hkeys : (operations n (after {} run) a).flatMap Operation.keys = []) :
    Balanced n (run ++ [a]) (b.applyAll (operations n (after {} run) a)) := by
  obtain ⟨-, hdelivered, hdropped⟩ :=
    b.counters_applyAll ((published_eq n (after {} run) a).symm.trans hnone)
  obtain ⟨hcame, hlost⟩ := hc.sums_other hb hnone
  have hissued : (b.applyAll (operations n (after {} run) a)).issued = b.issued := by
    rw [Bus.issued_applyAll, hkeys]
    rfl
  refine ⟨?_, ?_, fun i hi => ?_, fun i hi => hc.fresh_next hb hi⟩
  · rw [hdelivered, hissued, hcame]
  · rw [hdropped, hissued, hlost]
  · rw [hissued] at hi
    exact hc.seen_next hi

/-- A step that subscribes on a bus adds one subscription, with an empty account. -/
theorem Balanced.subscribe (hc : Balanced n run b) (hb : (after {} run).buses[n]? = some b)
    {handle : String} (hfind : (after {} run).handles.find? handle = some n) (name key : String)
    (hkeys : (operations n (after {} run) (.subscribe handle name key)).flatMap Operation.keys
      = [key]) :
    Balanced n (run ++ [.subscribe handle name key])
      (b.applyAll (operations n (after {} run) (.subscribe handle name key))) := by
  have hid : b.nextId = ⟨n, b.issued⟩ := by
    rw [Bus.nextId, (sound_empty.after run).numbered n b hb]
  have hfresh := (hc.fresh b.issued (Nat.le_refl _)).1
  rw [← hid] at hfresh
  obtain ⟨hseen, hcameNew, hlostNew⟩ := account_subscribe hfind hb name key hfresh
  obtain ⟨-, hdelivered, hdropped⟩ :=
    b.counters_applyAll (published_eq n (after {} run) (.subscribe handle name key)).symm
  obtain ⟨hcame, hlost⟩ := hc.sums_other (a := .subscribe handle name key) hb rfl
  have hissued : (b.applyAll (operations n (after {} run) (.subscribe handle name key))).issued
      = b.issued + 1 := by
    rw [Bus.issued_applyAll, hkeys]
    rfl
  refine ⟨?_, ?_, fun i hi => ?_, fun i hi => hc.fresh_next hb hi⟩
  · rw [hdelivered, hissued, Finset.sum_range_succ, ← hid, hcameNew, Nat.add_zero, hcame]
  · rw [hdropped, hissued, Finset.sum_range_succ, ← hid, hlostNew, UInt64.toNat_zero,
      Nat.add_zero, hlost]
  · rw [hissued] at hi
    rcases Nat.lt_succ_iff_lt_or_eq.mp hi with hlt | rfl
    · exact hc.seen_next hlt
    · rw [← hid]
      exact hseen

theorem balanced_after (hb : (after {} run).buses[n]? = some b) : Balanced n run b := by
  refine bus_induction (P := Balanced n) (fun run a limits hn _ hmade => ?_)
    (fun run a b hb hc => ?_) hb
  · have hs := sound_empty.after run
    refine ⟨rfl, rfl, fun i hi => absurd hi (Nat.not_lt_zero i), fun i hi => ⟨?_, ?_⟩⟩
    · have hbefore : along (taken ⟨n, i⟩) {} run = [] :=
        along_of_no_bus (fun h a hs hn => taken_of_none hs (subscription?_of_no_bus hn i) a) hn
      rw [along_concat, hbefore, taken_of_none hs (subscription?_of_no_bus hn i)]
      rfl
    · rw [lastSeen_concat, lastSeen_of_no_bus hn,
        subscription?_of_issued_le (sound_empty.after (run ++ [a])) hmade hi]
      rfl
  · rcases published_cases n (after {} run) a with ⟨hnone, -⟩ | ⟨handle, beat, rfl, hfind⟩
    · rcases keys_operations n (after {} run) a with hkeys | ⟨handle, name, key, rfl, hfind, hkeys⟩
      · exact hc.other hb hnone hkeys
      · exact hc.subscribe hb hfind name key hkeys
    · have hops : operations n (after {} run) (.publish handle beat) = [.publish beat] :=
        if_pos hfind
      rw [hops]
      exact hc.publish hb hfind beat

/-! ## All together -/

/-- A publish moves nobody on any roster. -/
theorem rosters_publish (hs : h.Sound) (handle : String) (beat : Beat) {m : Nat} {c : Bus}
    (hc : h.buses[m]? = some c) :
    ∃ c', (h.next (.publish handle beat)).buses[m]? = some c' ∧ c'.roster = c.roster := by
  refine ⟨_, buses_next hs _ hc, ?_⟩
  rw [operations]
  split
  next => exact Bus.roster_publish (hs.buses m c hc) beat
  next => rfl

/-- Whoever is on a roster has a reader with a name. -/
theorem owner_of_mem_under (hs : h.Sound) (ho : h.Owned) (hb : h.buses[n]? = some b) {key : String}
    {id : SubscriptionId} (hid : id ∈ b.roster.under key) :
    ∃ owner r s, h.subscription owner = .ok (r, s) ∧ r.id = id := by
  have hbus := hs.buses n b hb
  obtain ⟨s, hfind⟩ := Option.isSome_iff_exists.mp (hbus.isSome_of_mem_under hid)
  have hnumber : id.bus = n := (hbus.issued hfind).1.trans (hs.numbered n b hb)
  have hsub : h.subscription? id = some s := by rw [subscription?_of_bus hnumber hb, hfind]
  obtain ⟨owner, r, hr, rfl⟩ := ho id (by rw [hsub]; rfl)
  exact ⟨owner, r, s, subscription_of_reader hr hsub, rfl⟩

/-- At every moment of every run: a publish through any handle of a bus reaches or misses each
subscriber of its key and of `*` once, and changes no subscriber count; nobody on a roster lacks a
reader. The totals of the bus count its publishes and add up what they returned, and they add up
what came to all subscriptions that were ever made on it, whether read or still waiting (for a
discarded one, when it was discarded), and what those dropped. Counters are 64-bit words. -/
theorem deliveries_conserved {run : List Action} {n : Nat} {b : Bus}
    (hb : (after {} run).buses[n]? = some b) :
    (∀ handle beat, (after {} run).handles.find? handle = some n →
      (∃ d, (after {} run).answer (.publish handle beat) = .ok (.delivery d) ∧
        d.delivered + d.dropped
          = (if beat.agent = everyAgent then 0 else b.subscriberCount beat.agent)
            + b.subscriberCount everyAgent) ∧
      ∀ (m : Nat) (c : Bus), (after {} run).buses[m]? = some c →
        ∃ c', ((after {} run).next (.publish handle beat)).buses[m]? = some c' ∧
          ∀ key, c'.subscriberCount key = c.subscriberCount key) ∧
    (∀ key id, id ∈ b.roster.under key →
      ∃ owner r s, (after {} run).subscription owner = .ok (r, s) ∧ r.id = id) ∧
    (b.totals.published = .ofNat (along (published n) {} run).length ∧
      b.totals.delivered = .ofNat (Delivery.total (along (deliveries n) {} run)).delivered ∧
      b.totals.dropped = .ofNat (Delivery.total (along (deliveries n) {} run)).dropped) ∧
    (∀ i, (lastSeen ⟨n, i⟩ {} run).isSome ↔ i < b.issued) ∧
    b.totals.delivered = .ofNat (∑ i ∈ Finset.range b.issued, came ⟨n, i⟩ run) ∧
    b.totals.dropped = .ofNat (∑ i ∈ Finset.range b.issued, (lost ⟨n, i⟩ run).toNat) := by
  have hs := sound_empty.after run
  have ho := owned_empty.after sound_empty run
  have hcounted := counted_after hb
  have hbalanced := balanced_after hb
  refine ⟨fun handle beat hfind => ⟨⟨b.fanOut beat, answer_publish hs hfind hb beat,
      Bus.fanOut_add (hs.buses n b hb) beat⟩, fun m c hc => ?_⟩,
    fun key id hid => owner_of_mem_under hs ho hb hid,
    ⟨hcounted.published, hcounted.delivered, hcounted.dropped⟩, fun i => ⟨fun hsome => ?_, ?_⟩,
    hbalanced.delivered, hbalanced.dropped⟩
  · obtain ⟨c', hc', hroster⟩ := rosters_publish hs handle beat hc
    exact ⟨c', hc', fun key => by rw [Bus.subscriberCount, Bus.subscriberCount, hroster]⟩
  · by_contra hge
    rw [(hbalanced.fresh i (Nat.le_of_not_lt hge)).2] at hsome
    cases hsome
  · exact hbalanced.seen i

/-- A run with a reader that read one beat, lost one and was discarded, and one that still waits. -/
theorem deliveries_conserved_discarded_reader :
    let beat : Beat := { agent := "a", status := "idle" }
    let run : List Action := [.create "bus" ⟨1, 1⟩, .subscribe "bus" "gone" "a",
      .subscribe "bus" "waits" "*", .publish "bus" beat, .publish "bus" beat,
      .read "gone" .attempt, .discard "gone", .publish "bus" beat]
    ∃ b, (after {} run).buses[0]? = some b ∧
      b.totals.published = 3 ∧ b.totals.delivered = 2 ∧ b.totals.dropped = 3 := by
  intro beat run
  have hsome : ((after {} run).buses[0]?).isSome := by decide +kernel
  obtain ⟨b, hb⟩ := Option.isSome_iff_exists.mp hsome
  obtain ⟨-, -, ⟨hpublished, hdelivered, hdropped⟩, -⟩ := deliveries_conserved hb
  refine ⟨b, hb, ?_, ?_, ?_⟩
  · rw [hpublished]
    decide +kernel
  · rw [hdelivered]
    decide +kernel
  · rw [hdropped]
    decide +kernel

end Hub

end AgentPulse
