import AgentPulse.Proofs.Bus.Archive
import AgentPulse.Proofs.Bus.Saturation

/-!
# The order of beats

What a bus shows after many beats depends little on their order. Counts and lengths do not depend on
it at all (`Archive.Keeps.perm`, `Subscription.receive_perm`). What is kept under a key, and what
waits for a reader that follows one agent, depends on the order of that agent's beats alone
(`Archive.Keeps.sameOrder`, `Subscription.receive_sameOrder`).

Producers that publish at the same time leave the order of their beats open, but each of them
publishes in its own order: what comes of it is an `Interleaving`. If no two producers publish for
one agent, all interleavings have the beats of each agent in one order (`Interleaving.sameOrder`).
-/

namespace AgentPulse

/-- Two logs that have the beats of each agent in the same order. -/
def SameOrder (log log' : List Beat) : Prop := ∀ agent, beatsOf agent log = beatsOf agent log'

section

variable {log log' : List Beat}

theorem beatsOf_append_list (agent : String) (log more : List Beat) :
    beatsOf agent (log ++ more) = beatsOf agent log ++ beatsOf agent more := List.filter_append ..

theorem beatsOf_cons (agent : String) (beat : Beat) (log : List Beat) :
    beatsOf agent (beat :: log)
      = if beat.agent = agent then beat :: beatsOf agent log else beatsOf agent log := by
  simp only [beatsOf, List.filter_cons, decide_eq_true_eq]

theorem perm_beatsOf (h : log'.Perm log) (agent : String) :
    (beatsOf agent log').Perm (beatsOf agent log) := h.filter _

theorem agentsOf_perm (h : log'.Perm log) : agentsOf log' = agentsOf log :=
  List.toFinset_eq_of_perm _ _ (h.map _)

theorem beatsOf_eq_nil_of_perm (h : log'.Perm log) (agent : String) :
    beatsOf agent log' = [] ↔ beatsOf agent log = [] :=
  ⟨fun e => ((perm_beatsOf h agent).symm.trans (e ▸ .refl _)).eq_nil,
    fun e => ((perm_beatsOf h agent).trans (e ▸ .refl _)).eq_nil⟩

end

/-! ## Archives -/

namespace Archive

variable {a a' : Archive} {log log' : List Beat}

/-- Two archives of one depth that keep the same beats, in whichever order these were stored. -/
theorem Keeps.perm (h : a.Keeps log) (h' : a'.Keeps log') (hc : a'.capacity = a.capacity)
    (hperm : log'.Perm log) :
    a'.keys = a.keys ∧ a'.keyCount = a.keyCount ∧ a'.total = a.total ∧
    ∀ agent, (a'.history agent).length = (a.history agent).length := by
  have hlength : ∀ agent, (beatsOf agent log').length = (beatsOf agent log).length :=
    fun agent => (perm_beatsOf hperm agent).length_eq
  refine ⟨?_, ?_, ?_, fun agent => ?_⟩
  · -- Both lists of keys ascend, so it is enough that they have the same members.
    have hmem : ∀ agent, agent ∈ a'.keys ↔ agent ∈ a.keys := fun agent => by
      rw [h.mem_keys_iff, h'.mem_keys_iff, Ne, Ne, beatsOf_eq_nil_of_perm hperm]
    have hkeys : a'.keys.Perm a.keys :=
      (List.perm_ext_iff_of_nodup h'.nodup_keys h.nodup_keys).mpr hmem
    exact hkeys.eq_of_pairwise (fun _ _ _ _ hlt hgt => absurd hlt (String.lt_asymm hgt))
      h'.keys_ascending h.keys_ascending
  · rw [h'.keyCount_eq, h.keyCount_eq, agentsOf_perm hperm]
  · rw [h'.total_eq, h.total_eq, agentsOf_perm hperm, hc]
    exact Finset.sum_congr rfl fun agent _ => by rw [hlength]
  · rw [h'.history_eq, h.history_eq, length_lastOf, length_lastOf, hc, hlength]

/-- An archive keeps every log that has the beats of each agent in the same order. -/
theorem Keeps.sameOrder (h : a.Keeps log) (hsame : SameOrder log log') : a.Keeps log' :=
  fun agent => hsame agent ▸ h agent

end Archive

/-! ## Subscriptions -/

namespace Subscription

variable (s : Subscription) {beats beats' : List Beat}

theorem perm_matching (h : beats'.Perm beats) : (s.matching beats').Perm (s.matching beats) :=
  h.filter _

theorem counts_perm (h : beats'.Perm beats) :
    s.accepted beats' = s.accepted beats ∧ s.refused beats' = s.refused beats := by
  rw [accepted, accepted, refused, refused, (s.perm_matching h).length_eq]
  exact ⟨rfl, rfl⟩

/-- How much waits and how much was lost does not depend on the order of the beats. -/
theorem receive_perm (h : beats'.Perm beats) :
    (s.receive beats').mailbox.dropped = (s.receive beats).mailbox.dropped ∧
    (s.receive beats').mailbox.waiting.length = (s.receive beats).mailbox.waiting.length := by
  cases hc : s.mailbox.isClosed with
  | true => rw [receive_of_closed hc, receive_of_closed hc]; exact ⟨rfl, rfl⟩
  | false =>
    rw [receive_of_open hc, receive_of_open hc]
    simp only [onMailbox_mailbox, Mailbox.offerAll_eq, List.length_append, List.length_take,
      (s.perm_matching h).length_eq, and_self]

variable {s} in
/-- What is for a subscription that follows one agent are the beats of this agent. -/
theorem matching_of_ne (hkey : s.key ≠ everyAgent) (beats : List Beat) :
    s.matching beats = beatsOf s.key beats := by
  refine List.filter_congr fun beat _ => ?_
  rw [follows, isEveryAgent, beq_eq_false_iff_ne.mpr hkey, Bool.false_or, Bool.eq_iff_iff,
    beq_iff_eq, decide_eq_true_eq, eq_comm]

variable {s} in
theorem receive_sameOrder (hkey : s.key ≠ everyAgent) (h : SameOrder beats beats') :
    s.receive beats' = s.receive beats := by
  rw [receive, receive, matching_of_ne hkey, matching_of_ne hkey, h s.key]

end Subscription

/-! ## Producers -/

/-- An order in which the beats of several producers are published, when each producer publishes
its own one after the other. -/
inductive Interleaving : List (List Beat) → List Beat → Prop where
  /-- No producer has anything left. -/
  | done {producers : List (List Beat)} (empty : ∀ p ∈ producers, p = []) :
    Interleaving producers []
  /-- One of the producers publishes the first beat that it has left. -/
  | next (before : List (List Beat)) {after : List (List Beat)} {beat : Beat}
    {rest log : List Beat} (others : Interleaving (before ++ rest :: after) log) :
    Interleaving (before ++ (beat :: rest) :: after) (beat :: log)

/-- No two of the producers publish for one agent. -/
def OwnAgents (producers : List (List Beat)) : Prop :=
  producers.Pairwise fun p q => ∀ beat ∈ p, ∀ beat' ∈ q, beat.agent ≠ beat'.agent

theorem OwnAgents.tail {before after : List (List Beat)} {beat : Beat} {rest : List Beat}
    (h : OwnAgents (before ++ (beat :: rest) :: after)) :
    OwnAgents (before ++ rest :: after) ∧
    ∀ p, p ∈ before ∨ p ∈ after → ∀ beat' ∈ p, beat'.agent ≠ beat.agent := by
  obtain ⟨hbefore, hrest, hcross⟩ := List.pairwise_append.mp h
  obtain ⟨hown, hafter⟩ := List.pairwise_cons.mp hrest
  refine ⟨List.pairwise_append.mpr ⟨hbefore, List.pairwise_cons.mpr ⟨fun q hq b hb => ?_, hafter⟩,
    fun p hp q hq b hb => ?_⟩, ?_⟩
  · exact hown q hq b (List.mem_cons_of_mem _ hb)
  · rcases List.mem_cons.mp hq with rfl | hq
    · exact fun b' hb' => hcross p hp _ List.mem_cons_self b hb b' (List.mem_cons_of_mem _ hb')
    · exact hcross p hp q (List.mem_cons_of_mem _ hq) b hb
  · rintro p (hp | hp) beat' hbeat'
    · exact hcross p hp _ List.mem_cons_self beat' hbeat' beat List.mem_cons_self
    · exact (hown p hp beat List.mem_cons_self beat' hbeat').symm

namespace Interleaving

variable {producers : List (List Beat)} {log log' : List Beat}

/-- All beats of all producers are published. -/
theorem perm (h : Interleaving producers log) : log.Perm producers.flatten := by
  induction h with
  | done empty => rw [List.flatten_eq_nil_iff.mpr empty]
  | @next before after beat rest log _ ih =>
    rw [List.flatten_append, List.flatten_cons] at ih ⊢
    exact (ih.cons beat).trans List.perm_middle.symm

/-- The beats of an agent come from one producer, in the order of this producer. -/
theorem beatsOf_eq (h : Interleaving producers log) (hown : OwnAgents producers) (agent : String) :
    beatsOf agent log = beatsOf agent producers.flatten := by
  induction h with
  | done empty => rw [List.flatten_eq_nil_iff.mpr empty]
  | @next before after beat rest log _ ih =>
    obtain ⟨hrest, hothers⟩ := hown.tail
    have hlog := ih hrest
    rw [List.flatten_append, List.flatten_cons, beatsOf_append_list, beatsOf_append_list] at hlog ⊢
    by_cases hagent : beat.agent = agent
    · -- Nobody else publishes for this agent, so nothing of it comes before.
      have hnone : beatsOf agent before.flatten = [] := by
        refine List.filter_eq_nil_iff.mpr fun beat' hbeat' e => ?_
        obtain ⟨p, hp, hmem⟩ := List.mem_flatten.mp hbeat'
        exact hothers p (Or.inl hp) beat' hmem ((of_decide_eq_true e).trans hagent.symm)
      rw [hnone, List.nil_append] at hlog ⊢
      rw [beatsOf_cons, if_pos hagent, beatsOf_cons, if_pos hagent, hlog, List.cons_append]
    · rw [beatsOf_cons, if_neg hagent, beatsOf_cons, if_neg hagent, hlog]

/-- However the beats of producers with agents of their own are interleaved, those of each agent
come in one order. -/
theorem sameOrder (h : Interleaving producers log) (h' : Interleaving producers log')
    (hown : OwnAgents producers) : SameOrder log log' := fun agent =>
  (h.beatsOf_eq hown agent).trans (h'.beatsOf_eq hown agent).symm

end Interleaving

end AgentPulse
