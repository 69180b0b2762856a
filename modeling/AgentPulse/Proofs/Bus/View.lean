import AgentPulse.Proofs.Bus.Operation

/-!
# One subscription under many operations

`Subscription.react` taken along a sequence of operations, and what it says about a bus
(`subscription?_applyAll`): as long as the reader of a subscription exists the bus shows it as it
would be on its own, and once the reader is gone the identity is never seen again
(`subscription?_applyAll_of_gone`).
-/

namespace AgentPulse

namespace Subscription

variable {s s' : Subscription}

/-- A subscription on its own after operations on its bus, if its reader still exists. -/
def reactAll (s : Subscription) : List Bus.Operation → Option Subscription
  | [] => some s
  | op :: ops => (s.react op).bind fun s' => s'.reactAll ops

/-- Nothing changes what a subscription is called, what it follows and how much it holds. -/
theorem react_frame {op : Bus.Operation} (h : s.react op = some s') :
    s'.id = s.id ∧ s'.key = s.key ∧ s'.mailbox.capacity = s.mailbox.capacity := by
  have hoffer : ∀ (m : Mailbox) (beat : Beat), (m.offer beat).capacity = m.capacity :=
    fun m beat => by unfold Mailbox.offer; split <;> rfl
  cases op with
  | discard id =>
    rw [react] at h
    split at h
    · cases h
    · cases h; exact ⟨rfl, rfl, rfl⟩
  | publish beat =>
    cases h
    split
    · exact ⟨rfl, rfl, hoffer _ _⟩
    · exact ⟨rfl, rfl, rfl⟩
  | subscribe key => cases h; exact ⟨rfl, rfl, rfl⟩
  | unsubscribe key id => cases h; split <;> exact ⟨rfl, rfl, rfl⟩
  | take id =>
    cases h
    split
    · exact ⟨rfl, rfl, by rw [onMailbox_mailbox, Mailbox.tryTake_snd]⟩
    · exact ⟨rfl, rfl, rfl⟩
  | drain id => cases h; split <;> exact ⟨rfl, rfl, rfl⟩
  | close => cases h; exact ⟨rfl, rfl, rfl⟩

theorem reactAll_frame {ops : List Bus.Operation} (h : s.reactAll ops = some s') :
    s'.id = s.id ∧ s'.key = s.key ∧ s'.mailbox.capacity = s.mailbox.capacity := by
  induction ops generalizing s with
  | nil => cases h; exact ⟨rfl, rfl, rfl⟩
  | cons op ops ih =>
    obtain ⟨t, ht, hrest⟩ := Option.bind_eq_some_iff.mp h
    obtain ⟨hid, hkey, hcapacity⟩ := react_frame ht
    obtain ⟨hid', hkey', hcapacity'⟩ := ih hrest
    exact ⟨hid'.trans hid, hkey'.trans hkey, hcapacity'.trans hcapacity⟩

theorem isClosed_reactAll {ops : List Bus.Operation} (h : s.reactAll ops = some s') :
    s'.mailbox.isClosed = true
      ↔ s.mailbox.isClosed = true ∨ .close ∈ ops ∨ .unsubscribe s.key s.id ∈ ops := by
  induction ops generalizing s with
  | nil => cases h; simp
  | cons op ops ih =>
    obtain ⟨t, ht, hrest⟩ := Option.bind_eq_some_iff.mp h
    obtain ⟨hid, hkey, -⟩ := react_frame ht
    rw [ih hrest, isClosed_react ht, hid, hkey, List.mem_cons, List.mem_cons,
      eq_comm (b := op), eq_comm (b := op)]
    tauto

/-- Discarding the reader is the end of a subscription. -/
theorem reactAll_of_discard {ops : List Bus.Operation} (h : .discard s.id ∈ ops) :
    s.reactAll ops = none := by
  induction ops generalizing s with
  | nil => cases h
  | cons op ops ih =>
    rw [reactAll]
    cases hreact : s.react op with
    | none => rfl
    | some t =>
      -- A subscription keeps its identity, so a later discard still means it.
      rcases List.mem_cons.mp h with rfl | hrest
      · rw [react, if_pos rfl] at hreact
        cases hreact
      · rw [← (react_frame hreact).1] at hrest
        exact ih hrest

end Subscription

namespace Bus

variable {b : Bus}

theorem issued_le_apply (b : Bus) (op : Operation) : b.issued ≤ (b.apply op).issued := by
  cases op with
  | subscribe key => exact Nat.le_succ _
  | unsubscribe key id => exact Nat.le_of_eq (sameRecords_unsubscribe b key id).issued.symm
  | discard id => exact Nat.le_of_eq (sameRecords_discard b id).issued.symm
  | _ => exact Nat.le_refl _

theorem issued_le_applyAll (b : Bus) (ops : List Operation) :
    b.issued ≤ (b.applyAll ops).issued := by
  induction ops generalizing b with
  | nil => exact Nat.le_refl _
  | cons op ops ih => exact Nat.le_trans (issued_le_apply b op) (ih _)

/-- An identity that was given away and whose reader is gone does not come back. -/
theorem subscription?_apply_of_gone (h : b.Sound) (op : Operation) {id : SubscriptionId}
    (hs : b.subscription? id = none) (hid : id.serial < b.issued) :
    (b.apply op).subscription? id = none := by
  rcases subscription?_apply_of_none h op hs with hnone | ⟨key, -, e⟩
  · exact hnone
  · rw [e] at hid
    exact absurd hid (Nat.lt_irrefl _)

theorem subscription?_applyAll_of_gone (h : b.Sound) {ops : List Operation} {id : SubscriptionId}
    (hs : b.subscription? id = none) (hid : id.serial < b.issued) :
    (b.applyAll ops).subscription? id = none := by
  induction ops generalizing b with
  | nil => exact hs
  | cons op ops ih =>
    exact ih (h.apply op) (subscription?_apply_of_gone h op hs hid)
      (Nat.lt_of_lt_of_le hid (issued_le_apply b op))

/-- Along any operations a bus shows each subscription as it would be on its own. -/
theorem subscription?_applyAll (h : b.Sound) (ops : List Operation) {id : SubscriptionId}
    {s : Subscription} (hs : b.subscription? id = some s) :
    (b.applyAll ops).subscription? id = s.reactAll ops := by
  induction ops generalizing b s with
  | nil => exact hs
  | cons op ops ih =>
    have hstep := subscription?_apply h op hs
    rw [applyAll_cons, Subscription.reactAll]
    cases hreact : s.react op with
    | some t =>
      rw [hreact] at hstep
      exact ih (h.apply op) hstep
    | none =>
      rw [hreact] at hstep
      exact subscription?_applyAll_of_gone (h.apply op) hstep
        (Nat.lt_of_lt_of_le (h.issued hs).2 (issued_le_apply b op))

end Bus

end AgentPulse
