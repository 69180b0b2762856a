import AgentPulse.Bus.Mailbox

/-!
# Laws of mailboxes

Taking a beat in any of the ways to read leaves the same mailbox (`poll_snd`, `take?_eq_some`), and
a read that takes nothing leaves the mailbox as it was (`tryTake_snd_of_nil`). No way to read opens
or closes a mailbox, and neither does an offer.
-/

namespace AgentPulse.Mailbox

variable (m : Mailbox)

/-! ## Reading -/

theorem tryTake_snd : m.tryTake.2 = { m with waiting := m.waiting.tail } := by
  unfold tryTake
  split
  next hw => rw [hw]; rfl
  next hw =>
    rw [hw]
    show m = { m with waiting := [] }
    rw [← hw]

variable {m} in
theorem tryTake_snd_of_nil (h : m.waiting = []) : m.tryTake.2 = m := by
  unfold tryTake
  rw [h]

theorem poll_snd : m.poll.2 = m.tryTake.2 := by
  unfold poll tryTake
  cases hw : m.waiting with
  | cons b rest => rfl
  | nil => cases hc : m.isClosed <;> rfl

variable {m} in
theorem take?_eq_some {b : Option Beat} {m' : Mailbox} (h : m.take? = some (b, m')) :
    m' = m.tryTake.2 := by
  unfold take? at h
  unfold tryTake
  cases hw : m.waiting with
  | cons b rest =>
    rw [hw] at h
    cases h
    rfl
  | nil =>
    rw [hw] at h
    cases hc : m.isClosed with
    | true => rw [hc] at h; cases h; rfl
    | false => rw [hc] at h; cases h

variable {m} in
/-- A reader has to wait at an open mailbox in which nothing waits, and only there. -/
theorem take?_eq_none_iff : m.take? = none ↔ m.waiting = [] ∧ m.isClosed = false := by
  unfold take?
  cases hw : m.waiting with
  | cons b rest => simp
  | nil => cases hc : m.isClosed <;> simp

variable {m} in
theorem waiting_of_tryTake_error {e : AtEnd} (h : m.tryTake.1 = .error e) : m.waiting = [] := by
  unfold tryTake at h
  cases hw : m.waiting with
  | cons b rest => rw [hw] at h; cases h
  | nil => rfl

/-! ## Open and closed -/

@[simp] theorem isClosed_tryTake : m.tryTake.2.isClosed = m.isClosed := by rw [tryTake_snd]

@[simp] theorem isClosed_drain : m.drain.2.isClosed = m.isClosed := rfl

@[simp] theorem isClosed_close : m.close.isClosed = true := rfl

@[simp] theorem isClosed_offer (b : Beat) : (m.offer b).isClosed = m.isClosed := by
  unfold offer
  split <;> rfl

variable {m} in
theorem close_of_isClosed (h : m.isClosed = true) : m.close = m := by
  unfold close
  rw [← h]

end AgentPulse.Mailbox
