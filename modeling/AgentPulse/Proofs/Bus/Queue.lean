import AgentPulse.Proofs.Bus.Fifo
import AgentPulse.Proofs.Bus.View

/-!
# A mailbox and a queue alike

A bounded queue on its own `Matches` a subscription when it holds and has lost the same as the
mailbox. An offer and the two ways to take keep them alike, each with its input to the queue
(`Matches.offer`, `Matches.take`, `Matches.drain`), and all other operations keep them alike with
none (`Matches.reactAll_inert`).
-/

namespace AgentPulse

/-- A queue on its own holds and has lost the same as the mailbox of a subscription. -/
structure Fifo.Matches (f : Fifo) (s : Subscription) : Prop where
  capacity : s.mailbox.capacity = f.capacity
  waiting : s.mailbox.waiting = f.queue
  dropped : s.mailbox.dropped = .ofNat f.lost

/-- The queue that is like a mailbox and from which nothing was taken yet. -/
def Fifo.ofMailbox (m : Mailbox) : Fifo where
  capacity := m.capacity
  queue := m.waiting
  lost := m.dropped.toNat

theorem Fifo.ofMailbox_matches (s : Subscription) : (Fifo.ofMailbox s.mailbox).Matches s :=
  ⟨rfl, rfl, UInt64.ofNat_toNat.symm⟩

/-- Whether an operation leaves all mailboxes that stay as full as they were. -/
def Bus.Operation.isInert : Bus.Operation → Bool
  | .publish _ | .take _ | .drain _ => false
  | _ => true

namespace Fifo.Matches

variable {f : Fifo} {s s' : Subscription}

theorem of_mailbox (h : f.Matches s) (hcapacity : s'.mailbox.capacity = s.mailbox.capacity)
    (hwaiting : s'.mailbox.waiting = s.mailbox.waiting)
    (hdropped : s'.mailbox.dropped = s.mailbox.dropped) : f.Matches s' :=
  ⟨hcapacity.trans h.capacity, hwaiting.trans h.waiting, hdropped.trans h.dropped⟩

theorem react_inert (h : f.Matches s) {op : Bus.Operation} (hop : op.isInert = true)
    (hs : s.react op = some s') : f.Matches s' := by
  cases op with
  | publish beat => cases hop
  | take id => cases hop
  | drain id => cases hop
  | subscribe key => cases hs; exact h
  | unsubscribe key id =>
    cases hs
    split
    · exact h.of_mailbox rfl rfl rfl
    · exact h
  | discard id =>
    rw [Subscription.react] at hs
    split at hs
    · cases hs
    · cases hs; exact h
  | close => cases hs; exact h.of_mailbox rfl rfl rfl

theorem reactAll_inert (h : f.Matches s) {ops : List Bus.Operation}
    (hops : ∀ op ∈ ops, op.isInert = true) (hs : s.reactAll ops = some s') : f.Matches s' := by
  induction ops generalizing s with
  | nil => cases hs; exact h
  | cons op ops ih =>
    obtain ⟨t, ht, hrest⟩ := Option.bind_eq_some_iff.mp hs
    exact ih (h.react_inert (hops op List.mem_cons_self) ht)
      (fun o ho => hops o (List.mem_cons_of_mem _ ho)) hrest

theorem offer (h : f.Matches s) (beat : Beat) :
    (f.feed (.offer beat)).Matches (s.onMailbox (Mailbox.offer · beat)) := by
  obtain ⟨hcapacity, hwaiting, hdropped⟩ := h
  rw [Subscription.onMailbox, Mailbox.offer, Mailbox.isFull, hcapacity, hwaiting]
  rcases Nat.lt_or_ge f.queue.length f.capacity with hlt | hge
  · rw [Fifo.feed_offer_of_lt f hlt, if_neg (by simpa using hlt)]
    exact ⟨rfl, rfl, hdropped⟩
  · rw [Fifo.feed_offer_of_le f hge, if_pos (by simpa using hge)]
    refine ⟨rfl, rfl, ?_⟩
    show s.mailbox.dropped + 1 = UInt64.ofNat (f.lost + 1)
    rw [hdropped, UInt64.ofNat_add]
    rfl

theorem take (h : f.Matches s) :
    (f.feed .take).Matches (s.onMailbox (·.tryTake.2)) ∧
    (f.feed .take).taken = f.taken ++ s.mailbox.waiting.take 1 := by
  obtain ⟨hcapacity, hwaiting, hdropped⟩ := h
  rw [Subscription.onMailbox, Mailbox.tryTake_snd, hwaiting]
  cases hq : f.queue with
  | nil =>
    rw [Fifo.feed_take_nil hq]
    exact ⟨⟨hcapacity, hq.symm, hdropped⟩, (List.append_nil _).symm⟩
  | cons b rest =>
    rw [Fifo.feed_take_cons hq]
    exact ⟨⟨hcapacity, rfl, hdropped⟩, rfl⟩

theorem drain (h : f.Matches s) :
    let f' := f.feedAll (List.replicate (s.mailbox.waiting.length + 1) .take)
    f'.Matches (s.onMailbox (·.drain.2)) ∧ f'.taken = f.taken ++ s.mailbox.waiting := by
  obtain ⟨hcapacity, hwaiting, hdropped⟩ := h
  rw [hwaiting, Fifo.feedAll_take_all]
  exact ⟨⟨hcapacity, rfl, hdropped⟩, rfl⟩

end Fifo.Matches

end AgentPulse
