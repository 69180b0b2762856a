import AgentPulse.Proofs.Bus.Unsubscribe
import AgentPulse.Proofs.Conservation

/-!
# Who is on a roster, and leaving it

At every moment of every run the roster of a bus lists the open subscriptions of the bus and nothing
else, each under its own key and in the order of subscribing. Unsubscribing and discarding strike
one of them at a time, in any order and however often, and a subscription that is given up at once
leaves no trace on the roster (`roster_exact_and_reversible`).
-/

namespace AgentPulse.Hub

variable {h : Hub} {n : Nat} {b : Bus}

/-- Whoever is on the roster of a bus under a key owns an open subscription that was made under this
key, and every owner of such a subscription is on the roster. -/
theorem mem_under_iff_owner (hs : h.Sound) (ho : h.Owned) (hb : h.buses[n]? = some b) {key : String}
    {id : SubscriptionId} :
    id ∈ b.roster.under key ↔ id.bus = n ∧ ∃ owner r s, h.subscription owner = .ok (r, s) ∧
      r.id = id ∧ s.key = key ∧ s.mailbox.isClosed = false := by
  have hbus := hs.buses n b hb
  constructor
  · intro hid
    obtain ⟨t, ht, hkey, hopen⟩ := (hbus.entered key id).mp hid
    have hnumber : id.bus = n := (hbus.issued ht).1.trans (hs.numbered n b hb)
    obtain ⟨owner, r, s, hsub, hr⟩ := owner_of_mem_under hs ho hb hid
    obtain ⟨-, hfind⟩ := reader_of_subscription hsub
    rw [hr, subscription?_of_bus hnumber hb, ht] at hfind
    cases hfind
    exact ⟨hnumber, owner, r, t, hsub, hr, hkey, hopen⟩
  · rintro ⟨hnumber, owner, r, s, hsub, rfl, hkey, hopen⟩
    obtain ⟨-, hfind⟩ := reader_of_subscription hsub
    rw [subscription?_of_bus hnumber hb] at hfind
    exact (hbus.entered key r.id).mpr ⟨s, hfind, hkey, hopen⟩

/-- A bus at any moment of any run. Its roster has no empty list and no agent of the name `*`, and
no identity occurs in it twice. Under each key it lists the open subscriptions made under this key,
in the order of subscribing, and those are what readers own. So the subscriber count of a key is the
number of its open subscriptions, and the counts of all keys add up to the total.

Unsubscribing a pair that is on the roster strikes it from there and closes its mailbox; any other
pair leaves the bus as it is. Hence a second time changes nothing and two pairs may be unsubscribed
in either order. Discarding a reader strikes its own identity, if that is still there, and no other.
Unsubscribing or discarding what has just been subscribed gives back the roster. -/
theorem roster_exact_and_reversible {run : List Action}
    (hb : (after {} run).buses[n]? = some b) :
    (b.roster.exact.find? everyAgent = none ∧ (∀ key, b.roster.exact.find? key ≠ some []) ∧
      (b.roster.everyone ++ b.roster.exact.values.flatten).Nodup) ∧
    (∀ key, b.roster.under key = (b.openOnes.filter fun s => s.key = key).map (·.id) ∧
      (b.roster.under key).Pairwise fun i j => i.serial < j.serial) ∧
    (∀ key id, id ∈ b.roster.under key ↔ id.bus = n ∧ ∃ owner r s,
      (after {} run).subscription owner = .ok (r, s) ∧ r.id = id ∧ s.key = key ∧
        s.mailbox.isClosed = false) ∧
    (∀ key, b.subscriberCount key = (b.openOnes.map (·.key)).count key) ∧
    (∀ keys : Finset String, (∀ key, b.subscriberCount key ≠ 0 → key ∈ keys) →
      ∑ key ∈ keys, b.subscriberCount key = b.totals.subscriptions) ∧
    (∀ key id, id ∈ b.roster.under key →
      (∀ other, (b.unsubscribe key id).1.roster.under other
        = (b.roster.under other).filter (· != id)) ∧
      (b.unsubscribe key id).1.subscriptions
        = Subscription.modify id Mailbox.close b.subscriptions ∧
      b.SameRecords (b.unsubscribe key id).1) ∧
    (∀ key id, id ∉ b.roster.under key → b.unsubscribe key id = (b, [])) ∧
    (∀ key id, (b.unsubscribe key id).1.unsubscribe key id = ((b.unsubscribe key id).1, [])) ∧
    (∀ key key' id id', ((b.unsubscribe key id).1.unsubscribe key' id').1
      = ((b.unsubscribe key' id').1.unsubscribe key id).1) ∧
    (∀ id s, b.subscription? id = some s → s.mailbox.isClosed = true →
      (b.discard id).1.roster = b.roster) ∧
    (∀ id other, (b.discard id).1.roster.under other
      = (b.roster.under other).filter (· != id)) ∧
    ∀ key, let (made, id, _) := b.subscribe key
      (made.unsubscribe key id).1.roster = b.roster ∧ (made.discard id).1.roster = b.roster := by
  have hs := sound_empty.after run
  have ho := owned_empty.after sound_empty run
  have hbus := hs.buses n b hb
  refine ⟨⟨hbus.tidy.everyAgent_absent, hbus.tidy.nonempty, hbus.nodup_roster⟩,
    fun key => ⟨hbus.under_eq_openUnder key, hbus.ordered key⟩,
    fun key id => mem_under_iff_owner hs ho hb, hbus.subscriberCount_eq,
    fun keys hkeys => hbus.sum_subscriberCount hkeys, fun key id hid => ?_,
    fun key id hid => Bus.unsubscribe_of_not_mem hid, hbus.unsubscribe_again, hbus.unsubscribe_comm,
    fun id s hfind hclosed => hbus.roster_discard_of_closed hfind hclosed, hbus.under_discard,
    fun key => ⟨hbus.roster_unsubscribe_new key, hbus.roster_discard_new key⟩⟩
  exact ⟨hbus.under_unsubscribe_of_mem hid, Bus.subscriptions_unsubscribe hid,
    Bus.sameRecords_unsubscribe b key id⟩

/-- Two subscriptions under one key and one to all, of which one is unsubscribed: the others stay,
and a wrong key does nothing. -/
theorem roster_exact_and_reversible_wrong_key :
    let run : List Action := [.create "bus" ⟨1, 1⟩, .subscribe "bus" "first" "a",
      .subscribe "bus" "all" "*", .subscribe "bus" "second" "a", .unsubscribe "bus" "first" "a"]
    ∃ b, (after {} run).buses[0]? = some b ∧ b.roster.under "a" = [⟨0, 2⟩] ∧
      b.unsubscribe "*" ⟨0, 2⟩ = (b, []) ∧
      (b.unsubscribe "a" ⟨0, 2⟩).1.roster.under "*" = [⟨0, 1⟩] := by
  intro run
  have hsome : ((after {} run).buses[0]?).isSome := by decide +kernel
  obtain ⟨b, hb⟩ := Option.isSome_iff_exists.mp hsome
  have hunder : ((after {} run).buses[0]?).map (fun c => (c.roster.under "a", c.roster.under "*"))
      = some ([⟨0, 2⟩], [⟨0, 1⟩]) := by decide +kernel
  rw [hb, Option.map_some, Option.some.injEq, Prod.mk.injEq] at hunder
  obtain ⟨ha, hall⟩ := hunder
  obtain ⟨-, -, -, -, -, hstrike, hpass, -⟩ := roster_exact_and_reversible hb
  refine ⟨b, hb, ha, hpass "*" ⟨0, 2⟩ (by rw [hall]; decide), ?_⟩
  rw [(hstrike "a" ⟨0, 2⟩ (by rw [ha]; decide)).1 "*", hall]
  decide

end AgentPulse.Hub
