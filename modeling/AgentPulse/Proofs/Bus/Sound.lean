import AgentPulse.Proofs.Bus.Roster
import AgentPulse.Proofs.Bus.Round

/-!
# Sound buses

A bus knows its subscriptions twice: by the roster and by the list of mailboxes. `Bus.Sound` says
how the two belong together. Its main clause is `entered`: the roster lists an identity under a key
exactly when that subscription was made under this key, its reader exists and its mailbox is open.

From it follows who the followers of an agent are (`mem_followers_iff`): the open subscriptions that
a beat of this agent is for, each of them once (`nodup_followers`), none of them without a reader
(`isSome_of_mem_followers`).
-/

namespace AgentPulse

namespace Bus

/-- How the roster of a bus and its mailboxes belong together. -/
structure Sound (b : Bus) : Prop where
  tidy : b.roster.Tidy
  own : ∀ s ∈ b.subscriptions, s.id.bus = b.id ∧ s.id.serial < b.issued
  ascending : b.subscriptions.Pairwise fun s t => s.id.serial < t.id.serial
  ordered : ∀ key, (b.roster.under key).Pairwise fun i j => i.serial < j.serial
  entered : ∀ key id, id ∈ b.roster.under key
    ↔ ∃ s, b.subscription? id = some s ∧ s.key = key ∧ s.mailbox.isClosed = false

variable {b : Bus}

/-- A change of all subscriptions that keeps identities is seen through the look-up. -/
theorem subscription?_of_map {b' : Bus} {g : Subscription → Subscription}
    (hg : ∀ s, (g s).id = s.id) (hsubs : b'.subscriptions = b.subscriptions.map g)
    (id : SubscriptionId) : b'.subscription? id = (b.subscription? id).map g := by
  rw [subscription?, hsubs, Subscription.find?_map hg, subscription?]

/-- A new bus is sound. -/
theorem sound_ofLimits (n : Nat) (limits : Limits) : (ofLimits n limits).Sound where
  tidy := Roster.tidy_empty
  own := fun _ h => absurd h List.not_mem_nil
  ascending := List.Pairwise.nil
  ordered := fun key => by
    show (Roster.empty.under key).Pairwise _
    rw [Roster.under_empty]
    exact List.Pairwise.nil
  entered := fun key id => by
    show id ∈ Roster.empty.under key ↔ _
    simp [subscription?, Subscription.find?, ofLimits]

namespace Sound

/-! ## Consequences -/

theorem nodup_ids (h : b.Sound) : (b.subscriptions.map (·.id)).Nodup := by
  rw [List.nodup_iff_pairwise_ne, List.pairwise_map]
  exact h.ascending.imp fun {s t} hlt (e : s.id = t.id) =>
    Nat.lt_irrefl t.id.serial (e ▸ hlt)

theorem mem_iff (h : b.Sound) {s : Subscription} :
    s ∈ b.subscriptions ↔ b.subscription? s.id = some s := by
  rw [subscription?, Subscription.find?_eq_some_iff h.nodup_ids]
  exact ⟨fun hs => ⟨hs, rfl⟩, fun hs => hs.1⟩

theorem nodup_under (h : b.Sound) (key : String) : (b.roster.under key).Nodup := by
  rw [List.nodup_iff_pairwise_ne]
  exact (h.ordered key).imp fun {i j} hlt (e : i = j) => Nat.lt_irrefl j.serial (e ▸ hlt)

/-- Whoever is found was made on this bus, and before now. -/
theorem issued (h : b.Sound) {id : SubscriptionId} {s : Subscription}
    (hs : b.subscription? id = some s) : id.bus = b.id ∧ id.serial < b.issued := by
  have hid : s.id = id := Subscription.id_of_find? hs
  rw [← hid]
  exact h.own s (Subscription.mem_of_find? hs)

/-- An identity stands under one key only. -/
theorem key_unique (h : b.Sound) {id : SubscriptionId} {k k' : String}
    (hk : id ∈ b.roster.under k) (hk' : id ∈ b.roster.under k') : k = k' := by
  obtain ⟨s, hs, rfl, -⟩ := (h.entered k id).mp hk
  obtain ⟨t, ht, rfl, -⟩ := (h.entered k' id).mp hk'
  rw [hs] at ht
  cases ht
  rfl

theorem nodup_followers (h : b.Sound) (agent : String) : (b.roster.followers agent).Nodup := by
  by_cases ha : agent = everyAgent
  · subst ha
    rw [Roster.followers, Roster.byName_everyAgent, List.nil_append, ← Roster.under_everyAgent]
    exact h.nodup_under everyAgent
  · rw [Roster.followers, ← Roster.under_eq_byName _ ha, ← Roster.under_everyAgent,
      List.nodup_append]
    refine ⟨h.nodup_under agent, h.nodup_under everyAgent, fun i hi j hj e => ?_⟩
    subst e
    exact ha (h.key_unique hi hj)

theorem isSome_of_mem_under (h : b.Sound) {key : String} {id : SubscriptionId}
    (hid : id ∈ b.roster.under key) : (b.subscription? id).isSome := by
  obtain ⟨s, hs, -, -⟩ := (h.entered key id).mp hid
  exact Option.isSome_iff_exists.mpr ⟨s, hs⟩

/-- No follower's reader is gone. -/
theorem isSome_of_mem_followers (h : b.Sound) {agent : String} {id : SubscriptionId}
    (hid : id ∈ b.roster.followers agent) : (b.subscription? id).isSome := by
  obtain ⟨k, -, hk⟩ := (Roster.mem_followers _ _ _).mp hid
  exact h.isSome_of_mem_under hk

/-- The followers of an agent are the open subscriptions that a beat of it is for. -/
theorem mem_followers_iff (h : b.Sound) {agent : String} {id : SubscriptionId} {s : Subscription}
    (hs : b.subscription? id = some s) :
    id ∈ b.roster.followers agent ↔ s.mailbox.isClosed = false ∧ follows s.key agent = true := by
  rw [Roster.mem_followers]
  constructor
  · rintro ⟨k, hk, hid⟩
    obtain ⟨t, ht, rfl, hopen⟩ := (h.entered k id).mp hid
    rw [hs] at ht
    cases ht
    exact ⟨hopen, hk⟩
  · rintro ⟨hopen, hk⟩
    exact ⟨s.key, hk, (h.entered s.key id).mpr ⟨s, hs, rfl, hopen⟩⟩

/-- Soundness after a change that keeps the identities of all subscriptions. -/
theorem of_map {b' : Bus} {g : Subscription → Subscription} (h : b.Sound)
    (hg : ∀ s, (g s).id = s.id) (hid : b'.id = b.id) (hissued : b'.issued = b.issued)
    (hsubs : b'.subscriptions = b.subscriptions.map g) (htidy : b'.roster.Tidy)
    (hordered : ∀ key, (b'.roster.under key).Pairwise fun i j => i.serial < j.serial)
    (hentered : ∀ key id, id ∈ b'.roster.under key
      ↔ ∃ s, b.subscription? id = some s ∧ (g s).key = key ∧ (g s).mailbox.isClosed = false) :
    b'.Sound where
  tidy := htidy
  own := by
    rw [hsubs, hid, hissued]
    intro t ht
    obtain ⟨s, hs, rfl⟩ := List.mem_map.mp ht
    rw [hg]
    exact h.own s hs
  ascending := by
    rw [hsubs, List.pairwise_map]
    simpa only [hg] using h.ascending
  ordered := hordered
  entered := fun key id => by
    rw [hentered key id, subscription?_of_map hg hsubs]
    constructor
    · rintro ⟨s, hs, hk, hopen⟩
      exact ⟨g s, by rw [hs]; rfl, hk, hopen⟩
    · rintro ⟨t, ht, hk, hopen⟩
      obtain ⟨s, hs, rfl⟩ := Option.map_eq_some_iff.mp ht
      exact ⟨s, hs, hk, hopen⟩

/-- Soundness after a change of mailboxes that opens and closes none. -/
theorem of_map_mailbox {b' : Bus} {g : Subscription → Subscription} (h : b.Sound)
    (hg : ∀ s, (g s).id = s.id ∧ (g s).key = s.key ∧ (g s).mailbox.isClosed = s.mailbox.isClosed)
    (hid : b'.id = b.id) (hissued : b'.issued = b.issued) (hroster : b'.roster = b.roster)
    (hsubs : b'.subscriptions = b.subscriptions.map g) : b'.Sound := by
  refine h.of_map (fun s => (hg s).1) hid hissued hsubs (hroster ▸ h.tidy)
    (hroster ▸ h.ordered) fun key id => ?_
  rw [hroster, h.entered key id]
  simp only [(hg _).2.1, (hg _).2.2]

end Sound

end Bus

end AgentPulse
