import AgentPulse.Proofs.Bus.Sound
import Mathlib.Algebra.BigOperators.Group.Finset.Basic

/-!
# A roster lists the open subscriptions

The two parts of a roster hold no more than its lists under all keys (`Roster.Tidy.mem_ids`,
`Roster.Tidy.ext`). On a sound bus the list under a key is that of the open subscriptions made under
it, in the order of subscribing (`under_eq_openUnder`), and both parts together hold every open
subscription once (`perm_ids`). So counting a roster is counting open subscriptions
(`subscriberCount_eq`, `sum_subscriberCount`).
-/

namespace AgentPulse

namespace Roster

/-- All identities on a roster, in both of its parts. -/
def ids (r : Roster) : List SubscriptionId := r.everyone ++ r.exact.values.flatten

theorem size_eq_length_ids (r : Roster) : r.size = r.ids.length := by
  rw [size, ids, List.length_append]

variable {r r' : Roster}

/-- In a tidy roster the part for one agent holds what is listed under the agent's key, if that is
anything. -/
theorem Tidy.find?_exact (h : r.Tidy) (key : String) :
    r.exact.find? key
      = if key = everyAgent ∨ r.under key = [] then none else some (r.under key) := by
  by_cases hkey : key = everyAgent
  · rw [if_pos (Or.inl hkey), hkey, h.everyAgent_absent]
  · have hunder : r.under key = (r.exact.find? key).getD [] := by
      rw [under, if_neg fun e => hkey (isEveryAgent_iff.mp e)]
    cases hfind : r.exact.find? key with
    | none =>
      rw [hfind, Option.getD_none] at hunder
      rw [if_pos (Or.inr hunder)]
    | some l =>
      rw [hfind, Option.getD_some] at hunder
      have hl : l ≠ [] := fun e => h.nonempty key (e ▸ hfind)
      rw [hunder, if_neg (not_or.mpr ⟨hkey, hl⟩)]

/-- Tidy rosters with the same lists under all keys are the same. -/
theorem Tidy.ext (h : r.Tidy) (h' : r'.Tidy) (hunder : ∀ key, r.under key = r'.under key) :
    r = r' := by
  have hexact : r.exact = r'.exact := Dict.ext_find? fun key => by
    rw [h.find?_exact, h'.find?_exact, hunder key]
  have heveryone : r.everyone = r'.everyone := by
    rw [← under_everyAgent, ← under_everyAgent, hunder]
  cases r
  cases r'
  cases hexact
  cases heveryone
  rfl

/-- What an entry of the part for one agent holds is listed under the agent's key. -/
theorem Tidy.under_of_mem (h : r.Tidy) {e : String × List SubscriptionId}
    (he : e ∈ r.exact.entries) : e.1 ≠ everyAgent ∧ r.under e.1 = e.2 := by
  have hfind : r.exact.find? e.1 = some e.2 := Dict.mem_entries.mp he
  rw [h.find?_exact] at hfind
  split at hfind
  · cases hfind
  next hkey => exact ⟨fun e => hkey (Or.inl e), Option.some.inj hfind⟩

theorem Tidy.mem_ids (h : r.Tidy) {id : SubscriptionId} :
    id ∈ r.ids ↔ ∃ key, id ∈ r.under key := by
  rw [ids, List.mem_append, List.mem_flatten]
  constructor
  · rintro (hid | ⟨l, hl, hid⟩)
    · exact ⟨everyAgent, by rwa [under_everyAgent]⟩
    · obtain ⟨e, he, rfl⟩ := List.mem_map.mp hl
      exact ⟨e.1, by rwa [(h.under_of_mem he).2]⟩
  · rintro ⟨key, hid⟩
    by_cases hkey : key = everyAgent
    · rw [hkey, under_everyAgent] at hid
      exact Or.inl hid
    · have hfind := h.find?_exact key
      rw [if_neg (not_or.mpr ⟨hkey, List.ne_nil_of_mem hid⟩)] at hfind
      exact Or.inr ⟨r.under key, List.mem_map.mpr ⟨_, Dict.mem_entries.mpr hfind, rfl⟩, hid⟩

/-- Where no identity stands under two keys or twice under one, none is in both parts or twice in
one. -/
theorem Tidy.nodup_ids (h : r.Tidy) (hnodup : ∀ key, (r.under key).Nodup)
    (hunique : ∀ key key' id, id ∈ r.under key → id ∈ r.under key' → key = key') :
    r.ids.Nodup := by
  rw [ids, List.nodup_append, List.nodup_flatten, Dict.values, List.pairwise_map]
  refine ⟨under_everyAgent r ▸ hnodup everyAgent, ⟨fun l hl => ?_, ?_⟩, fun i hi j hj e => ?_⟩
  · obtain ⟨e, he, rfl⟩ := List.mem_map.mp hl
    exact (h.under_of_mem he).2 ▸ hnodup e.1
  · refine r.exact.ascending.imp_of_mem fun {e e'} he he' hlt => ?_
    intro id hid hid'
    rw [← (h.under_of_mem he).2] at hid
    rw [← (h.under_of_mem he').2] at hid'
    exact String.lt_irrefl e'.1 (hunique _ _ id hid hid' ▸ hlt)
  · obtain ⟨l, hl, hj⟩ := List.mem_flatten.mp hj
    obtain ⟨entry, he, rfl⟩ := List.mem_map.mp hl
    obtain ⟨hkey, hunder⟩ := h.under_of_mem he
    rw [← hunder, ← e] at hj
    rw [← under_everyAgent r] at hi
    exact hkey (hunique _ _ i hj hi)

end Roster

namespace Bus

variable {b : Bus}

/-- The open subscriptions of a bus, in the order of subscribing. -/
def openOnes (b : Bus) : List Subscription := b.subscriptions.filter fun s => !s.mailbox.isClosed

/-- The identities of the open subscriptions that were made under a key. -/
def openUnder (b : Bus) (key : String) : List SubscriptionId :=
  (b.openOnes.filter fun s => s.key = key).map (·.id)

namespace Sound

theorem mem_openOnes (h : b.Sound) {s : Subscription} :
    s ∈ b.openOnes ↔ b.subscription? s.id = some s ∧ s.mailbox.isClosed = false := by
  rw [openOnes, List.mem_filter, h.mem_iff, Bool.not_eq_true']

theorem mem_openUnder (h : b.Sound) {key : String} {id : SubscriptionId} :
    id ∈ b.openUnder key ↔ id ∈ b.roster.under key := by
  rw [openUnder, List.mem_map, h.entered]
  constructor
  · rintro ⟨s, hs, rfl⟩
    obtain ⟨hmem, hkey⟩ := List.mem_filter.mp hs
    obtain ⟨hfind, hopen⟩ := h.mem_openOnes.mp hmem
    exact ⟨s, hfind, of_decide_eq_true hkey, hopen⟩
  · rintro ⟨s, hfind, hkey, hopen⟩
    have hid : s.id = id := Subscription.id_of_find? hfind
    exact ⟨s, List.mem_filter.mpr ⟨h.mem_openOnes.mpr ⟨hid ▸ hfind, hopen⟩, decide_eq_true hkey⟩,
      hid⟩

/-- A roster lists under each key the open subscriptions made under it, in the order of
subscribing. -/
theorem under_eq_openUnder (h : b.Sound) (key : String) : b.roster.under key = b.openUnder key := by
  -- Both lists ascend, so they are the same as soon as they have the same members.
  have hascending : (b.openUnder key).Pairwise fun i j => i.serial < j.serial :=
    List.pairwise_map.mpr ((h.ascending.filter _).filter _)
  have hnodup : (b.openUnder key).Nodup := by
    rw [List.nodup_iff_pairwise_ne]
    exact hascending.imp fun {i j} hlt (e : i = j) => Nat.lt_irrefl j.serial (e ▸ hlt)
  have hperm : (b.roster.under key).Perm (b.openUnder key) :=
    (List.perm_ext_iff_of_nodup (h.nodup_under key) hnodup).mpr fun id => h.mem_openUnder.symm
  refine hperm.eq_of_pairwise (fun i j _ _ hij hji => ?_) (h.ordered key) hascending
  exact absurd hij (Nat.lt_asymm hji)

theorem nodup_roster (h : b.Sound) : b.roster.ids.Nodup :=
  h.tidy.nodup_ids h.nodup_under fun _ _ _ => h.key_unique

/-- Both parts of a roster together hold each open subscription once, and nothing else. -/
theorem perm_ids (h : b.Sound) : b.roster.ids.Perm (b.openOnes.map (·.id)) := by
  have hnodup : (b.openOnes.map (·.id)).Nodup :=
    h.nodup_ids.sublist (List.filter_sublist.map _)
  refine (List.perm_ext_iff_of_nodup h.nodup_roster hnodup).mpr fun id => ?_
  rw [h.tidy.mem_ids, List.mem_map]
  constructor
  · rintro ⟨key, hid⟩
    obtain ⟨s, hs, rfl⟩ := List.mem_map.mp (h.mem_openUnder.mpr hid)
    exact ⟨s, List.mem_of_mem_filter hs, rfl⟩
  · rintro ⟨s, hs, rfl⟩
    obtain ⟨hfind, hopen⟩ := h.mem_openOnes.mp hs
    exact ⟨s.key, (h.entered _ _).mpr ⟨s, hfind, rfl, hopen⟩⟩

/-! ## Counting a roster -/

/-- The subscribers of a key are the open subscriptions made under it. -/
theorem subscriberCount_eq (h : b.Sound) (key : String) :
    b.subscriberCount key = (b.openOnes.map (·.key)).count key := by
  rw [subscriberCount, Roster.count, h.under_eq_openUnder, openUnder, List.length_map,
    List.count, List.countP_map, List.countP_eq_length_filter]
  rfl

theorem size_eq_length_openOnes (h : b.Sound) : b.roster.size = b.openOnes.length := by
  rw [Roster.size_eq_length_ids, h.perm_ids.length_eq, List.length_map]

/-- The subscribers of all keys, whichever keys are asked for besides those that have any. -/
theorem sum_subscriberCount (h : b.Sound) {keys : Finset String}
    (hkeys : ∀ key, b.subscriberCount key ≠ 0 → key ∈ keys) :
    ∑ key ∈ keys, b.subscriberCount key = b.roster.size := by
  have hsub : (b.openOnes.map (·.key)).toFinset ⊆ keys := fun key hkey => by
    refine hkeys key ?_
    rw [h.subscriberCount_eq]
    exact (List.count_pos_iff.mpr (List.mem_toFinset.mp hkey)).ne'
  have hnone : ∀ key ∈ keys, key ∉ (b.openOnes.map (·.key)).toFinset → b.subscriberCount key = 0 :=
    fun key _ hnot => by
      rw [h.subscriberCount_eq]
      exact List.count_eq_zero.mpr fun hmem => hnot (List.mem_toFinset.mpr hmem)
  rw [← Finset.sum_subset hsub hnone, h.size_eq_length_openOnes,
    Finset.sum_congr rfl fun key _ => h.subscriberCount_eq key,
    List.sum_toFinset_count_eq_length, List.length_map]

end Sound

end Bus

end AgentPulse
