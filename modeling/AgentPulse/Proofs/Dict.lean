import AgentPulse.Dict
import Mathlib.Data.List.Nodup

/-!
# Maps from lists of entries

The map of a list finds under each key the last value that the list has for it (`find?_ofList`). A
list that names no key twice gives the map of its entries, in whichever order it has them
(`ofList_of_perm`, `entries_ofList_perm`), and one that names the same entries again and again gives
each of them once (`entries_ofList_of_mem`). To transform every value commutes with what is stored
and erased (`map_insert`, `map_erase`).
-/

namespace AgentPulse.Dict

universe u

variable {α : Type u} {d : Dict α} {l : List (String × α)} {key : String} {value : α}

theorem insertAll_cons (d : Dict α) (e : String × α) (l : List (String × α)) :
    d.insertAll (e :: l) = (d.insert e.1 e.2).insertAll l := rfl

theorem find?_insertAll_of_not_mem (h : key ∉ l.map (·.1)) :
    (d.insertAll l).find? key = d.find? key := by
  induction l generalizing d with
  | nil => rfl
  | cons e l ih =>
    rw [List.map_cons, List.mem_cons, not_or] at h
    rw [insertAll_cons, ih h.2, find?_insert, if_neg h.1]

theorem find?_insertAll_of_mem (hnodup : (l.map (·.1)).Nodup) (h : (key, value) ∈ l) :
    (d.insertAll l).find? key = some value := by
  induction l generalizing d with
  | nil => cases h
  | cons e l ih =>
    obtain ⟨hkey, hnodup⟩ := List.nodup_cons.mp hnodup
    rcases List.mem_cons.mp h with rfl | h
    · rw [insertAll_cons, find?_insertAll_of_not_mem hkey, find?_insert, if_pos rfl]
    · exact ih hnodup h

theorem lookup_append (key : String) (l l' : List (String × α)) :
    lookup key (l ++ l') = (lookup key l).or (lookup key l') := by
  induction l with
  | nil => rfl
  | cons e l ih =>
    rw [List.cons_append, lookup, lookup, ih]
    split <;> rfl

theorem mem_of_lookup (h : lookup key l = some value) : (key, value) ∈ l := by
  induction l with
  | nil => cases h
  | cons e l ih =>
    rw [lookup] at h
    split at h
    next hkey =>
      cases h
      rw [← hkey]
      exact List.mem_cons_self
    next => exact List.mem_cons_of_mem _ (ih h)

theorem lookup_eq_none_iff : lookup key l = none ↔ key ∉ l.map (·.1) := by
  induction l with
  | nil => simp [lookup]
  | cons e l ih =>
    rw [lookup, List.map_cons, List.mem_cons, not_or]
    split
    next hkey => simp [hkey]
    next hkey => exact ih.trans ⟨fun h => ⟨Ne.symm hkey, h⟩, And.right⟩

/-- If all entries of a key have one value, this is found. -/
theorem lookup_of_forall (hmem : (key, value) ∈ l) (h : ∀ v, (key, v) ∈ l → v = value) :
    lookup key l = some value := by
  cases hl : lookup key l with
  | some v => rw [h v (mem_of_lookup hl)]
  | none => exact absurd (List.mem_map_of_mem hmem) (lookup_eq_none_iff.mp hl)

theorem lookup_of_mem (hnodup : (l.map (·.1)).Nodup) (hmem : (key, value) ∈ l) :
    lookup key l = some value :=
  lookup_of_forall hmem fun _ hv =>
    congrArg Prod.snd (List.inj_on_of_nodup_map hnodup hv hmem rfl)

/-- A map finds the last of the values that are stored under a key, or else what was there. -/
theorem find?_insertAll (d : Dict α) (l : List (String × α)) (key : String) :
    (d.insertAll l).find? key = (lookup key l.reverse).or (d.find? key) := by
  induction l generalizing d with
  | nil => rfl
  | cons e l ih =>
    rw [insertAll_cons, ih, find?_insert, List.reverse_cons, lookup_append, Option.or_assoc, lookup]
    by_cases hkey : e.1 = key
    · rw [if_pos hkey, if_pos hkey.symm]
      rfl
    · rw [if_neg hkey, if_neg (Ne.symm hkey)]
      rfl

/-- The map of some entries finds the last value under a key. -/
theorem find?_ofList (l : List (String × α)) (key : String) :
    (ofList l).find? key = lookup key l.reverse :=
  (find?_insertAll empty l key).trans Option.or_none

/-- With no key twice there is no last value to look for. -/
theorem find?_ofList_of_nodup (hnodup : (l.map (·.1)).Nodup) (key : String) :
    (ofList l).find? key = lookup key l := by
  cases hl : lookup key l with
  | some value => exact find?_insertAll_of_mem hnodup (mem_of_lookup hl)
  | none => exact find?_insertAll_of_not_mem (lookup_eq_none_iff.mp hl)

/-- Two lists in the order of their keys are the same if they have the same entries. -/
theorem eq_of_mem_iff {l' : List (String × α)} (hl : l.Pairwise fun d e => d.1 < e.1)
    (hl' : l'.Pairwise fun d e => d.1 < e.1)
    (h : ∀ key value, (key, value) ∈ l ↔ (key, value) ∈ l') : l = l' :=
  eq_of_lookup_eq hl hl' fun key => Option.ext fun value => by
    rw [← mem_iff_lookup hl, ← mem_iff_lookup hl', h]

/-- However often its entries are named, a map that is put together of them has each of them once
and in order. -/
theorem entries_ofList_of_mem {l' : List (String × α)} (hl' : l'.Pairwise fun d e => d.1 < e.1)
    (h : ∀ e, e ∈ l ↔ e ∈ l') : (ofList l).entries = l' := by
  refine eq_of_mem_iff (ofList l).ascending hl' fun key value => ?_
  rw [mem_entries, find?_ofList, ← h]
  constructor
  · exact fun hvalue => List.mem_reverse.mp (mem_of_lookup hvalue)
  · intro hmem
    refine lookup_of_forall (List.mem_reverse.mpr hmem) fun other hother => ?_
    have hvalue := (mem_iff_lookup hl').mp ((h _).mp hmem)
    have hlookup := (mem_iff_lookup hl').mp ((h _).mp (List.mem_reverse.mp hother))
    exact Option.some.inj (hlookup.symm.trans hvalue)

/-- The entries of a map, in any order, give the map. -/
theorem ofList_of_perm (h : l.Perm d.entries) : ofList l = d := by
  have hnodup : (l.map (·.1)).Nodup := (h.map _).nodup_iff.mpr d.keys_nodup
  refine ext_find? fun key => ?_
  cases hfind : d.find? key with
  | some value => exact find?_insertAll_of_mem hnodup (h.mem_iff.mpr (mem_entries.mpr hfind))
  | none =>
    refine find?_insertAll_of_not_mem fun hmem => ?_
    have hkey : key ∈ d.keys := (h.map _).mem_iff.mp hmem
    rw [mem_keys, hfind] at hkey
    cases hkey

@[simp] theorem ofList_entries (d : Dict α) : ofList d.entries = d := ofList_of_perm (.refl _)

theorem nodup_of_keys (h : (l.map (·.1)).Nodup) : l.Nodup :=
  List.Pairwise.of_map (·.1) (fun _ _ hne e => hne (congrArg (·.1) e)) h

/-- A map has the entries of the list it comes from, if that names no key twice. -/
theorem entries_ofList_perm (hnodup : (l.map (·.1)).Nodup) : (ofList l).entries.Perm l := by
  have hentries : (ofList l).entries.Nodup := nodup_of_keys (ofList l).keys_nodup
  refine (List.perm_ext_iff_of_nodup hentries (nodup_of_keys hnodup)).mpr fun ⟨key, value⟩ => ?_
  rw [mem_entries]
  constructor
  · intro hfind
    by_cases hkey : key ∈ l.map (·.1)
    · obtain ⟨⟨key, value'⟩, hmem, rfl⟩ := List.mem_map.mp hkey
      have hsame : some value = some value' :=
        hfind.symm.trans (find?_insertAll_of_mem hnodup hmem)
      rwa [Option.some.inj hsame]
    · have hnone : (ofList l).find? key = none := find?_insertAll_of_not_mem hkey
      rw [hnone] at hfind
      cases hfind
  · exact fun hmem => find?_insertAll_of_mem hnodup hmem

/-- Values under different keys can be stored in any order. -/
theorem insert_comm {key other : String} (h : key ≠ other) (d : Dict α) (value value' : α) :
    (d.insert key value).insert other value' = (d.insert other value').insert key value := by
  refine ext_find? fun k => ?_
  simp only [find?_insert]
  by_cases hother : k = other
  · rw [if_pos hother, if_neg fun hkey => h (hkey.symm.trans hother), if_pos hother]
  · rw [if_neg hother, if_neg hother]

/-- There is nothing to forget under a key that finds nothing. -/
theorem erase_of_find?_eq_none (h : d.find? key = none) : d.erase key = d := by
  refine ext_find? fun other => ?_
  rw [find?_erase]
  split
  next hother => rw [hother, h]
  next => rfl

theorem isEmpty_iff : d.isEmpty = true ↔ d = empty :=
  ⟨fun h => ext_entries (List.isEmpty_iff.mp h), fun h => h ▸ rfl⟩

/-! ## Values transformed -/

section

variable {β : Type u} (f : α → β) (d : Dict α)

theorem lookup_map (key : String) (l : List (String × α)) :
    lookup key (l.map fun e => (e.1, f e.2)) = (lookup key l).map f := by
  induction l with
  | nil => rfl
  | cons e l ih =>
    rw [List.map_cons, lookup, lookup]
    split
    · rfl
    · exact ih

theorem find?_map (key : String) : (d.map f).find? key = (d.find? key).map f :=
  lookup_map f key d.entries

theorem map_insert (key : String) (value : α) :
    (d.insert key value).map f = (d.map f).insert key (f value) := by
  refine ext_find? fun other => ?_
  rw [find?_map, find?_insert, find?_insert, find?_map]
  split <;> rfl

theorem map_erase (key : String) : (d.erase key).map f = (d.map f).erase key := by
  refine ext_find? fun other => ?_
  rw [find?_map, find?_erase, find?_erase, find?_map]
  split <;> rfl

end

end AgentPulse.Dict
