/-!
# Finite maps from names, in key order

A `Dict` is a list of entries whose keys ascend strictly, so a map has one representation and
walking it visits keys in order. Strings are ordered by code point, which is also the order of
their UTF-8 bytes.

Main statements: `find?_insert` and `find?_erase` (each operation touches its own key and no
other), `ext_find?` (a map is determined by what it finds).
-/

namespace AgentPulse

universe u

/-- A finite map from strings, its entries in strictly ascending key order. -/
structure Dict (α : Type u) where
  /-- The entries, in key order. -/
  entries : List (String × α) := []
  /-- Keys ascend strictly, so no key occurs twice. -/
  ascending : entries.Pairwise (fun a b => a.1 < b.1) := by exact List.Pairwise.nil

namespace Dict

variable {α : Type u}

/-- The map with no entries. -/
def empty : Dict α := {}

instance : Inhabited (Dict α) := ⟨empty⟩

/-! ## Entry lists -/

/-- The value stored under a key in a list of entries. -/
def lookup (key : String) : List (String × α) → Option α
  | [] => none
  | (k, v) :: rest => if k = key then some v else lookup key rest

/-- Place an entry where its key belongs, in the stead of an entry with the same key. -/
def place (key : String) (value : α) : List (String × α) → List (String × α)
  | [] => [(key, value)]
  | (k, v) :: rest =>
    if key < k then (key, value) :: (k, v) :: rest
    else if key = k then (key, value) :: rest
    else (k, v) :: place key value rest

/-- Every entry but the ones under a key. -/
def without (key : String) : List (String × α) → List (String × α)
  | [] => []
  | (k, v) :: rest => if k = key then without key rest else (k, v) :: without key rest

theorem mem_place {key : String} {value : α} {e : String × α} {l : List (String × α)} :
    e ∈ place key value l → e = (key, value) ∨ e ∈ l := by
  induction l with
  | nil => simp [place]
  | cons hd tl ih =>
    obtain ⟨k, v⟩ := hd
    simp only [place]
    split
    · simp
    · split
      · simp only [List.mem_cons]; rintro (h | h) <;> simp [h]
      · simp only [List.mem_cons]
        rintro (h | h)
        · simp [h]
        · rcases ih h with h | h <;> simp [h]

theorem place_ascending {key : String} {value : α} {l : List (String × α)}
    (h : l.Pairwise (fun a b => a.1 < b.1)) :
    (place key value l).Pairwise (fun a b => a.1 < b.1) := by
  induction l with
  | nil => simp [place]
  | cons hd tl ih =>
    obtain ⟨k, v⟩ := hd
    rw [List.pairwise_cons] at h
    simp only [place]
    split
    · rename_i lt
      refine List.pairwise_cons.2 ⟨?_, List.pairwise_cons.2 h⟩
      intro e he
      rcases List.mem_cons.1 he with rfl | he
      · exact lt
      · exact String.lt_trans lt (h.1 e he)
    · split
      · rename_i eq
        subst eq
        exact List.pairwise_cons.2 ⟨fun e he => h.1 e he, h.2⟩
      · rename_i nlt ne
        refine List.pairwise_cons.2 ⟨?_, ih h.2⟩
        intro e he
        rcases mem_place he with rfl | he
        · rcases Std.lt_trichotomy (a := key) (b := k) with c | c | c
          · exact absurd c nlt
          · exact absurd c ne
          · exact c
        · exact h.1 e he

theorem without_sublist (key : String) (l : List (String × α)) : (without key l).Sublist l := by
  induction l with
  | nil => exact List.Sublist.slnil
  | cons hd tl ih =>
    simp only [without]
    split
    · exact ih.cons _
    · exact ih.cons_cons _

theorem without_ascending {key : String} {l : List (String × α)}
    (h : l.Pairwise (fun a b => a.1 < b.1)) :
    (without key l).Pairwise (fun a b => a.1 < b.1) :=
  h.sublist (without_sublist key l)

/-! ## Operations -/

/-- The value stored under a key. -/
def find? (d : Dict α) (key : String) : Option α := lookup key d.entries

/-- Whether a key has a value. -/
def contains (d : Dict α) (key : String) : Bool := (d.find? key).isSome

/-- Store a value under a key, in the stead of the one already there. -/
def insert (d : Dict α) (key : String) (value : α) : Dict α :=
  ⟨place key value d.entries, place_ascending d.ascending⟩

/-- Forget a key. -/
def erase (d : Dict α) (key : String) : Dict α :=
  ⟨without key d.entries, without_ascending d.ascending⟩

/-- The keys, ascending. -/
def keys (d : Dict α) : List String := d.entries.map (·.1)

/-- The values, in key order. -/
def values (d : Dict α) : List α := d.entries.map (·.2)

/-- How many keys have a value. -/
def size (d : Dict α) : Nat := d.entries.length

/-- Whether no key has a value. -/
def isEmpty (d : Dict α) : Bool := d.entries.isEmpty

/-- Store entries one after the other, so that the last one under a key stays. -/
def insertAll (d : Dict α) (l : List (String × α)) : Dict α :=
  l.foldl (fun d e => d.insert e.1 e.2) d

/-- The map holding the given entries; under a repeated key the last value stays. -/
def ofList (l : List (String × α)) : Dict α := empty.insertAll l

/-- The same keys with every value transformed. -/
def map {β : Type u} (f : α → β) (d : Dict α) : Dict β :=
  ⟨d.entries.map (fun e => (e.1, f e.2)), List.pairwise_map.2 d.ascending⟩

/-! ## Laws -/

theorem ext_entries {a b : Dict α} (h : a.entries = b.entries) : a = b := by
  cases a; cases b; cases h; rfl

instance [DecidableEq α] : DecidableEq (Dict α) := fun a b =>
  decidable_of_iff (a.entries = b.entries) ⟨ext_entries, fun h => by rw [h]⟩

theorem lookup_place (key other : String) (value : α) (l : List (String × α)) :
    lookup other (place key value l) = if other = key then some value else lookup other l := by
  induction l with
  | nil => simp [place, lookup, eq_comm]
  | cons hd tl ih =>
    obtain ⟨k, v⟩ := hd
    simp only [place]
    split
    · simp only [lookup, eq_comm]
    · split
      · rename_i eq
        subst eq
        by_cases h : other = key
        · subst h; simp [lookup]
        · simp [lookup, h, Ne.symm h]
      · rename_i nlt ne
        simp only [lookup, ih]
        by_cases hk : k = other
        · subst hk; simp [Ne.symm ne]
        · simp [hk]

theorem lookup_without (key other : String) (l : List (String × α)) :
    lookup other (without key l) = if other = key then none else lookup other l := by
  induction l with
  | nil => simp [without, lookup]
  | cons hd tl ih =>
    obtain ⟨k, v⟩ := hd
    by_cases hk : k = key
    · subst hk
      by_cases ho : other = k
      · subst ho; simp [without, ih]
      · simp [without, lookup, ih, ho, Ne.symm ho]
    · by_cases ho : other = key
      · subst ho; simp [without, lookup, ih, hk]
      · simp [without, lookup, ih, hk, ho]

@[simp] theorem find?_empty (key : String) : (empty : Dict α).find? key = none := rfl

/-- Storing under a key is seen under that key and no other. -/
theorem find?_insert (d : Dict α) (key other : String) (value : α) :
    (d.insert key value).find? other = if other = key then some value else d.find? other :=
  lookup_place key other value d.entries

/-- Forgetting a key is seen under that key and no other. -/
theorem find?_erase (d : Dict α) (key other : String) :
    (d.erase key).find? other = if other = key then none else d.find? other :=
  lookup_without key other d.entries

theorem lookup_eq_none_of_lt {key : String} {l : List (String × α)}
    (h : ∀ e ∈ l, key < e.1) : lookup key l = none := by
  induction l with
  | nil => rfl
  | cons hd tl ih =>
    obtain ⟨k, v⟩ := hd
    have hk : k ≠ key := fun e => String.lt_irrefl key (e ▸ h (k, v) List.mem_cons_self)
    simp only [lookup, if_neg hk]
    exact ih fun e he => h e (List.mem_cons_of_mem _ he)

theorem mem_iff_lookup {key : String} {value : α} {l : List (String × α)}
    (h : l.Pairwise (fun a b => a.1 < b.1)) : (key, value) ∈ l ↔ lookup key l = some value := by
  induction l with
  | nil => simp [lookup]
  | cons hd tl ih =>
    obtain ⟨k, v⟩ := hd
    rw [List.pairwise_cons] at h
    by_cases hk : k = key
    · subst hk
      have : (k, value) ∉ tl := fun m => String.lt_irrefl k (h.1 _ m)
      simp [lookup, this, eq_comm]
    · simp [lookup, hk, ih h.2, Ne.symm hk]

/-- An entry is stored exactly when its key finds its value. -/
theorem mem_entries {d : Dict α} {key : String} {value : α} :
    (key, value) ∈ d.entries ↔ d.find? key = some value :=
  mem_iff_lookup d.ascending

/-- A key is listed exactly when it has a value. -/
theorem mem_keys {d : Dict α} {key : String} : key ∈ d.keys ↔ (d.find? key).isSome := by
  simp only [keys, List.mem_map, Prod.exists, exists_and_right, exists_eq_right,
    Option.isSome_iff_exists]
  exact ⟨fun ⟨v, h⟩ => ⟨v, mem_entries.1 h⟩, fun ⟨v, h⟩ => ⟨v, mem_entries.2 h⟩⟩

theorem keys_ascending (d : Dict α) : d.keys.Pairwise (· < ·) :=
  List.pairwise_map.2 d.ascending

theorem keys_nodup (d : Dict α) : d.keys.Nodup :=
  List.nodup_iff_pairwise_ne.2 <| d.keys_ascending.imp fun {a b} (h : a < b) (e : a = b) =>
    String.lt_irrefl b (e ▸ h)

theorem eq_of_lookup_eq {a b : List (String × α)}
    (ha : a.Pairwise (fun x y => x.1 < y.1)) (hb : b.Pairwise (fun x y => x.1 < y.1))
    (h : ∀ key, lookup key a = lookup key b) : a = b := by
  induction a generalizing b with
  | nil =>
    cases b with
    | nil => rfl
    | cons hd tl => have := h hd.1; simp [lookup] at this
  | cons x xs ih =>
    obtain ⟨k, v⟩ := x
    cases b with
    | nil => have := h k; simp [lookup] at this
    | cons y ys =>
      obtain ⟨k', v'⟩ := y
      rw [List.pairwise_cons] at ha hb
      have key_eq : k = k' := by
        rcases Std.lt_trichotomy (a := k) (b := k') with c | c | c
        · have := h k
          rw [lookup_eq_none_of_lt (l := (k', v') :: ys)] at this
          · simp [lookup] at this
          · intro e he
            rcases List.mem_cons.1 he with rfl | he
            · exact c
            · exact String.lt_trans c (hb.1 e he)
        · exact c
        · have := h k'
          rw [lookup_eq_none_of_lt (l := (k, v) :: xs)] at this
          · simp [lookup] at this
          · intro e he
            rcases List.mem_cons.1 he with rfl | he
            · exact c
            · exact String.lt_trans c (ha.1 e he)
      subst key_eq
      have value_eq : v = v' := by have := h k; simpa [lookup] using this
      subst value_eq
      congr 1
      refine ih ha.2 hb.2 fun key => ?_
      by_cases hk : k = key
      · subst hk
        rw [lookup_eq_none_of_lt ha.1, lookup_eq_none_of_lt hb.1]
      · have := h key
        simpa [lookup, hk] using this

/-- Maps that find the same are the same. -/
theorem ext_find? {a b : Dict α} (h : ∀ key, a.find? key = b.find? key) : a = b :=
  ext_entries (eq_of_lookup_eq a.ascending b.ascending h)

theorem size_eq_length_keys (d : Dict α) : d.size = d.keys.length := by simp [size, keys]

end Dict

end AgentPulse
