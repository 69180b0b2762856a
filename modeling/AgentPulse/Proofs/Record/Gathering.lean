import AgentPulse.Proofs.Record.Reading
import AgentPulse.Proofs.Readings

/-!
# Members as entries

What a member of an object comes to does not depend on the members before it: its name is refused or
passed over, or it is a field, whose value can be read or not. Only then it counts whether the field
has been read already. So an object is gathered by going through its `Entry`s (`gather_eq`,
`gatherNodes_eq`). If readings that are refused are not told apart, entries may come in any order
(`toOption_gatherAll_perm`), and two of one field are always refused (`gatherAll_of_two`). Entries
around that of a field have no part in what is read there (`gatherAll_field`).
-/

namespace AgentPulse.Record

open Json (Node Break)

theorem toOption_ofContent {α : Type} (r : Except Mistake α) :
    (ofContent r).toOption = r.toOption := toOption_mapError r _

theorem toOption_ofForm {α : Type} (r : Except Json.Fault α) :
    (ofForm r).toOption = r.toOption := toOption_mapError r _

theorem ofContent_eq_ok {α : Type} {r : Except Mistake α} {x : α} :
    ofContent r = .ok x ↔ r = .ok x := by
  rw [← toOption_eq_some, toOption_ofContent, toOption_eq_some]

/-- A node in the place of something else is refused, whatever the reason. -/
theorem toOption_mismatchNode {α : Type} (n : Node) (expected : String) :
    (mismatchNode n expected : Except ReadError α).toOption = none := by
  cases n with
  | null | boolean | array | object | broken => rfl
  | number n =>
    rw [mismatchNode, toOption_bind]
    cases (ofForm (Node.readNumber n)).toOption <;> rfl
  | text units =>
    rw [mismatchNode, toOption_bind]
    cases (ofForm (Json.readText units)).toOption <;> rfl

theorem ne_ok_of_mismatch {α : Type} {r : Except ReadError α} {n : Node} {expected : String}
    (h : r = mismatchNode n expected) (x : α) : r ≠ .ok x := fun hok => by
  have hnone := toOption_mismatchNode (α := α) n expected
  rw [← h, hok] at hnone
  cases hnone

/-! ## Two lists side by side -/

section Lists

variable {α β : Type} {l l' : List α} {m m' : List β}

theorem drop_append_cons (h : l.length = m.length) (a : α) (b : β) :
    (l ++ a :: l').drop (m ++ b :: m').length = l'.drop m'.length := by
  rw [List.length_append, ← h, List.drop_length_add_append, List.length_cons,
    List.drop_succ_cons]

theorem drop_eq_nil_or (l : List α) (m : List β) :
    l.drop m.length = [] ∨ m.drop l.length = [] := by
  rcases Nat.le_total l.length m.length with h | h
  · exact Or.inl (List.drop_eq_nil_of_le h)
  · exact Or.inr (List.drop_eq_nil_of_le h)

end Lists

/-! ## Drafts -/

namespace Draft

variable {ι : Type} {τ : ι → Type} [DecidableEq ι] {i k : ι}

theorem set_self (d : Draft ι τ) (i : ι) (x : τ i) : d.set i x i = some x := dif_pos rfl

theorem set_set (d : Draft ι τ) (i : ι) (x y : τ i) : (d.set i x).set i y = d.set i y := by
  funext l
  unfold set
  by_cases hi : i = l
  · rw [dif_pos hi, dif_pos hi]
  · rw [dif_neg hi, dif_neg hi, dif_neg hi]

theorem set_comm (h : i ≠ k) (d : Draft ι τ) (x : τ i) (y : τ k) :
    (d.set i x).set k y = (d.set k y).set i x := by
  funext l
  unfold set
  by_cases hi : i = l
  · by_cases hk : k = l
    · exact absurd (hi.trans hk.symm) h
    · rw [dif_neg hk, dif_pos hi, dif_pos hi]
  · rw [dif_neg hi, dif_neg hi]

/-- One more field read, unless it has been read already. -/
def put (d : Draft ι τ) (i : ι) (x : τ i) : Option (Draft ι τ) :=
  if (d i).isSome then none else some (d.set i x)

theorem put_put_self (d : Draft ι τ) (i : ι) (x y : τ i) :
    (d.put i x).bind (·.put i y) = none := by
  unfold put
  split
  · rfl
  · rw [Option.bind_some, set_self]
    rfl

theorem put_comm (h : i ≠ k) (d : Draft ι τ) (x : τ i) (y : τ k) :
    (d.put i x).bind (·.put k y) = (d.put k y).bind (·.put i x) := by
  unfold put
  by_cases hi : (d i).isSome
  · by_cases hk : (d k).isSome
    · rw [if_pos hi, if_pos hk]
      rfl
    · rw [if_pos hi, if_neg hk, Option.bind_none, Option.bind_some, set_of_ne h.symm, if_pos hi]
  · by_cases hk : (d k).isSome
    · rw [if_neg hi, if_pos hk, Option.bind_some, Option.bind_none, set_of_ne h, if_pos hk]
    · rw [if_neg hi, if_neg hk, Option.bind_some, Option.bind_some, set_of_ne h, set_of_ne h.symm,
        if_neg hi, if_neg hk, set_comm h]

end Draft

/-! ## Entries -/

/-- What a member comes to, whatever was read before it. -/
inductive Entry (ε : Type) {ι : Type} (τ : ι → Type) where
  | refused (e : ε)
  | passed
  | field (i : ι) (r : Except ε (τ i))

namespace Entry

variable {ε ι : Type} {τ : ι → Type} [DecidableEq ι] {twice : ι → ε} {d d' : Draft ι τ} {i : ι}
  {x : τ i}

/-- One more entry. A field that has been read already is refused before it is read again. -/
def gather (twice : ι → ε) (d : Draft ι τ) : Entry ε τ → Except ε (Draft ι τ)
  | .refused e => .error e
  | .passed => .ok d
  | .field i r => if (d i).isSome then .error (twice i) else r.map (d.set i)

/-- Entries one after the other. -/
def gatherAll (twice : ι → ε) (d : Draft ι τ) (l : List (Entry ε τ)) : Except ε (Draft ι τ) :=
  l.foldlM (gather twice) d

theorem gatherAll_cons (e : Entry ε τ) (l : List (Entry ε τ)) :
    gatherAll twice d (e :: l) = e.gather twice d >>= (gatherAll twice · l) := List.foldlM_cons

theorem gatherAll_append (l more : List (Entry ε τ)) :
    gatherAll twice d (l ++ more) = gatherAll twice d l >>= (gatherAll twice · more) :=
  List.foldlM_append

/-- One more entry, without a reason if it is refused. -/
def take (d : Draft ι τ) : Entry ε τ → Option (Draft ι τ)
  | .refused _ => none
  | .passed => some d
  | .field i r => r.toOption.bind (d.put i)

theorem toOption_gather (e : Entry ε τ) (d : Draft ι τ) :
    (e.gather twice d).toOption = e.take d := by
  cases e with
  | refused e => rfl
  | passed => rfl
  | field i r =>
    rw [gather, take]
    by_cases hread : (d i).isSome
    · cases r <;> simp [hread, Draft.put, Except.toOption]
    · cases r <;> simp [hread, Draft.put, Except.toOption, Except.map]

theorem toOption_gatherAll (l : List (Entry ε τ)) (d : Draft ι τ) :
    (gatherAll twice d l).toOption = l.foldlM take d := by
  rw [gatherAll, toOption_foldlM]
  exact congrArg (fun f => List.foldlM f d l) (funext fun d => funext fun e => toOption_gather e d)

theorem take_comm (d : Draft ι τ) (a b : Entry ε τ) :
    (a.take d).bind b.take = (b.take d).bind a.take := by
  cases a with
  | refused e => cases b <;> simp [take]
  | passed => cases b <;> simp [take]
  | field i r =>
    cases b with
    | refused e => simp [take]
    | passed => simp [take]
    | field k r' =>
      simp only [take]
      cases r with
      | error e => simp [Except.toOption]
      | ok x =>
        cases r' with
        | error e => simp [Except.toOption]
        | ok y =>
          by_cases hik : i = k
          · subst hik
            exact (Draft.put_put_self d i x y).trans (Draft.put_put_self d i y x).symm
          · exact Draft.put_comm hik d x y

/-- Entries may come in any order. -/
theorem toOption_gatherAll_perm {l l' : List (Entry ε τ)} (h : l.Perm l') (d : Draft ι τ) :
    (gatherAll twice d l).toOption = (gatherAll twice d l').toOption := by
  rw [toOption_gatherAll, toOption_gatherAll]
  exact foldlM_perm (R := fun _ _ => True) (fun _ => trivial) (fun d a b _ => take_comm d a b) h
    (List.pairwise_of_forall fun _ _ => trivial) d

theorem gatherAll_of_forall_passed {l : List (Entry ε τ)} (h : ∀ e ∈ l, e = .passed) :
    gatherAll twice d l = .ok d := by
  induction l with
  | nil => rfl
  | cons e l ih =>
    rw [gatherAll_cons, h e List.mem_cons_self]
    exact ih fun e he => h e (List.mem_cons_of_mem _ he)

/-- Entries that are passed over may stand anywhere. -/
theorem toOption_gatherAll_passed {l l' extra : List (Entry ε τ)} (h : l'.Perm (l ++ extra))
    (hextra : ∀ e ∈ extra, e = .passed) (d : Draft ι τ) :
    (gatherAll twice d l').toOption = (gatherAll twice d l).toOption := by
  rw [toOption_gatherAll_perm h, gatherAll_append, toOption_bind]
  simp only [gatherAll_of_forall_passed hextra]
  exact Option.bind_fun_some _

/-- One entry that is refused is enough. -/
theorem gatherAll_of_refused {l : List (Entry ε τ)} {e : ε} (h : .refused e ∈ l) (d : Draft ι τ) :
    (gatherAll twice d l).toOption = none := by
  obtain ⟨before, after, rfl⟩ := List.append_of_mem h
  rw [toOption_gatherAll_perm List.perm_middle, gatherAll_cons, toOption_bind]
  rfl

/-- A field that stands at two places is refused, whatever is read there. -/
theorem gatherAll_of_two {l rest : List (Entry ε τ)} {r r' : Except ε (τ i)}
    (h : l.Perm (.field i r :: .field i r' :: rest)) (d : Draft ι τ) :
    (gatherAll twice d l).toOption = none := by
  rw [toOption_gatherAll_perm h, toOption_gatherAll]
  show (take d (.field i r)).bind (fun d => (take d (.field i r')).bind _) = none
  have htwo : (take d (.field i r)).bind (take · (.field i r')) = none := by
    simp only [take]
    cases r with
    | error e => rfl
    | ok x =>
      cases r' with
      | error e => exact Option.bind_fun_none _
      | ok y => exact Draft.put_put_self d i x y
  rw [← Option.bind_assoc, htwo]
  rfl

/-! ### What is read -/

section

variable {P : (i : ι) → τ i → Prop}

theorem gather_forall {e : Entry ε τ} (he : ∀ i x, e = .field i (.ok x) → P i x)
    (hd : ∀ i x, d i = some x → P i x) (h : e.gather twice d = .ok d') :
    ∀ i x, d' i = some x → P i x := by
  cases e with
  | refused e => cases h
  | passed =>
    cases h
    exact hd
  | field k r =>
    rw [gather] at h
    split at h
    next => cases h
    next =>
      cases r with
      | error e => cases h
      | ok y =>
        cases h
        intro i x hx
        by_cases hi : k = i
        · subst hi
          rw [Draft.set_self] at hx
          obtain rfl : y = x := Option.some.inj hx
          exact he k y rfl
        · rw [Draft.set_of_ne hi] at hx
          exact hd i x hx

/-- What holds of the values of all entries holds of the fields that are read. -/
theorem gatherAll_forall {l : List (Entry ε τ)} (hl : ∀ i x, .field i (.ok x) ∈ l → P i x)
    (hd : ∀ i x, d i = some x → P i x) (h : gatherAll twice d l = .ok d') :
    ∀ i x, d' i = some x → P i x := by
  induction l generalizing d with
  | nil =>
    cases h
    exact hd
  | cons e l ih =>
    rw [gatherAll_cons] at h
    obtain ⟨d₁, he, hrest⟩ := bind_eq_ok.mp h
    have hhead := gather_forall (fun i x heq => hl i x (heq ▸ List.mem_cons_self)) hd he
    exact ih (fun i x hx => hl i x (List.mem_cons_of_mem _ hx)) hhead hrest

end

/-! ### One field among others -/

theorem gather_of_read {e : Entry ε τ} (hd : d i = some x) (h : e.gather twice d = .ok d') :
    d' i = some x := by
  cases e with
  | refused e => cases h
  | passed =>
    cases h
    exact hd
  | field k r =>
    rw [gather] at h
    split at h
    next => cases h
    next hread =>
      cases r with
      | error e => cases h
      | ok y =>
        cases h
        have hne : k ≠ i := by
          rintro rfl
          rw [hd] at hread
          exact hread rfl
        rw [Draft.set_of_ne hne]
        exact hd

/-- What has been read of a field has no part in what is read elsewhere. -/
theorem gather_set (e : Entry ε τ) (hd : d i = some x) (y : τ i) :
    e.gather twice (d.set i y) = (e.gather twice d).map (·.set i y) := by
  cases e with
  | refused e => rfl
  | passed => rfl
  | field k r =>
    rw [gather, gather]
    by_cases hk : i = k
    · subst hk
      rw [Draft.set_self, hd]
      rfl
    · rw [Draft.set_of_ne hk]
      split
      · rfl
      · cases r with
        | error e => rfl
        | ok z => exact congrArg Except.ok (Draft.set_comm hk d y z)

theorem gatherAll_of_read {l : List (Entry ε τ)} (hd : d i = some x)
    (h : gatherAll twice d l = .ok d') : d' i = some x := by
  induction l generalizing d with
  | nil =>
    cases h
    exact hd
  | cons e l ih =>
    rw [gatherAll_cons] at h
    obtain ⟨d₁, he, hl⟩ := bind_eq_ok.mp h
    exact ih (gather_of_read hd he) hl

theorem gatherAll_set (l : List (Entry ε τ)) (hd : d i = some x) (y : τ i) :
    gatherAll twice (d.set i y) l = (gatherAll twice d l).map (·.set i y) := by
  induction l generalizing d with
  | nil => rfl
  | cons e l ih =>
    rw [gatherAll_cons, gatherAll_cons, gather_set e hd]
    cases he : e.gather twice d with
    | error e => rfl
    | ok d₁ => exact ih (gather_of_read hd he)

/-- When all entries are accepted with some value for a field, then with any other value they give
the same but for this value, and if the value is refused, that is what they are refused for. -/
theorem gatherAll_field {before after : List (Entry ε τ)} {r₀ : Except ε (τ i)}
    (h : gatherAll twice d (before ++ .field i r₀ :: after) = .ok d') :
    (∃ x, r₀ = .ok x ∧ d' i = some x) ∧
      ∀ r, gatherAll twice d (before ++ .field i r :: after) = r.map (d'.set i) := by
  rw [gatherAll_append] at h
  obtain ⟨d₁, hbefore, h⟩ := bind_eq_ok.mp h
  rw [gatherAll_cons] at h
  obtain ⟨d₂, hfield, hafter⟩ := bind_eq_ok.mp h
  rw [gather] at hfield
  split at hfield
  next => cases hfield
  next hread =>
    cases r₀ with
    | error e => cases hfield
    | ok x =>
      cases hfield
      refine ⟨⟨x, rfl, gatherAll_of_read (Draft.set_self d₁ i x) hafter⟩, fun r => ?_⟩
      rw [gatherAll_append, hbefore]
      show gatherAll twice d₁ (.field i r :: after) = _
      rw [gatherAll_cons, gather, if_neg hread]
      cases r with
      | error e => rfl
      | ok y =>
        show gatherAll twice (d₁.set i y) after = .ok (d'.set i y)
        rw [← Draft.set_set d₁ i x y, gatherAll_set after (Draft.set_self d₁ i x), hafter]
        rfl

end Entry

/-! ## Objects -/

namespace Shape

variable {ι : Type} {τ : ι → Type} {s : Shape ι τ}

theorem name_of_tag? {name : String} {i : ι} (h : s.tag? name = some i) : s.name i = name :=
  beq_iff_eq.mp (List.find?_some (p := fun i => s.name i == name) h)

/-- What a member of a value comes to. -/
def entry (s : Shape ι τ) (m : String × Json) : Entry Mistake τ :=
  match s.tag? m.1 with
  | none => if s.isClosed then .refused (s.unknown m.1) else .passed
  | some i => .field i ((s.field i).ofJson m.2)

/-- What a member of a document comes to once its name has been read. -/
def namedEntry (s : Shape ι τ) (levels : Nat) (key : String) (n : Node) : Entry ReadError τ :=
  match s.tag? key with
  | none =>
    if s.isClosed then .refused (.content (s.unknown key))
    else match n.skip with
      | .error e => .refused (.form e)
      | .ok _ => .passed
  | some i => .field i ((s.field i).ofNode levels n)

/-- What a member of a document comes to. -/
def nodeEntry (s : Shape ι τ) (levels : Nat) (m : Node × Node) : Entry ReadError τ :=
  match m.1.readName with
  | .error e => .refused (.form e)
  | .ok key => s.namedEntry levels key m.2

theorem nodeEntry_of_ok {m : Node × Node} {key : String} (h : m.1.readName = .ok key)
    (levels : Nat) : s.nodeEntry levels m = s.namedEntry levels key m.2 := by
  rw [nodeEntry, h]

theorem namedEntry_of_some {key : String} {i : ι} (h : s.tag? key = some i) (levels : Nat)
    (n : Node) : s.namedEntry levels key n = .field i ((s.field i).ofNode levels n) := by
  rw [namedEntry, h]

theorem namedEntry_of_none {key : String} (h : s.tag? key = none) (levels : Nat) (n : Node) :
    s.namedEntry levels key n = if s.isClosed then .refused (.content (s.unknown key))
      else match n.skip with
        | .error e => .refused (.form e)
        | .ok _ => .passed := by
  rw [namedEntry, h]

/-- A member that is a field has its name, and whatever is read of the field is read off the value
of the member. -/
theorem of_nodeEntry_eq_field {levels : Nat} {m : Node × Node} {i : ι} {r : Except ReadError (τ i)}
    (h : s.nodeEntry levels m = .field i r) :
    m.1.readName = .ok (s.name i) ∧ r = (s.field i).ofNode levels m.2 := by
  cases hname : m.1.readName with
  | error e =>
    rw [nodeEntry, hname] at h
    cases h
  | ok key =>
    rw [nodeEntry_of_ok hname] at h
    cases htag : s.tag? key with
    | none =>
      rw [namedEntry_of_none htag] at h
      split at h
      next => cases h
      next =>
        split at h
        next => cases h
        next => cases h
    | some k =>
      rw [namedEntry_of_some htag] at h
      cases h
      exact ⟨congrArg _ (name_of_tag? htag).symm, rfl⟩

/-- What the items of an array come to, field after field. -/
def itemEntries {ε ν : Type} (read : (i : ι) → ν → Except ε (τ i)) (order : List ι)
    (items : List ν) : List (Entry ε τ) :=
  List.zipWith (fun i x => .field i (read i x)) order items

theorem itemEntries_cons {ε ν : Type} (read : (i : ι) → ν → Except ε (τ i)) (i : ι)
    (order : List ι) (x : ν) (items : List ν) :
    itemEntries read (i :: order) (x :: items) = .field i (read i x) :: itemEntries read order items
    := rfl

theorem itemEntries_split {ε ν : Type} (read : (i : ι) → ν → Except ε (τ i)) {first : List ι}
    {before : List ν} (h : first.length = before.length) (i : ι) (last : List ι) (x : ν)
    (after : List ν) :
    itemEntries read (first ++ i :: last) (before ++ x :: after)
      = itemEntries read first before ++ .field i (read i x) :: itemEntries read last after := by
  rw [itemEntries, List.zipWith_append h]
  rfl

theorem exists_of_mem_itemEntries {ε ν : Type} {read : (i : ι) → ν → Except ε (τ i)}
    {order : List ι} {items : List ν} {e : Entry ε τ} (h : e ∈ itemEntries read order items) :
    ∃ i x, e = .field i (read i x) := by
  rw [itemEntries, ← List.map_uncurry_zip_eq_zipWith] at h
  obtain ⟨⟨i, x⟩, -, rfl⟩ := List.mem_map.mp h
  exact ⟨i, x, rfl⟩

variable [DecidableEq ι] {levels : Nat}

/-- The mistake of a field that is given twice. -/
def twice (s : Shape ι τ) (i : ι) : Mistake := .duplicateField (s.name i)

theorem gather_eq (members : List (String × Json)) (d : Draft ι τ) :
    s.gather members d = Entry.gatherAll s.twice d (members.map s.entry) >>= fun d =>
      (s.check d).map fun _ => d := by
  induction members generalizing d with
  | nil =>
    show (s.check d >>= fun _ => .ok d) = (s.check d).map fun _ => d
    cases s.check d <;> rfl
  | cons m rest ih =>
    rw [gather, List.map_cons, Entry.gatherAll_cons, bind_assoc, entry]
    cases s.tag? m.1 with
    | none =>
      cases s.isClosed with
      | true => rfl
      | false => exact ih d
    | some i =>
      simp only [Entry.gather]
      split
      · rfl
      · cases (s.field i).ofJson m.2 with
        | error e => rfl
        | ok x => exact ih (d.set i x)

theorem gatherNodes_eq (members : List (Node × Node)) (ending : Option Break)
    (d : Draft ι τ) :
    s.gatherNodes levels members ending d
      = Entry.gatherAll (fun i => .content (s.twice i)) d (members.map (s.nodeEntry levels)) >>=
        fun d => ofForm (Json.checkEnd ending) >>= fun _ =>
          (ofContent (s.check d)).map fun _ => d := by
  induction members generalizing d with
  | nil =>
    show (ofForm (Json.checkEnd ending) >>= fun _ => ofContent (s.check d) >>= fun _ => .ok d)
      = (ofForm (Json.checkEnd ending) >>= fun _ => (ofContent (s.check d)).map fun _ => d)
    cases s.check d <;> rfl
  | cons m rest ih =>
    rw [gatherNodes, List.map_cons, Entry.gatherAll_cons, bind_assoc]
    cases hname : m.1.readName with
    | error e =>
      rw [nodeEntry, hname]
      rfl
    | ok key =>
      rw [nodeEntry_of_ok hname]
      show (match s.tag? key with | none => _ | some i => _) = _
      cases htag : s.tag? key with
      | none =>
        rw [namedEntry_of_none htag]
        cases s.isClosed with
        | true => rfl
        | false =>
          cases m.2.skip with
          | error e => rfl
          | ok _ => exact ih d
      | some i =>
        rw [namedEntry_of_some htag]
        simp only [Entry.gather]
        split
        · rfl
        · cases (s.field i).ofNode levels m.2 with
          | error e => rfl
          | ok x => exact ih (d.set i x)

/-- If readings that are refused are not told apart, an object with a bracket at its end is gathered
by its entries and its check alone. -/
theorem toOption_gatherNodes_closed (members : List (Node × Node)) (d : Draft ι τ) :
    (s.gatherNodes levels members none d).toOption
      = (Entry.gatherAll (fun i => .content (s.twice i)) d
          (members.map (s.nodeEntry levels))).toOption.bind fun d =>
        (s.check d).toOption.map fun _ => d := by
  rw [gatherNodes_eq, toOption_bind]
  refine congrArg _ (funext fun d => ?_)
  show ((ofContent (s.check d)).map fun _ => d).toOption = _
  rw [toOption_map, toOption_ofContent]

/-! ## Arrays -/

/-- The items of an array are the fields in order, as far as there are both. -/
theorem gatherItemNodes_eq {order : List ι} (hnodup : order.Nodup) {d : Draft ι τ}
    (hd : ∀ i ∈ order, d i = none) (n : Nat) (items : List Node) (ending : Option Break) :
    s.gatherItemNodes levels order n items ending d
      = Entry.gatherAll (fun i => .content (s.twice i)) d
          (itemEntries (fun i => (s.field i).ofNode levels) order items) >>=
        s.gatherItemNodes levels (order.drop items.length) (n + items.length)
          (items.drop order.length) ending := by
  induction order generalizing n items d with
  | nil => rw [List.drop_nil]; rfl
  | cons i order ih =>
    cases items with
    | nil => rfl
    | cons node rest =>
      rw [List.nodup_cons] at hnodup
      have hnone : (d i).isSome = false := by rw [hd i List.mem_cons_self]; rfl
      rw [gatherItemNodes, itemEntries_cons, Entry.gatherAll_cons, Entry.gather, hnone,
        List.length_cons, List.length_cons, List.drop_succ_cons, List.drop_succ_cons,
        ← Nat.add_assoc, Nat.add_right_comm]
      cases (s.field i).ofNode levels node with
      | error e => rfl
      | ok x =>
        refine ih hnodup.2 (fun k hk => ?_) (n + 1) rest
        have hne : i ≠ k := fun e => hnodup.1 (e ▸ hk)
        rw [Draft.set_of_ne hne, hd k (List.mem_cons_of_mem _ hk)]

theorem gatherItems_eq {order : List ι} (hnodup : order.Nodup) {d : Draft ι τ}
    (hd : ∀ i ∈ order, d i = none) (n : Nat) (items : List Json) :
    s.gatherItems order n items d
      = Entry.gatherAll s.twice d
          (itemEntries (fun i => (s.field i).ofJson) order items) >>=
        s.gatherItems (order.drop items.length) (n + items.length) (items.drop order.length) := by
  induction order generalizing n items d with
  | nil => rw [List.drop_nil]; rfl
  | cons i order ih =>
    cases items with
    | nil => rfl
    | cons j rest =>
      rw [List.nodup_cons] at hnodup
      have hnone : (d i).isSome = false := by rw [hd i List.mem_cons_self]; rfl
      rw [gatherItems, itemEntries_cons, Entry.gatherAll_cons, Entry.gather, hnone,
        List.length_cons, List.length_cons, List.drop_succ_cons, List.drop_succ_cons,
        ← Nat.add_assoc, Nat.add_right_comm]
      cases (s.field i).ofJson j with
      | error e => rfl
      | ok x =>
        refine ih hnodup.2 (fun k hk => ?_) (n + 1) rest
        have hne : i ≠ k := fun e => hnodup.1 (e ▸ hk)
        rw [Draft.set_of_ne hne, hd k (List.mem_cons_of_mem _ hk)]

/-- Only objects and arrays are read, and only if a level is left for them. -/
theorem of_ofNode_eq_ok {n : Node} {d : Draft ι τ} (h : s.ofNode levels n = .ok d) :
    ∃ l, levels = l + 1 ∧ ((∃ members ending, n = .object members ending) ∨
      ∃ items ending, n = .array items ending) := by
  have hmismatch : ∀ n, s.ofNode levels n = mismatchNode n s.title → s.ofNode levels n ≠ .ok d :=
    fun _ hn => ne_ok_of_mismatch hn d
  cases n with
  | object members ending =>
    cases levels with
    | zero => cases h
    | succ l => exact ⟨l, rfl, Or.inl ⟨members, ending, rfl⟩⟩
  | array items ending =>
    cases levels with
    | zero => cases h
    | succ l => exact ⟨l, rfl, Or.inr ⟨items, ending, rfl⟩⟩
  | null | boolean | number | text | broken => exact absurd h (hmismatch _ rfl)

/-- A record in which names may stand that it does not have, and whose fields have names of their
own and nothing to satisfy together. -/
structure IsOpen (s : Shape ι τ) : Prop where
  names : s.isClosed = false
  order : s.order.Nodup
  tag : ∀ i, s.tag? (s.name i) = some i
  check : ∀ d, s.check d = .ok ()

section

variable (hs : s.IsOpen)
include hs

/-- When all items have been read or all fields, the rest does not depend on what was read. -/
theorem exists_gatherItemNodes_end (levels : Nat) {order : List ι} {items : List Node}
    (h : order = [] ∨ items = []) (n : Nat) (ending : Option Break) :
    ∃ r : Except ReadError Unit, ∀ d,
      s.gatherItemNodes levels order n items ending d = r.map fun _ => d := by
  induction order generalizing n with
  | nil =>
    refine ⟨ofForm (if items.isEmpty then Json.checkEnd ending else .error .malformed), fun d => ?_⟩
    rw [gatherItemNodes, hs.check]
    cases ofForm (if items.isEmpty then Json.checkEnd ending else .error .malformed) <;> rfl
  | cons i order ih =>
    obtain rfl : items = [] := h.resolve_left (List.cons_ne_nil _ _)
    obtain ⟨r, hr⟩ := ih (Or.inr rfl) (n + 1)
    cases hend : Json.checkEnd ending with
    | error e =>
      refine ⟨.error (.form e), fun d => ?_⟩
      rw [gatherItemNodes, hend]
      rfl
    | ok _ =>
      cases hfallback : s.fallback i with
      | some x =>
        refine ⟨r, fun d => ?_⟩
        rw [← hr d, gatherItemNodes, hend, hfallback]
        rfl
      | none =>
        refine ⟨.error (.content (.wrongLength n s.arrayTitle)), fun d => ?_⟩
        rw [gatherItemNodes, hend, hfallback]
        rfl

theorem exists_gatherItems_end {order : List ι} {items : List Json}
    (h : order = [] ∨ items = []) (n : Nat) :
    ∃ r : Except Mistake Unit, ∀ d, s.gatherItems order n items d = r.map fun _ => d := by
  induction order generalizing n with
  | nil =>
    refine ⟨.ok (), fun d => ?_⟩
    rw [gatherItems, hs.check]
    rfl
  | cons i order ih =>
    obtain rfl : items = [] := h.resolve_left (List.cons_ne_nil _ _)
    obtain ⟨r, hr⟩ := ih (Or.inr rfl) (n + 1)
    cases hfallback : s.fallback i with
    | some x =>
      refine ⟨r, fun d => ?_⟩
      rw [← hr d, gatherItems, hfallback]
    | none =>
      refine ⟨.error (.wrongLength n s.arrayTitle), fun d => ?_⟩
      rw [gatherItems, hfallback]
      rfl

/-- What holds of all that the fields can be read as holds of the fields that are read. -/
theorem ofNode_forall {P : (i : ι) → τ i → Prop}
    (hP : ∀ levels i n x, (s.field i).ofNode levels n = .ok x → P i x) {n : Node} {d : Draft ι τ}
    (h : s.ofNode levels n = .ok d) : ∀ i x, d i = some x → P i x := by
  have hblank : ∀ i x, (Draft.blank : Draft ι τ) i = some x → P i x := fun _ _ hx => by cases hx
  obtain ⟨l, rfl, ⟨members, ending, rfl⟩ | ⟨items, ending, rfl⟩⟩ := of_ofNode_eq_ok h
  · rw [ofNode_object, gatherNodes_eq] at h
    obtain ⟨d₁, hall, hend⟩ := bind_eq_ok.mp h
    obtain ⟨_, -, hend⟩ := bind_eq_ok.mp hend
    rw [hs.check] at hend
    cases hend
    refine Entry.gatherAll_forall (fun i x hx => ?_) hblank hall
    obtain ⟨m, -, hm⟩ := List.mem_map.mp hx
    exact hP l i m.2 x (of_nodeEntry_eq_field hm).2.symm
  · obtain ⟨r, hr⟩ := exists_gatherItemNodes_end hs l
      (drop_eq_nil_or s.order items) (0 + items.length) ending
    change s.gatherItemNodes l s.order 0 items ending Draft.blank = .ok d at h
    rw [gatherItemNodes_eq (d := Draft.blank) hs.order (fun _ _ => rfl)] at h
    obtain ⟨d₁, hall, hend⟩ := bind_eq_ok.mp h
    rw [hr] at hend
    cases r with
    | error e => cases hend
    | ok _ =>
      cases hend
      refine Entry.gatherAll_forall (fun i x hx => ?_) hblank hall
      obtain ⟨k, node, hk⟩ := exists_of_mem_itemEntries hx
      injection hk with hik hread
      subst hik
      exact hP l i node x (eq_of_heq hread).symm

end

end Shape

section

variable {α : Type} (f : Nat → Node → Except ReadError α) {text : String} {n : Node}

/-- A document with nothing after its value is read off the value. -/
theorem ofText_of_document (h : Json.Document.ofText text = ⟨n, false⟩) :
    ofText f text = f Json.maxLevels n := by
  rw [ofText, h]
  show (f Json.maxLevels n >>= fun x => .ok x) = _
  cases f Json.maxLevels n <;> rfl

theorem toOption_ofText {t : Bool} (h : Json.Document.ofText text = ⟨n, t⟩) :
    (ofText f text).toOption = if t then none else (f Json.maxLevels n).toOption := by
  rw [ofText, h]
  show (f Json.maxLevels n >>= fun x => if t then _ else _).toOption = _
  cases f Json.maxLevels n <;> cases t <;> rfl

end

end AgentPulse.Record
