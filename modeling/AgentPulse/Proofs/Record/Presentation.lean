import AgentPulse.Proofs.Record.Setting

/-!
# One record in several presentations

A record can be written in several ways: its members in any order, with members of unknown names
among them, with a field left out that would be read as its default, or as the array of its fields.
`Shape.SameRecord` relates what is written in such ways, and what it relates is read the same
(`toOption_require_of_same`). Names that a closed record does not have and fields that stand at two
places make a node `Shape.Flawed`, and what is flawed is never read (`toOption_ofNode_of_flawed`).
What is read of a record is here what is found when its fields are asked for (`Shape.require`), so
that a field that is left out counts as its default.
-/

namespace AgentPulse.Record

open Json (Node Break)

/-! ## Maps -/

namespace Field

variable {ν : Type}

/-- What a member of a map is read as: its name and its value. -/
def readEntry (read : Node → Option ν) (m : Node × Node) : Option (String × ν) :=
  m.1.readName.toOption.bind fun key => (read m.2).map (Prod.mk key)

/-- Members that are stored one after the other are read first and then stored. -/
theorem gather_eq_insertAll {read : Node → Option ν}
    (gather : List (Node × Node) → Dict ν → Option (Dict ν)) (hnil : ∀ d, gather [] d = some d)
    (hcons : ∀ m rest d, gather (m :: rest) d
      = (readEntry read m).bind fun e => gather rest (d.insert e.1 e.2))
    (members : List (Node × Node)) (d : Dict ν) :
    gather members d = (members.mapM (readEntry read)).map d.insertAll := by
  induction members generalizing d with
  | nil => exact hnil d
  | cons m rest ih =>
    rw [hcons, List.mapM_cons]
    cases readEntry read m with
    | none => rfl
    | some e =>
      show gather rest (d.insert e.1 e.2) = _
      rw [ih]
      cases rest.mapM (readEntry read) <;> rfl

theorem toOption_jsonMap (levels : Nat) (members : List (Node × Node)) :
    (jsonMap.ofNode (levels + 1) (.object members none)).toOption
      = (members.mapM (readEntry fun n => (n.read levels).toOption)).map Dict.ofList := by
  show (ofForm (Node.readMembers levels members none Dict.empty)).toOption = _
  rw [toOption_ofForm]
  refine gather_eq_insertAll (fun ms d => (Node.readMembers levels ms none d).toOption)
    (fun _ => rfl) (fun (name, n) rest d => ?_) members Dict.empty
  simp only [Node.readMembers, toOption_bind, readEntry]
  cases name.readName.toOption <;> cases (n.read levels).toOption <;> rfl

theorem toOption_textMap (levels : Nat) (members : List (Node × Node)) :
    (textMap.ofNode (levels + 1) (.object members none)).toOption
      = (members.mapM (readEntry fun n => (text.ofNode 0 n).toOption)).map Dict.ofList := by
  refine gather_eq_insertAll (fun ms d => (textMapOfNodes ms none d).toOption)
    (fun _ => rfl) (fun (name, n) rest d => ?_) members Dict.empty
  simp only [textMapOfNodes, toOption_bind, toOption_ofForm, readEntry]
  cases name.readName.toOption <;> cases (text.ofNode 0 n).toOption <;> rfl

end Field

namespace Shape

variable {ι : Type} {τ : ι → Type}

/-! ## Presentations -/

section

variable (s : Shape ι τ)

/-- A member of a name that the record does not have. -/
structure IsForeign (m : Node × Node) : Prop where
  name : ∃ key, m.1.readName = .ok key ∧ s.tag? key = none
  formed : m.2.IsFormed

/-- Nodes that present one record. -/
inductive SameRecord : Node → Node → Prop where
  /-- Members in another order. -/
  | order {members members' : List (Node × Node)} (h : members.Perm members') :
    SameRecord (.object members none) (.object members' none)
  /-- Members of unknown names at any places, where those are passed over. -/
  | foreign {members members' extra : List (Node × Node)} (hopen : s.isClosed = false)
    (h : members'.Perm (members ++ extra)) (hextra : ∀ m ∈ extra, s.IsForeign m) :
    SameRecord (.object members none) (.object members' none)
  /-- A field left out, and the field as what is read as its default, however deep it stands. -/
  | leftOut {members : List (Node × Node)} {i : ι} {name n : Node} {x : τ i}
    (hnot : ∀ m ∈ members, m.1.readName ≠ .ok (s.name i)) (hname : name.readName = .ok (s.name i))
    (hfallback : s.fallback i = some x)
    (hread : ∀ levels, (s.field i).ofNode (levels + 1) n = .ok x) :
    SameRecord (.object members none) (.object (members ++ [(name, n)]) none)
  /-- The members in the order of the record, and their values as an array. Fields at the end that
  have a default may be missing. -/
  | array {members : List (Node × Node)} {given missing : List ι}
    (horder : s.order = given ++ missing) (hmissing : ∀ i ∈ missing, (s.fallback i).isSome)
    (hnames : (members.map fun m => m.1.readName) = given.map fun i => .ok (s.name i)) :
    SameRecord (.object members none) (.array (members.map (·.2)) none)
  | symm {n n' : Node} (h : SameRecord n n') : SameRecord n' n
  | trans {n n' n'' : Node} (h : SameRecord n n') (h' : SameRecord n' n'') : SameRecord n n''

/-- Nodes that present no record. -/
inductive Flawed : Node → Prop where
  /-- A member of an unknown name, where those are refused. -/
  | unknown {members : List (Node × Node)} {m : Node × Node} {key : String} {ending : Option Break}
    (hclosed : s.isClosed = true) (hm : m ∈ members) (hname : m.1.readName = .ok key)
    (hkey : s.tag? key = none) : Flawed (.object members ending)
  /-- One field at two places. -/
  | twice {before middle after : List (Node × Node)} {name name' n n' : Node} {i : ι}
    {ending : Option Break} (hname : name.readName = .ok (s.name i))
    (hname' : name'.readName = .ok (s.name i)) :
    Flawed (.object (before ++ (name, n) :: (middle ++ (name', n') :: after)) ending)

/-- A record whose fields have names of their own, and to whose check a field that is left out is
as good as its default. -/
structure IsRegular : Prop where
  order : s.order.Nodup
  tag : ∀ i, s.tag? (s.name i) = some i
  check : ∀ d d', s.require d = s.require d' → s.check d = s.check d'

/-- A record that stands at some place of a document, in the text of which it can be presented
freely. -/
structure ReadsFreely {α : Type} (around : Node → Node)
    (ofText : String → Except ReadError α) : Prop where
  /-- However the record is presented, it is read the same or refused. -/
  same : ∀ n n' text text' trailing, s.SameRecord n n' →
    Json.Document.ofText text = ⟨around n, trailing⟩ →
    Json.Document.ofText text' = ⟨around n', trailing⟩ →
    (ofText text).toOption = (ofText text').toOption
  /-- What is flawed is refused. -/
  flawed : ∀ n text trailing, s.Flawed n → Json.Document.ofText text = ⟨around n, trailing⟩ →
    ¬∃ x, ofText text = .ok x

/-- With a map in the place of a field, a text is read as with what else stands there, but for the
map, which has the last of the values under each name. It is refused only if one of the names or
values cannot be read. -/
def KeepsLast {α ν : Type} (i : ι) (read : Node → Option ν) (ofText : String → Except ReadError α)
    (put : α → Dict ν → α) : Prop :=
  ∀ (c : Setting Node Node) (n₀ : Node) (text₀ : String) (x₀ : α), c.IsNodeAt s i →
    Json.Document.ofText text₀ = ⟨c.fill n₀, false⟩ → ofText text₀ = .ok x₀ →
    ∀ members text, Json.Document.ofText text = ⟨c.fill (.object members none), false⟩ →
      (members.mapM (Field.readEntry read) = none → ¬∃ x, ofText text = .ok x) ∧
      ∀ entries, members.mapM (Field.readEntry read) = some entries →
        ∃ d, ofText text = .ok (put x₀ d) ∧ ∀ key, d.find? key = Dict.lookup key entries.reverse

end

variable {s : Shape ι τ} {levels : Nat}

/-- What is found of a field without a default is what has been read. -/
theorem eq_of_require_eq {d d' : Draft ι τ} {i : ι} (hi : s.fallback i = none)
    (h : s.require d i = s.require d' i) : d i = d' i := by
  rw [require, require, hi] at h
  cases hd : d i with
  | none =>
    cases hd' : d' i with
    | none => rfl
    | some y =>
      rw [hd, hd'] at h
      cases h
  | some x =>
    cases hd' : d' i with
    | none =>
      rw [hd, hd'] at h
      cases h
    | some y =>
      rw [hd, hd'] at h
      cases h
      rfl

theorem readsFreely_of {α : Type} {f : Nat → Node → Except ReadError α} {around : Node → Node}
    (hsame : ∀ n n', s.SameRecord n n' →
      (f Json.maxLevels (around n)).toOption = (f Json.maxLevels (around n')).toOption)
    (hflawed : ∀ n, s.Flawed n → (f Json.maxLevels (around n)).toOption = none) :
    s.ReadsFreely around (ofText f) where
  same n n' _ _ _ h htext htext' := by
    rw [toOption_ofText f htext, toOption_ofText f htext', hsame n n' h]
  flawed n _ _ h htext := by
    rw [← toOption_eq_none, toOption_ofText f htext, hflawed n h, ite_self]

theorem IsOpen.isRegular (hs : s.IsOpen) : s.IsRegular where
  order := hs.order
  tag := hs.tag
  check _ _ _ := by rw [hs.check, hs.check]

theorem nodeEntry_of_name (hs : s.IsRegular) {m : Node × Node} {i : ι}
    (h : m.1.readName = .ok (s.name i)) :
    s.nodeEntry levels m = .field i ((s.field i).ofNode levels m.2) := by
  rw [nodeEntry_of_ok h, namedEntry_of_some (hs.tag i)]

theorem nodeEntry_of_isForeign {m : Node × Node} (h : s.IsForeign m) (hopen : s.isClosed = false) :
    s.nodeEntry levels m = .passed := by
  obtain ⟨key, hname, hkey⟩ := h.name
  rw [nodeEntry_of_ok hname, namedEntry_of_none hkey, hopen, Json.Node.skip_of_isFormed _ h.formed]
  rfl

/-- Members in the order of the record come to what their values as items come to. -/
theorem map_nodeEntry (hs : s.IsRegular) {members : List (Node × Node)} {given : List ι}
    (hnames : (members.map fun m => m.1.readName) = given.map fun i => .ok (s.name i))
    (missing : List ι) :
    members.map (s.nodeEntry levels) = itemEntries (fun i => (s.field i).ofNode levels)
      (given ++ missing) (members.map (·.2)) := by
  induction members generalizing given with
  | nil =>
    cases given with
    | nil => exact List.zipWith_nil_right.symm
    | cons i given => cases hnames
  | cons m members ih =>
    cases given with
    | nil => cases hnames
    | cons i given =>
      obtain ⟨hname, hnames⟩ := List.cons.inj hnames
      rw [List.map_cons, List.map_cons, List.cons_append, itemEntries_cons, ih hnames,
        nodeEntry_of_name hs hname]

variable [DecidableEq ι]

/-! ## What is left out -/

/-- A field that none of the members names is not read. -/
theorem not_read_of_gatherAll {members : List (Node × Node)} {i : ι} {d : Draft ι τ}
    (hnot : ∀ m ∈ members, m.1.readName ≠ .ok (s.name i))
    (h : Entry.gatherAll (fun i => .content (s.twice i)) Draft.blank
      (members.map (s.nodeEntry levels)) = .ok d) : d i = none := by
  have hother : ∀ k x, d k = some x → k ≠ i := by
    refine Entry.gatherAll_forall (fun k x hx => ?_) (fun _ _ hx => by cases hx) h
    obtain ⟨m, hm, hentry⟩ := List.mem_map.mp hx
    rintro rfl
    exact hnot m hm (of_nodeEntry_eq_field hentry).1
  cases hread : d i with
  | none => rfl
  | some x => exact absurd rfl (hother i x hread)

/-- A field that is read as its default is found as if it had been left out. -/
theorem require_set_fallback {d : Draft ι τ} {i : ι} {x : τ i} (hd : d i = none)
    (hx : s.fallback i = some x) : s.require (d.set i x) = s.require d := by
  funext k
  by_cases hk : i = k
  · subst hk
    rw [require, require, Draft.set_self, hd, hx]
  · rw [require, require, Draft.set_of_ne hk]

/-- Fields that are missing at the end of an array are no mistake if they have a default. -/
theorem gatherItemNodes_of_fallback {missing : List ι} (h : ∀ i ∈ missing, (s.fallback i).isSome)
    (n : Nat) (d : Draft ι τ) :
    s.gatherItemNodes levels missing n [] none d = (ofContent (s.check d)).map fun _ => d := by
  induction missing generalizing n with
  | nil =>
    rw [gatherItemNodes]
    cases s.check d <;> rfl
  | cons i missing ih =>
    obtain ⟨x, hx⟩ := Option.isSome_iff_exists.mp (h i List.mem_cons_self)
    rw [gatherItemNodes, hx]
    exact ih (fun k hk => h k (List.mem_cons_of_mem _ hk)) (n + 1)

/-! ## What is read -/

/-- An array is read as the object that has its items under the names of the fields. -/
theorem ofNode_array (hs : s.IsRegular) {members : List (Node × Node)} {given missing : List ι}
    (horder : s.order = given ++ missing) (hmissing : ∀ i ∈ missing, (s.fallback i).isSome)
    (hnames : (members.map fun m => m.1.readName) = given.map fun i => .ok (s.name i)) :
    s.ofNode (levels + 1) (.array (members.map (·.2)) none)
      = s.ofNode (levels + 1) (.object members none) := by
  have hlength : (members.map (·.2)).length = given.length := by
    have h := congrArg List.length hnames
    rwa [List.length_map, List.length_map, ← List.length_map (·.2)] at h
  have hle : (members.map (·.2)).length ≤ (given ++ missing).length := by
    rw [hlength, List.length_append]
    exact Nat.le_add_right _ _
  show s.gatherItemNodes levels s.order 0 (members.map (·.2)) none Draft.blank = _
  rw [gatherItemNodes_eq (d := Draft.blank) hs.order (fun _ _ => rfl), ofNode_object,
    gatherNodes_eq, map_nodeEntry hs hnames missing, horder, List.drop_eq_nil_of_le hle, hlength,
    List.drop_left]
  exact congrArg _ (funext fun d => gatherItemNodes_of_fallback hmissing _ d)

/-- An object to which a field is added that is read as its default. -/
theorem toOption_require_leftOut (hs : s.IsRegular) {members : List (Node × Node)} {i : ι}
    {name n : Node} {x : τ i} (hnot : ∀ m ∈ members, m.1.readName ≠ .ok (s.name i))
    (hname : name.readName = .ok (s.name i)) (hfallback : s.fallback i = some x)
    (hread : (s.field i).ofNode levels n = .ok x) :
    (s.ofNode (levels + 1) (.object (members ++ [(name, n)]) none)).toOption.map s.require
      = (s.ofNode (levels + 1) (.object members none)).toOption.map s.require := by
  have hentry : s.nodeEntry levels (name, n) = .field i (.ok x) :=
    (nodeEntry_of_name hs hname).trans (congrArg _ hread)
  rw [ofNode_object, ofNode_object, toOption_gatherNodes_closed, toOption_gatherNodes_closed,
    List.map_append, Entry.gatherAll_append, toOption_bind]
  cases hall : Entry.gatherAll (fun i => .content (s.twice i)) Draft.blank
      (members.map (s.nodeEntry levels)) with
  | error e => rfl
  | ok d =>
    have hd := not_read_of_gatherAll hnot hall
    have hrequire := require_set_fallback hd hfallback
    have hlast : Entry.gatherAll (fun i => .content (s.twice i)) d
        [s.nodeEntry levels (name, n)] = .ok (d.set i x) := by
      rw [hentry, Entry.gatherAll_cons, Entry.gather, hd]
      rfl
    show (((Entry.gatherAll _ d [s.nodeEntry levels (name, n)]).toOption.bind _).map s.require)
      = ((s.check d).toOption.map fun _ => d).map s.require
    rw [hlast]
    show ((s.check (d.set i x)).toOption.map fun _ => d.set i x).map s.require = _
    rw [hs.check _ _ hrequire, Option.map_map, Option.map_map]
    exact congrArg (Option.map · _) (funext fun _ => hrequire)

/-- Nodes that present one record are read the same: the same is found when the fields are asked
for, or neither is read. -/
theorem toOption_require_of_same (hs : s.IsRegular) {n n' : Node} (h : s.SameRecord n n') :
    (s.ofNode (levels + 2) n).toOption.map s.require
      = (s.ofNode (levels + 2) n').toOption.map s.require := by
  induction h with
  | order h =>
    rw [ofNode_object, ofNode_object, toOption_gatherNodes_closed, toOption_gatherNodes_closed,
      Entry.toOption_gatherAll_perm (h.map _)]
  | @foreign members members' extra hopen h hextra =>
    have hperm := h.map (s.nodeEntry (levels + 1))
    rw [List.map_append] at hperm
    rw [ofNode_object, ofNode_object, toOption_gatherNodes_closed, toOption_gatherNodes_closed,
      Entry.toOption_gatherAll_passed hperm fun e he => ?_]
    obtain ⟨m, hm, rfl⟩ := List.mem_map.mp he
    exact nodeEntry_of_isForeign (hextra m hm) hopen
  | leftOut hnot hname hfallback hread =>
    exact (toOption_require_leftOut hs hnot hname hfallback (hread levels)).symm
  | array horder hmissing hnames => rw [ofNode_array hs horder hmissing hnames]
  | symm _ ih => exact ih.symm
  | trans _ _ ih ih' => exact ih.trans ih'

/-- Whatever is made of the fields by asking for them is the same for nodes that present one
record. -/
theorem toOption_made_of_same (hs : s.IsRegular) {α : Type} {f : Draft ι τ → Except Mistake α}
    (hf : ∀ d d', s.require d = s.require d' → f d = f d') {n n' : Node} (h : s.SameRecord n n') :
    (s.made f (levels + 2) n).toOption = (s.made f (levels + 2) n').toOption := by
  have hrequire : (s.ofNode (levels + 2) n).toOption.map s.require = _ :=
    toOption_require_of_same hs h
  rw [made, made, toOption_bind, toOption_bind]
  cases hn : (s.ofNode (levels + 2) n).toOption with
  | none =>
    rw [hn] at hrequire
    rw [Option.map_eq_none_iff.mp hrequire.symm]
  | some d =>
    rw [hn] at hrequire
    obtain ⟨d', hd', heq⟩ := Option.map_eq_some_iff.mp hrequire.symm
    rw [hd']
    exact congrArg (fun r => (ofContent r).toOption) (hf d d' heq.symm)

/-- What is flawed is not read. -/
theorem toOption_ofNode_of_flawed (hs : s.IsRegular) {n : Node} (h : s.Flawed n) :
    (s.ofNode levels n).toOption = none := by
  cases levels with
  | zero => cases h <;> rfl
  | succ levels =>
    cases h with
    | @unknown members m key ending hclosed hm hname hkey =>
      have hentry : s.nodeEntry levels m = .refused (.content (s.unknown key)) := by
        rw [nodeEntry_of_ok hname, namedEntry_of_none hkey, hclosed]
        rfl
      have hmem : .refused (.content (s.unknown key)) ∈ members.map (s.nodeEntry levels) :=
        hentry ▸ List.mem_map_of_mem hm
      rw [ofNode_object, gatherNodes_eq, toOption_bind, Entry.gatherAll_of_refused hmem]
      rfl
    | @twice before middle after name name' n n' i ending hname hname' =>
      have hperm : ((before ++ (name, n) :: (middle ++ (name', n') :: after)).map
          (s.nodeEntry levels)).Perm (.field i ((s.field i).ofNode levels n)
            :: .field i ((s.field i).ofNode levels n')
            :: (before ++ (middle ++ after)).map (s.nodeEntry levels)) := by
        rw [← nodeEntry_of_name hs (m := (name, n)) hname,
          ← nodeEntry_of_name hs (m := (name', n')) hname', ← List.map_cons, ← List.map_cons]
        refine List.Perm.map _ (List.perm_middle.trans (.cons _ ?_))
        rw [← List.append_assoc, ← List.append_assoc]
        exact List.perm_middle
      rw [ofNode_object, gatherNodes_eq, toOption_bind, Entry.gatherAll_of_two hperm]
      rfl

theorem toOption_made_of_flawed (hs : s.IsRegular) {α : Type} (f : Draft ι τ → Except Mistake α)
    {n : Node} (h : s.Flawed n) : (s.made f levels n).toOption = none := by
  rw [made, toOption_bind, toOption_ofNode_of_flawed hs h]
  rfl

/-! ## Texts -/

/-- A record that is all of the document. -/
theorem readsFreely (hs : s.IsRegular) {α : Type} {f : Draft ι τ → Except Mistake α}
    (hf : ∀ d d', s.require d = s.require d' → f d = f d') :
    s.ReadsFreely id (ofText (s.made f)) :=
  readsFreely_of (fun _ _ h => toOption_made_of_same hs hf h) fun _ h =>
    toOption_made_of_flawed hs f h

/-- A map that stands in the place of a field. -/
theorem keepsLast (hs : s.IsOpen) {α ν : Type} {f : Draft ι τ → Except Mistake α} {i : ι}
    {put : α → τ i → α} (hput : ∀ {d x}, f d = .ok x → ∀ y, f (d.set i y) = .ok (put x y))
    {read : Node → Option ν} (ofDict : Dict ν → τ i)
    (hread : ∀ members, ((s.field i).ofNode 126 (.object members none)).toOption
      = (members.mapM (Field.readEntry read)).map fun entries => ofDict (Dict.ofList entries)) :
    s.KeepsLast i read (ofText (s.made f)) fun x d => put x (ofDict d) := by
  intro c n₀ text₀ x₀ hc htext₀ hx₀ members text htext
  rw [ofText_of_document _ htext₀] at hx₀
  have hfill := made_of_fill hs hput hc hx₀ (.object members none)
  have hmap : (ofText (s.made f) text).toOption = (members.mapM (Field.readEntry read)).map
      fun entries => put x₀ (ofDict (Dict.ofList entries)) := by
    rw [ofText_of_document _ htext, ← Function.comp_def (put x₀), ← Option.map_map, ← hread,
      ← toOption_map, ← hfill]
    rfl
  constructor
  · intro hnone
    rw [← toOption_eq_none, hmap, hnone]
    rfl
  · intro entries hentries
    rw [hentries] at hmap
    exact ⟨Dict.ofList entries, toOption_eq_some.mp hmap, Dict.find?_ofList entries⟩

end Shape

end AgentPulse.Record
