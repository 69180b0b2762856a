import AgentPulse.Proofs.Record.Gathering

/-!
# One field of a record

A `Setting` is a record with the place of one field left open, as an object or as an array. What
stands in this place has no part in what is read around it: if a record can be read with some value
in the place, then with any other value it is read the same but for the one field, and refused if
and as the value is (`ofNode_fill`, `ofJson_fill`).
-/

namespace AgentPulse.Record

open Json (Node Break)

/-- A record with one place left open. -/
inductive Setting (κ ν : Type) where
  | member (before : List (κ × ν)) (name : κ) (after : List (κ × ν))
  | item (before after : List ν)

namespace Setting

/-- The document with a node in the open place. -/
def fill : Setting Node Node → Node → Node
  | .member before name after, n => .object (before ++ (name, n) :: after) none
  | .item before after, n => .array (before ++ n :: after) none

/-- The value with a value in the open place. -/
def fillJson : Setting String Json → Json → Json
  | .member before name after, j => .object (before ++ (name, j) :: after)
  | .item before after, j => .array (before ++ j :: after)

variable {ι : Type} {τ : ι → Type}

/-- The open place is that of a field, as names are read. -/
def IsAt {κ ν : Type} (readName : κ → Option String) (s : Shape ι τ) (i : ι) : Setting κ ν → Prop
  | .member _ name _ => readName name = some (s.name i)
  | .item before _ => s.order[before.length]? = some i

/-- The open place is that of a field of a document. -/
def IsNodeAt (s : Shape ι τ) (i : ι) (c : Setting Node Node) : Prop :=
  c.IsAt (fun n => n.readName.toOption) s i

/-- The open place is that of a field of a value. -/
def IsValueAt (s : Shape ι τ) (i : ι) (c : Setting String Json) : Prop := c.IsAt some s i

end Setting

theorem exists_split {α : Type} {l : List α} {a : α} {n : Nat} (h : l[n]? = some a) :
    ∃ before after, l = before ++ a :: after ∧ before.length = n := by
  obtain ⟨hlt, rfl⟩ := List.getElem?_eq_some_iff.mp h
  refine ⟨l.take n, l.drop (n + 1), ?_, List.length_take_of_le (Nat.le_of_lt hlt)⟩
  rw [List.getElem_cons_drop, List.take_append_drop]

namespace Shape

variable {ι : Type} {τ : ι → Type} [DecidableEq ι]

/-- What is made of a node by asking for the fields that are read of it. -/
def made {α : Type} (s : Shape ι τ) (f : Draft ι τ → Except Mistake α) (levels : Nat) (n : Node) :
    Except ReadError α := s.ofNode levels n >>= fun d => ofContent (f d)

variable {s : Shape ι τ} {i : ι} {levels : Nat} (hs : s.IsOpen)
include hs

/-- A record is read by going through the entries before, at and after the open place, and what
comes then does not depend on them. -/
theorem exists_ofNode_fill (levels : Nat) {c : Setting Node Node} (hc : c.IsNodeAt s i) :
    ∃ before after, ∃ r : Except ReadError Unit, ∀ n, s.ofNode (levels + 1) (c.fill n)
      = Entry.gatherAll (fun i => .content (s.twice i)) Draft.blank
          (before ++ .field i ((s.field i).ofNode levels n) :: after) >>= fun d =>
        r.map fun _ => d := by
  cases c with
  | member before name after =>
    refine ⟨before.map (s.nodeEntry levels), after.map (s.nodeEntry levels), .ok (), fun n => ?_⟩
    have hname : name.readName = .ok (s.name i) := toOption_eq_some.mp hc
    have hentry : s.nodeEntry levels (name, n) = .field i ((s.field i).ofNode levels n) := by
      rw [nodeEntry_of_ok hname, namedEntry_of_some (hs.tag i)]
    rw [Setting.fill, ofNode_object, gatherNodes_eq, List.map_append, List.map_cons, hentry]
    simp only [hs.check]
    rfl
  | item before after =>
    obtain ⟨first, last, horder, hlength⟩ := exists_split hc
    obtain ⟨r, hr⟩ := exists_gatherItemNodes_end hs levels
      (drop_eq_nil_or last after) (before.length + after.length + 1) none
    let read := fun i => (s.field i).ofNode levels
    refine ⟨itemEntries read first before, itemEntries read last after, r, fun n => ?_⟩
    have hitems : (before ++ n :: after).length = before.length + after.length + 1 := by
      rw [List.length_append, List.length_cons, Nat.add_assoc]
    show s.gatherItemNodes levels s.order 0 (before ++ n :: after) none Draft.blank = _
    rw [gatherItemNodes_eq (d := Draft.blank) hs.order (fun _ _ => rfl), horder,
      drop_append_cons hlength, drop_append_cons hlength.symm, itemEntries_split _ hlength,
      Nat.zero_add, hitems]
    exact congrArg _ (funext hr)

/-- What a document is read as depends on its node for a field by what that is read as only. -/
theorem toOption_ofNode_fill_congr {c : Setting Node Node} (hc : c.IsNodeAt s i) {n n' : Node}
    (h : ((s.field i).ofNode levels n).toOption = ((s.field i).ofNode levels n').toOption) :
    (s.ofNode (levels + 1) (c.fill n)).toOption = (s.ofNode (levels + 1) (c.fill n')).toOption := by
  obtain ⟨before, after, r, hfill⟩ := exists_ofNode_fill hs levels hc
  rw [hfill, hfill, toOption_bind, toOption_bind, Entry.toOption_gatherAll,
    Entry.toOption_gatherAll]
  simp only [List.foldlM_append, List.foldlM_cons, Entry.take, h]

theorem toOption_ofNode_fill_none {c : Setting Node Node} (hc : c.IsNodeAt s i) {n : Node}
    (h : ((s.field i).ofNode levels n).toOption = none) :
    (s.ofNode (levels + 1) (c.fill n)).toOption = none := by
  obtain ⟨before, after, r, hfill⟩ := exists_ofNode_fill hs levels hc
  rw [hfill, toOption_bind, Entry.toOption_gatherAll_perm List.perm_middle]
  cases hread : (s.field i).ofNode levels n with
  | error e => rfl
  | ok x =>
    rw [hread] at h
    cases h

/-- If a document can be read with some node for a field, then with any other node it is read the
same but for this field, and it is refused if and as the node is. -/
theorem ofNode_fill {c : Setting Node Node} (hc : c.IsNodeAt s i) {n₀ : Node} {d₀ : Draft ι τ}
    (h : s.ofNode (levels + 1) (c.fill n₀) = .ok d₀) :
    (∃ x, (s.field i).ofNode levels n₀ = .ok x ∧ d₀ i = some x) ∧
      ∀ n, s.ofNode (levels + 1) (c.fill n) = ((s.field i).ofNode levels n).map (d₀.set i) := by
  obtain ⟨before, after, r, hfill⟩ := exists_ofNode_fill hs levels hc
  rw [hfill] at h
  obtain ⟨d, hall, hr⟩ := bind_eq_ok.mp h
  cases r with
  | error e => cases hr
  | ok _ =>
    cases hr
    obtain ⟨hx, hfield⟩ := Entry.gatherAll_field hall
    refine ⟨hx, fun n => ?_⟩
    rw [hfill, hfield]
    cases (s.field i).ofNode levels n <;> rfl

/-- What is made of a document that can be read with some node for a field, of which only the field
is read anew. -/
theorem made_of_fill {α : Type} {f : Draft ι τ → Except Mistake α} {put : α → τ i → α}
    (hput : ∀ {d x}, f d = .ok x → ∀ y, f (d.set i y) = .ok (put x y)) {c : Setting Node Node}
    (hc : c.IsNodeAt s i) {n₀ : Node} {x₀ : α} (h : s.made f (levels + 1) (c.fill n₀) = .ok x₀)
    (n : Node) :
    s.made f (levels + 1) (c.fill n) = ((s.field i).ofNode levels n).map (put x₀) := by
  obtain ⟨d₀, hd₀, hx₀⟩ := bind_eq_ok.mp h
  rw [made, (ofNode_fill hs hc hd₀).2 n]
  cases (s.field i).ofNode levels n with
  | error e => rfl
  | ok y =>
    show ofContent (f (d₀.set i y)) = .ok (put x₀ y)
    rw [hput (ofContent_eq_ok.mp hx₀)]
    rfl

theorem exists_ofJson_fill {c : Setting String Json} (hc : c.IsValueAt s i) :
    ∃ before after, ∃ r : Except Mistake Unit, ∀ j, s.ofJson (c.fillJson j)
      = Entry.gatherAll s.twice Draft.blank
          (before ++ .field i ((s.field i).ofJson j) :: after) >>= fun d => r.map fun _ => d := by
  cases c with
  | member before name after =>
    refine ⟨before.map s.entry, after.map s.entry, .ok (), fun j => ?_⟩
    obtain rfl : name = s.name i := Option.some.inj hc
    have hentry : s.entry (s.name i, j) = .field i ((s.field i).ofJson j) := by
      rw [entry, hs.tag i]
    show s.gather (before ++ (s.name i, j) :: after) Draft.blank = _
    rw [gather_eq, List.map_append, List.map_cons, hentry]
    simp only [hs.check]
  | item before after =>
    obtain ⟨first, last, horder, hlength⟩ := exists_split hc
    obtain ⟨r, hr⟩ := exists_gatherItems_end hs (drop_eq_nil_or last after)
      (before.length + after.length + 1)
    let read := fun i => (s.field i).ofJson
    -- Items that are too many are noticed when all fields have been read.
    let excess : Except Mistake Unit := if s.order.length < before.length + after.length + 1
      then .error (.wrongLength (before.length + after.length + 1) "fewer elements in array")
      else .ok ()
    refine ⟨itemEntries read first before, itemEntries read last after, r >>= fun _ => excess,
      fun j => ?_⟩
    have hitems : (before ++ j :: after).length = before.length + after.length + 1 := by
      rw [List.length_append, List.length_cons, Nat.add_assoc]
    have hgather : s.gatherItems s.order 0 (before ++ j :: after) Draft.blank
        = Entry.gatherAll s.twice Draft.blank (itemEntries read first before
            ++ .field i ((s.field i).ofJson j) :: itemEntries read last after) >>= fun d =>
          r.map fun _ => d := by
      rw [gatherItems_eq (d := Draft.blank) hs.order (fun _ _ => rfl), horder,
        drop_append_cons hlength, drop_append_cons hlength.symm, itemEntries_split _ hlength,
        Nat.zero_add, hitems]
      exact congrArg _ (funext hr)
    show (s.gatherItems s.order 0 (before ++ j :: after) Draft.blank >>= fun d =>
      if s.order.length < (before ++ j :: after).length then _ else .ok d) = _
    rw [hgather, bind_assoc, hitems]
    refine congrArg _ (funext fun d => ?_)
    show _ = (r >>= fun _ =>
      if s.order.length < before.length + after.length + 1 then _ else _).map _
    cases r with
    | error e => rfl
    | ok _ =>
      show (if _ then _ else _) = (if _ then _ else _ : Except Mistake Unit).map _
      split <;> rfl

/-- If a value can be read with some value for a field, then with any other it is read the same but
for this field, and it is refused if and as the other is. -/
theorem ofJson_fill {c : Setting String Json} (hc : c.IsValueAt s i) {j₀ : Json} {d₀ : Draft ι τ}
    (h : s.ofJson (c.fillJson j₀) = .ok d₀) :
    (∃ x, (s.field i).ofJson j₀ = .ok x ∧ d₀ i = some x) ∧
      ∀ j, s.ofJson (c.fillJson j) = ((s.field i).ofJson j).map (d₀.set i) := by
  obtain ⟨before, after, r, hfill⟩ := exists_ofJson_fill hs hc
  rw [hfill] at h
  obtain ⟨d, hall, hr⟩ := bind_eq_ok.mp h
  cases r with
  | error e => cases hr
  | ok _ =>
    cases hr
    obtain ⟨hx, hfield⟩ := Entry.gatherAll_field hall
    refine ⟨hx, fun j => ?_⟩
    rw [hfill, hfield]
    cases (s.field i).ofJson j <;> rfl

/-- What is made of a value that can be read with some value for a field, of which only the field
is read anew. -/
theorem made_of_fillJson {α : Type} {f : Draft ι τ → Except Mistake α} {put : α → τ i → α}
    (hput : ∀ {d x}, f d = .ok x → ∀ y, f (d.set i y) = .ok (put x y)) {c : Setting String Json}
    (hc : c.IsValueAt s i) {j₀ : Json} {x₀ : α} (h : (s.ofJson (c.fillJson j₀) >>= f) = .ok x₀)
    (j : Json) : (s.ofJson (c.fillJson j) >>= f) = ((s.field i).ofJson j).map (put x₀) := by
  obtain ⟨d₀, hd₀, hx₀⟩ := bind_eq_ok.mp h
  rw [(ofJson_fill hs hc hd₀).2 j]
  cases (s.field i).ofJson j with
  | error e => rfl
  | ok y => exact hput hx₀ y

end Shape

end AgentPulse.Record
