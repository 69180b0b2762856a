import AgentPulse.Proofs.Json.Arrangement
import AgentPulse.Proofs.Record.Gathering

/-!
# Both ways of reading agree

What is found in the node of a value's compact text is what is found in the value, and what is
refused there is refused here, although for other reasons and at other places: that is
`Field.Agrees`. A record whose fields agree does so as a whole (`Shape.draft_agrees`). In an
object the text has the members in an order of its own. For a record that makes no difference
(`Shape.gather_perm`), and for a map of texts it makes none as long as no two members have one name.
-/

namespace AgentPulse.Record

open Json (Node canonical canonicalItems canonicalMembers toNode toNodes toMemberNodes units
  IsWholeItems IsWholeMembers IsDistinctItems IsDistinctMembers depthItems depthMembers)

/-! ## Fields -/

namespace Field

variable {τ : Type}

/-- Both ways to read a field find the same in every value or refuse it both, in whichever order
the text has the members of objects. -/
def Agrees (f : Field τ) : Prop :=
  ∀ ⦃j : Json⦄ ⦃levels : Nat⦄, j.IsDistinct → j.IsWhole → j.depth ≤ levels →
    (f.ofNode levels (toNode j)).toOption = (f.ofJson (canonical j)).toOption

/-- What stands in the place of something else is refused in both ways. -/
theorem toOption_of_mismatch {f : Field τ} {levels : Nat} {n : Node} {j : Json} {expected : String}
    (hn : f.ofNode levels n = mismatchNode n expected) (hj : f.ofJson j = mismatch j expected) :
    (f.ofNode levels n).toOption = (f.ofJson j).toOption := by
  rw [hn, hj, toOption_mismatchNode]
  rfl

/-- A text is read the same however deep it stands. -/
theorem toOption_text (levels : Nat) (j : Json) :
    (text.ofNode levels (toNode j)).toOption = (text.ofJson (canonical j)).toOption := by
  cases j with
  | text s =>
    have hread := text_reads levels s
    rw [hread.ofNode, hread.ofJson]
    rfl
  | _ => exact toOption_of_mismatch rfl rfl

theorem text_agrees : text.Agrees := fun j levels _ _ _ => toOption_text levels j

theorem word_agrees (limit : Nat) (typeName : String) : (word limit typeName).Agrees := by
  intro j levels _ hwhole _
  cases j with
  | number n =>
    cases n with
    | double d => exact hwhole.elim
    | integer n =>
      have hread : Node.readNumber (Json.numeral n) = .ok (.integer n) := by
        rw [Node.readNumber, Json.number?_numeral hwhole]
      show (ofForm (Node.readNumber (Json.numeral n)) >>= fun v =>
        ofContent (wordOfNumber limit typeName v)).toOption = _
      rw [hread]
      exact toOption_ofContent _
  | _ => exact toOption_of_mismatch rfl rfl

theorem toOption_textsOfNodes (items : List Json) :
    (textsOfNodes (toNodes items) none).toOption
      = ((canonicalItems items).mapM text.ofJson).toOption := by
  induction items with
  | nil => rfl
  | cons j rest ih =>
    rw [toNodes, textsOfNodes, canonicalItems, List.mapM_cons]
    simp only [toOption_bind, toOption_text, ih]
    rfl

theorem texts_agrees : texts.Agrees := by
  intro j levels _ _ hdepth
  cases j with
  | array items =>
    cases levels with
    | zero => exact absurd hdepth (Nat.not_succ_le_zero _)
    | succ levels => exact toOption_textsOfNodes items
  | _ => exact toOption_of_mismatch rfl rfl

theorem toOption_textMapOfNodes (members : List (String × Json)) (d : Dict String) :
    (textMapOfNodes (toMemberNodes members) none d).toOption
      = (textMapOfMembers (canonicalMembers members) d).toOption := by
  induction members generalizing d with
  | nil => rfl
  | cons m rest ih =>
    obtain ⟨name, j⟩ := m
    rw [toMemberNodes, textMapOfNodes, ofForm_readName, canonicalMembers, textMapOfMembers]
    simp only [toOption_bind, toOption_text, ih]
    rfl

/-- What reading a map of texts does for one member. -/
def takeText (d : Dict String) (m : String × Json) : Option (Dict String) :=
  (text.ofJson m.2).toOption.map (d.insert m.1)

theorem toOption_textMapOfMembers (members : List (String × Json)) (d : Dict String) :
    (textMapOfMembers members d).toOption = members.foldlM takeText d := by
  induction members generalizing d with
  | nil => rfl
  | cons m rest ih =>
    obtain ⟨name, j⟩ := m
    rw [textMapOfMembers, toOption_bind, List.foldlM_cons]
    simp only [ih, takeText]
    cases (text.ofJson j).toOption <;> rfl

theorem takeText_comm (d : Dict String) (a b : String × Json) (hne : a.1 ≠ b.1) :
    (takeText d a).bind (takeText · b) = (takeText d b).bind (takeText · a) := by
  unfold takeText
  cases (text.ofJson a.2).toOption with
  | none => cases (text.ofJson b.2).toOption <;> rfl
  | some x =>
    cases (text.ofJson b.2).toOption with
    | none => rfl
    | some y => exact congrArg some (Dict.insert_comm hne d x y)

theorem textMap_agrees : textMap.Agrees := by
  intro j levels hdistinct _ hdepth
  cases j with
  | object members =>
    cases levels with
    | zero => exact absurd hdepth (Nat.not_succ_le_zero _)
    | succ levels =>
      have hperm := Json.entries_canonical_perm hdistinct.1
      show (textMapOfNodes (toMemberNodes members) none Dict.empty).toOption
        = (textMapOfMembers (Dict.ofList (canonicalMembers members)).entries Dict.empty).toOption
      rw [toOption_textMapOfNodes, toOption_textMapOfMembers, toOption_textMapOfMembers]
      exact (foldlM_perm (R := fun a b => a.1 ≠ b.1) Ne.symm takeText_comm hperm
        (List.pairwise_map.mp (Dict.keys_nodup _)) _).symm
  | _ => exact toOption_of_mismatch rfl rfl

theorem jsonMap_agrees : jsonMap.Agrees := by
  intro j levels _ hwhole hdepth
  cases j with
  | object members =>
    cases levels with
    | zero => exact absurd hdepth (Nat.not_succ_le_zero _)
    | succ levels =>
      rw [jsonMap_ofNode hwhole (Nat.le_of_succ_le_succ hdepth)]
      exact congrArg Except.toOption (jsonMap_ofJson _).symm
  | _ => exact toOption_of_mismatch rfl rfl

end Field

/-! ## Records -/

namespace Shape

variable {ι : Type} {τ : ι → Type} [DecidableEq ι] {s : Shape ι τ}

/-- The members of an object may come in any order. -/
theorem gather_perm {members others : List (String × Json)} (hperm : members.Perm others)
    (d : Draft ι τ) : (s.gather members d).toOption = (s.gather others d).toOption := by
  rw [gather_eq, gather_eq, toOption_bind, toOption_bind,
    Entry.toOption_gatherAll_perm (hperm.map s.entry)]

/-- A member comes to the same in both ways if each field does. -/
theorem take_nodeEntry (hfields : ∀ i, (s.field i).Agrees) {name : String} {j : Json} {levels : Nat}
    (hdistinct : j.IsDistinct) (hwhole : j.IsWhole) (hdepth : j.depth ≤ levels) (d : Draft ι τ) :
    (s.nodeEntry levels (.text (units name), toNode j)).take d
      = (s.entry (name, canonical j)).take d := by
  rw [nodeEntry_of_ok (Json.readName_units name), entry]
  cases htag : s.tag? name with
  | none =>
    rw [namedEntry_of_none htag, Node.skip_of_isFormed _ (Json.isFormed_toNode j)]
    cases s.isClosed <;> rfl
  | some i =>
    rw [namedEntry_of_some htag]
    exact congrArg (Option.bind · (d.put i)) (hfields i hdistinct hwhole hdepth)

/-- The members of an object are read the same in both ways. -/
theorem toOption_gatherNodes (hfields : ∀ i, (s.field i).Agrees) {levels : Nat}
    {members : List (String × Json)} (hdistinct : IsDistinctMembers members)
    (hwhole : IsWholeMembers members) (hdepth : depthMembers members ≤ levels) (d : Draft ι τ) :
    (s.gatherNodes levels (toMemberNodes members) none d).toOption
      = (s.gather (canonicalMembers members) d).toOption := by
  have hentries :
      ((toMemberNodes members).map (s.nodeEntry levels)).foldlM Entry.take d
        = ((canonicalMembers members).map s.entry).foldlM Entry.take d := by
    induction members generalizing d with
    | nil => rfl
    | cons m rest ih =>
      obtain ⟨name, j⟩ := m
      obtain ⟨hhead, htail⟩ := Nat.max_le.mp hdepth
      rw [toMemberNodes, canonicalMembers, List.map_cons, List.map_cons, List.foldlM_cons,
        List.foldlM_cons, take_nodeEntry hfields hdistinct.1 hwhole.1 hhead]
      exact congrArg _ (funext fun d => ih hdistinct.2 hwhole.2 htail d)
  rw [toOption_gatherNodes_closed, gather_eq, toOption_bind, Entry.toOption_gatherAll,
    Entry.toOption_gatherAll, hentries]
  simp only [toOption_map]

/-- The items of an array are read the same in both ways, although a text is refused at the first
item too many and a value when all others have been read. -/
theorem toOption_gatherItemNodes (hfields : ∀ i, (s.field i).Agrees) {levels : Nat}
    {items : List Json} (hdistinct : IsDistinctItems items) (hwhole : IsWholeItems items)
    (hdepth : depthItems items ≤ levels) (order : List ι) (n : Nat) (d : Draft ι τ) (m : Mistake) :
    (s.gatherItemNodes levels order n (toNodes items) none d).toOption
      = (s.gatherItems order n (canonicalItems items) d >>= fun d =>
          if order.length < items.length then .error m else .ok d).toOption := by
  induction order generalizing items n d with
  | nil =>
    cases items with
    | nil =>
      show (ofContent (s.check d) >>= fun _ => .ok d).toOption
        = ((s.check d >>= fun _ => .ok d) >>= fun d => .ok d).toOption
      simp only [toOption_bind, toOption_ofContent]
      cases s.check d <;> rfl
    | cons j rest =>
      show (ofContent (s.check d) >>= fun _ => .error (.form .malformed)).toOption
        = ((s.check d >>= fun _ => .ok d) >>= fun d => .error m).toOption
      simp only [toOption_bind, toOption_ofContent]
      cases s.check d <;> rfl
  | cons i order ih =>
    cases items with
    | nil =>
      rw [toNodes, gatherItemNodes, canonicalItems, gatherItems]
      cases s.fallback i with
      | some x =>
        have hnone : IsDistinctItems [] ∧ IsWholeItems [] := ⟨trivial, trivial⟩
        exact ih hnone.1 hnone.2 (Nat.zero_le _) (n + 1) d
      | none => rfl
    | cons j rest =>
      obtain ⟨hhead, htail⟩ := Nat.max_le.mp hdepth
      have hrest := ih hdistinct.2 hwhole.2 htail (n + 1)
      rw [toNodes, gatherItemNodes, canonicalItems, gatherItems, bind_assoc]
      simp only [List.length_cons, Nat.add_lt_add_iff_right]
      rw [toOption_bind, toOption_bind, hfields i hdistinct.1 hwhole.1 hhead]
      exact congrArg _ (funext fun x => hrest (d.set i x))

/-- A record is read the same in both ways if each of its fields is. -/
theorem draft_agrees (hfields : ∀ i, (s.field i).Agrees) :
    (⟨s.ofJson, s.ofNode⟩ : Field (Draft ι τ)).Agrees := by
  intro j levels hdistinct hwhole hdepth
  cases j with
  | object members =>
    cases levels with
    | zero => exact absurd hdepth (Nat.not_succ_le_zero _)
    | succ levels =>
      have hmembers := toOption_gatherNodes hfields hdistinct.2 hwhole
        (Nat.le_of_succ_le_succ hdepth) Draft.blank
      have hperm := Json.entries_canonical_perm hdistinct.1
      exact hmembers.trans (gather_perm hperm _).symm
  | array items =>
    cases levels with
    | zero => exact absurd hdepth (Nat.not_succ_le_zero _)
    | succ levels =>
      have hitems := toOption_gatherItemNodes hfields hdistinct hwhole
        (Nat.le_of_succ_le_succ hdepth) s.order 0 Draft.blank
        (.wrongLength (canonicalItems items).length "fewer elements in array")
      rw [← Json.length_canonicalItems items] at hitems
      exact hitems
  | null | boolean | number | text => exact Field.toOption_of_mismatch rfl rfl

/-- What is made of the fields of a record is the same in both ways if the fields are. -/
theorem agrees {α : Type} (hfields : ∀ i, (s.field i).Agrees)
    (ofDraft : Draft ι τ → Except Mistake α) :
    Field.Agrees ⟨fun j => s.ofJson j >>= ofDraft,
      fun levels n => s.ofNode levels n >>= fun d => ofContent (ofDraft d)⟩ := by
  intro j levels hdistinct hwhole hdepth
  have hdraft : (s.ofNode levels (toNode j)).toOption = (s.ofJson (canonical j)).toOption :=
    draft_agrees hfields hdistinct hwhole hdepth
  show (s.ofNode levels (toNode j) >>= fun d => ofContent (ofDraft d)).toOption
    = (s.ofJson (canonical j) >>= ofDraft).toOption
  rw [toOption_bind, toOption_bind, hdraft]
  simp only [toOption_ofContent]

end Shape

/-! ## Documents -/

/-- A text of a value, with the members of objects in any order, is read as the value is. -/
theorem ofText_iff {α : Type} {f : Field α} (hf : f.Agrees) {j v : Json} (harranges : j.Arranges v)
    (hwhole : v.IsWhole) (hdepth : v.depth ≤ Json.maxLevels) (x : α) :
    f.ofJson v = .ok x ↔ ofText f.ofNode j.compact = .ok x := by
  have hj := harranges.isWhole hwhole
  have hroot := hf harranges.distinct hj (harranges.depth ▸ hdepth)
  rw [← toOption_eq_some, ← toOption_eq_some, ← harranges.canonical_eq, ← hroot,
    ofText_of_document f.ofNode (Json.Document.ofText_compact hj)]

end AgentPulse.Record
