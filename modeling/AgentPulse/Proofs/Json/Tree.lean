import AgentPulse.Proofs.Json.Word

/-!
# Compact text taken in

`take` follows how far a text has been taken in. Where a value is due, the compact text of a value
is taken in as one node, and what follows it is none of its concern (`take_render`); so the document
of a compact text has this node as its root and nothing after it (`ofText_compact`).
-/

namespace AgentPulse.Json

/-! ## The node of a value -/

/-- The integer that a number is. -/
def Number.whole : Number → Int
  | .integer n => n
  | .double _ => 0

mutual
/-- What the compact text of a value is taken in as. -/
def toNode : Json → Node
  | .null => .null
  | .boolean b => .boolean b
  | .number n => .number (numeral (Number.whole n))
  | .text s => .text (units s)
  | .array items => .array (toNodes items) none
  | .object members => .object (toMemberNodes members) none
  termination_by structural j => j

/-- `toNode` of each of some values. -/
def toNodes : List Json → List Node
  | [] => []
  | j :: rest => toNode j :: toNodes rest
  termination_by structural items => items

/-- The nodes of the names and values of some members. -/
def toMemberNodes : List (String × Json) → List (Node × Node)
  | [] => []
  | (name, j) :: rest => (.text (units name), toNode j) :: toMemberNodes rest
  termination_by structural members => members
end

mutual
/-- Every number in the value is an integer of 64 bits. -/
def IsWhole : Json → Prop
  | .number (.integer n) => Number.isWord n = true
  | .number (.double _) => False
  | .array items => IsWholeItems items
  | .object members => IsWholeMembers members
  | _ => True
  termination_by structural j => j

/-- `IsWhole` for each of some values. -/
def IsWholeItems : List Json → Prop
  | [] => True
  | j :: rest => IsWhole j ∧ IsWholeItems rest
  termination_by structural items => items

/-- `IsWhole` for the value of each of some members. -/
def IsWholeMembers : List (String × Json) → Prop
  | [] => True
  | (_, j) :: rest => IsWhole j ∧ IsWholeMembers rest
  termination_by structural members => members
end

namespace Document

variable {state : State} {stack : List Frame}

/-- How far a text is taken in, from where reading has got to before it. -/
def take (state : State) (cs : List Char) : State := (Lexeme.scan cs).foldl step state

/-- A word is taken in, and then what follows it. -/
theorem take_word (state : State) {cs rest : List Char} {l : Lexeme}
    (h : Lexeme.scan cs = l :: Lexeme.scan rest) : take state cs = take (step state l) rest := by
  rw [take, h, List.foldl_cons, take]

theorem take_mark (state : State) {c : Char} {l : Lexeme} (h : (c, l) ∈ Lexeme.marks)
    (rest : List Char) : take state (c :: rest) = take (step state l) rest :=
  take_word state (Lexeme.scan_mark rest h)

/-- A state in which a value is due: anything but a closing bracket counts as its start. -/
def AwaitsValue (state : State) (stack : List Frame) : Prop :=
  ∀ l, l ≠ .closeBracket → step state l = startValue stack l

theorem awaitsValue_value (stack : List Frame) : AwaitsValue (.within .value stack) stack :=
  fun _ _ => rfl

theorem awaitsValue_item (stack : List Frame) : AwaitsValue (.within .item stack) stack :=
  fun _ h => if_neg h

/-- A state in which a name is due: anything but a closing brace counts as its start. -/
def AwaitsName (state : State) (stack : List Frame) : Prop :=
  ∀ l, l ≠ .closeBrace → step state l = startName stack l

theorem awaitsName_name (stack : List Frame) : AwaitsName (.within .name stack) stack :=
  fun _ _ => rfl

theorem awaitsName_firstName (stack : List Frame) : AwaitsName (.within .firstName stack) stack :=
  fun _ h => if_neg h

/-- Where a name is due, a text in quotes and a colon are taken in as the name of a member. -/
theorem take_name {before : List (Node × Node)}
    (hstate : AwaitsName state (.object before :: stack)) (name : String) (rest : List Char) :
    take state (renderText [] name ++ ':' :: rest)
      = take (.within .value (.member before (.text (units name)) :: stack)) rest := by
  rw [take_word state (Lexeme.scan_text _ name), hstate _ (by simp),
    take_mark _ (l := .colon) (by simp [Lexeme.marks])]
  rfl

mutual
/-- Where a value is due, the compact text of a value is taken in as its node. -/
theorem take_render (j : Json) (hj : j.IsWhole) (state : State) (stack : List Frame)
    (hstate : AwaitsValue state stack) (rest : List Char) (hrest : EndsNumber rest) :
    take state (render [] j ++ rest) = take (settle (toNode j) stack) rest := by
  match j with
  | .null =>
    have hscan : Lexeme.scan (render [] .null ++ rest) = .null :: Lexeme.scan rest :=
      Lexeme.scan_literal rest (.head _)
    rw [take_word state hscan, hstate _ (by simp)]
    rfl
  | .boolean b =>
    have hscan : Lexeme.scan (render [] (.boolean b) ++ rest) = .boolean b :: Lexeme.scan rest := by
      cases b with
      | true => exact Lexeme.scan_literal rest (.tail _ (.head _))
      | false => exact Lexeme.scan_literal rest (.tail _ (.tail _ (.head _)))
    rw [take_word state hscan, hstate _ (by simp)]
    rfl
  | .number (.integer n) =>
    have hscan : Lexeme.scan (render [] (.number (.integer n)) ++ rest)
        = .number (numeral n) :: Lexeme.scan rest := Lexeme.scan_integer n hrest
    rw [take_word state hscan, hstate _ (by simp)]
    rfl
  | .number (.double d) => exact hj.elim
  | .text s =>
    have hscan : Lexeme.scan (render [] (.text s) ++ rest) = .text (units s) :: Lexeme.scan rest :=
      Lexeme.scan_text rest s
    rw [take_word state hscan, hstate _ (by simp)]
    rfl
  | .array items =>
    show take state ('[' :: (renderItems [] items ++ [']']) ++ rest) = _
    rw [List.cons_append, take_mark state (l := .openBracket) (by simp [Lexeme.marks]),
      hstate _ (by simp), List.append_assoc, List.singleton_append]
    by_cases hne : items = []
    · subst hne
      exact take_mark _ (l := .closeBracket) (by simp [Lexeme.marks]) rest
    · exact take_renderItems items hj hne _ [] stack (awaitsValue_item _) rest
  | .object members =>
    show take state ('{' :: (renderMembers [] members ++ ['}']) ++ rest) = _
    rw [List.cons_append, take_mark state (l := .openBrace) (by simp [Lexeme.marks]),
      hstate _ (by simp), List.append_assoc, List.singleton_append]
    by_cases hne : members = []
    · subst hne
      exact take_mark _ (l := .closeBrace) (by simp [Lexeme.marks]) rest
    · exact take_renderMembers members hj hne _ [] stack (awaitsName_firstName _) rest
  termination_by structural j

/-- The items of an array are taken in as their nodes, up to the closing bracket. -/
theorem take_renderItems (items : List Json) (hitems : IsWholeItems items) (hne : items ≠ [])
    (state : State) (before : List Node) (stack : List Frame)
    (hstate : AwaitsValue state (.array before :: stack)) (rest : List Char) :
    take state (renderItems [] items ++ ']' :: rest)
      = take (settle (.array (before.reverse ++ toNodes items) none) stack) rest := by
  -- The last item has no comma behind it, so it is a case of its own; behind a comma no bracket may
  -- close, which is why the state is not fixed.
  match items with
  | [] => exact absurd rfl hne
  | [j] =>
    rw [renderItems, take_render j hitems.1 state _ hstate _ (endsNumber_cons (by simp) rest),
      take_mark _ (l := .closeBracket) (by simp [Lexeme.marks])]
    show take (settle (.array (toNode j :: before).reverse none) stack) rest = _
    rw [List.reverse_cons]
    rfl
  | j :: k :: more =>
    have hrender : renderItems [] (j :: k :: more)
        = render [] j ++ ',' :: renderItems [] (k :: more) := rfl
    rw [hrender, List.append_assoc, List.cons_append,
      take_render j hitems.1 state _ hstate _ (endsNumber_cons (by simp) _),
      take_mark _ (l := .comma) (by simp [Lexeme.marks])]
    refine (take_renderItems (k :: more) hitems.2 (List.cons_ne_nil _ _) _ (toNode j :: before)
      stack (awaitsValue_value _) rest).trans ?_
    rw [List.reverse_cons, List.append_assoc]
    rfl
  termination_by structural items

/-- The members of an object are taken in as their nodes, up to the closing brace. -/
theorem take_renderMembers (members : List (String × Json)) (hmembers : IsWholeMembers members)
    (hne : members ≠ []) (state : State) (before : List (Node × Node)) (stack : List Frame)
    (hstate : AwaitsName state (.object before :: stack)) (rest : List Char) :
    take state (renderMembers [] members ++ '}' :: rest)
      = take (settle (.object (before.reverse ++ toMemberNodes members) none) stack) rest := by
  match members with
  | [] => exact absurd rfl hne
  | [(name, j)] =>
    rw [renderMembers, List.append_assoc, List.cons_append, take_name hstate,
      take_render j hmembers.1 _ _ (awaitsValue_value _) _ (endsNumber_cons (by simp) rest),
      take_mark _ (l := .closeBrace) (by simp [Lexeme.marks])]
    show take (settle (.object ((.text (units name), toNode j) :: before).reverse none) stack) rest
      = _
    rw [List.reverse_cons]
    rfl
  | (name, j) :: m :: more =>
    have hrender : renderMembers [] ((name, j) :: m :: more)
        = renderText [] name ++ ':' :: render [] j ++ ',' :: renderMembers [] (m :: more) := rfl
    rw [hrender, List.append_assoc, List.append_assoc, List.cons_append, List.cons_append,
      take_name hstate,
      take_render j hmembers.1 _ _ (awaitsValue_value _) _ (endsNumber_cons (by simp) _),
      take_mark _ (l := .comma) (by simp [Lexeme.marks])]
    refine (take_renderMembers (m :: more) hmembers.2 (List.cons_ne_nil _ _) _
      ((.text (units name), toNode j) :: before) stack (awaitsName_name _) rest).trans ?_
    rw [List.reverse_cons, List.append_assoc]
    rfl
  termination_by structural members
end

/-- The document of a compact text is the node of the value and nothing else. -/
theorem ofText_compact {j : Json} (hj : j.IsWhole) :
    ofText (compact j) = ⟨toNode j, false⟩ := by
  have htake := take_render j hj _ [] (awaitsValue_value []) [] endsNumber_nil
  rw [List.append_nil] at htake
  rw [ofText, compact, String.toList_ofList, ofChars, ofLexemes, ← take, htake, take, Lexeme.scan]
  rfl

end Document

end AgentPulse.Json
