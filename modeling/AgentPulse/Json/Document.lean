import AgentPulse.Json.Lexeme

/-!
# What JSON text holds

A `Document` is the tree of a JSON text in the order of the text, repeated names and all, up to the
place where the text stops being JSON. A reader of the tree therefore meets mistakes of form and of
content in the order in which they stand.

After the comma in an array an item always follows, and after the comma in an object a member: where
the text has none, a broken node stands in its place.
-/

namespace AgentPulse.Json

/-- A value as written, or the place where the text breaks off. `ending` is the reason why no
closing bracket ends an array or object, and none where one does. -/
inductive Node where
  | null
  | boolean (b : Bool)
  | number (n : Numeral)
  | text (units : List TextUnit)
  | array (items : List Node) (ending : Option Break)
  /-- Members are pairs of nodes, because the text may have something else where a name is due. -/
  | object (members : List (Node × Node)) (ending : Option Break)
  | broken (b : Break)
  deriving Inhabited, Repr

/-- The tree of a text: its first value, and whether anything but blanks follows it. -/
structure Document where
  root : Node
  trailing : Bool
  deriving Inhabited, Repr

namespace Document

/-- An array or object that is still open, with what it holds so far, latest first. -/
inductive Frame where
  | array (before : List Node)
  | object (before : List (Node × Node))
  /-- An object of which the latest name awaits its value. -/
  | member (before : List (Node × Node)) (name : Node)

/-- What is due next. -/
inductive Due where
  | value
  /-- The first item of an array, or its end. -/
  | item
  /-- The first name of an object, or its end. -/
  | firstName
  | name
  | colon
  /-- A comma, or the end of the innermost array or object. -/
  | separator

/-- How far a text has been taken in. -/
inductive State where
  | within (due : Due) (stack : List Frame)
  | complete (root : Node) (trailing : Bool)
  | failed (root : Node)

/-- A finished value takes its place in the innermost open frame, or is the whole. -/
def settle (node : Node) : List Frame → State
  | [] => .complete node false
  | .array before :: stack => .within .separator (.array (node :: before) :: stack)
  | .member before name :: stack => .within .separator (.object ((name, node) :: before) :: stack)
  | .object before :: stack => .within .separator (.object before :: stack)

/-- The tree of a text that breaks off: a last node in the innermost frame, no frame closed. -/
def abandon (node : Node) : List Frame → Node
  | [] => node
  | .array before :: stack =>
    abandon (.array (node :: before).reverse (some .misplaced)) stack
  | .object before :: stack =>
    abandon (.object ((node, .broken .misplaced) :: before).reverse (some .misplaced)) stack
  | .member before name :: stack =>
    abandon (.object ((name, node) :: before).reverse (some .misplaced)) stack

/-- End the innermost array or object, with the reason if no bracket does it. -/
def close (ending : Option Break) : List Frame → Option (Node × List Frame)
  | .array before :: stack => some (.array before.reverse ending, stack)
  | .object before :: stack => some (.object before.reverse ending, stack)
  | _ => none

/-- The tree of a text that breaks off where neither a comma nor a closing bracket stands. -/
def abandonFrame (b : Break) (stack : List Frame) : Node :=
  match close (some b) stack with
  | some (node, stack) => abandon node stack
  | none => abandon (.broken b) stack

/-- A value due, and a lexeme found. -/
def startValue (stack : List Frame) : Lexeme → State
  | .null => settle .null stack
  | .boolean b => settle (.boolean b) stack
  | .number n => settle (.number n) stack
  | .text units => settle (.text units) stack
  | .openBracket => .within .item (.array [] :: stack)
  | .openBrace => .within .firstName (.object [] :: stack)
  | .broken b => .failed (abandon (.broken b) stack)
  | _ => .failed (abandon (.broken .misplaced) stack)

/-- A name due, and a lexeme found. Only a text can be a name; of anything else the tree keeps how
it starts. -/
def startName (stack : List Frame) : Lexeme → State
  | .text units =>
    match stack with
    | .object before :: stack => .within .colon (.member before (.text units) :: stack)
    | stack => .failed (abandon (.broken .misplaced) stack)
  | .null => .failed (abandon .null stack)
  | .boolean b => .failed (abandon (.boolean b) stack)
  | .number n => .failed (abandon (.number n) stack)
  | .openBracket => .failed (abandon (.array [] (some .misplaced)) stack)
  | .openBrace => .failed (abandon (.object [] (some .misplaced)) stack)
  | .broken b => .failed (abandon (.broken b) stack)
  | _ => .failed (abandon (.broken .misplaced) stack)

/-- A closing bracket where the innermost frame may end. -/
def endFrame (stack : List Frame) : State :=
  match close none stack with
  | some (node, stack) => settle node stack
  | none => .failed (abandon (.broken .misplaced) stack)

/-- A separator due, and a lexeme found. -/
def startNext (stack : List Frame) (l : Lexeme) : State :=
  match l, stack with
  | .comma, .array _ :: _ => .within .value stack
  | .comma, .object _ :: _ => .within .name stack
  | .closeBracket, .array _ :: _ => endFrame stack
  | .closeBrace, .object _ :: _ => endFrame stack
  | _, _ => .failed (abandonFrame .misplaced stack)

/-- Take in one lexeme. -/
def step : State → Lexeme → State
  | .complete root _, _ => .complete root true
  | .failed root, _ => .failed root
  | .within .value stack, l => startValue stack l
  | .within .item stack, l => if l = .closeBracket then endFrame stack else startValue stack l
  | .within .firstName stack, l => if l = .closeBrace then endFrame stack else startName stack l
  | .within .name stack, l => startName stack l
  | .within .colon stack, l =>
    if l = .colon then .within .value stack else .failed (abandon (.broken .misplaced) stack)
  | .within .separator stack, l => startNext stack l

/-- The tree, now that the text has ended. -/
def finish : State → Document
  | .complete root trailing => ⟨root, trailing⟩
  | .failed root => ⟨root, false⟩
  | .within .value stack | .within .name stack | .within .colon stack =>
    ⟨abandon (.broken .atEnd) stack, false⟩
  | .within .item stack | .within .firstName stack | .within .separator stack =>
    ⟨abandonFrame .atEnd stack, false⟩

/-- The tree of a sequence of lexemes. -/
def ofLexemes (ls : List Lexeme) : Document := finish (ls.foldl step (.within .value []))

/-- The tree of a text. -/
def ofChars (cs : List Char) : Document := ofLexemes (Lexeme.scan cs)

/-- The tree of a text. -/
def ofText (s : String) : Document := ofChars s.toList

end Document

end AgentPulse.Json
