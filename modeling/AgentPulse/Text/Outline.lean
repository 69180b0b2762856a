/-!
# Outlines of records

A labelled view of a value for people to read. The same outline is written on one line or indented
with one field a line; a view that shows only some of a record's fields ends in two dots.
-/

namespace AgentPulse.Text

/-- A labelled view of a value. -/
inductive Outline where
  /-- A value shown as the given text. -/
  | leaf (text : String)
  /-- A named record; `partly` says that it has fields which are not shown. -/
  | record (name : String) (fields : List (String × Outline)) (partly : Bool)
  /-- A named wrapper around one value. -/
  | wrapper (name : String) (content : Outline)
  /-- A sequence of values. -/
  | items (content : List Outline)

namespace Outline

mutual
/-- The outline on one line. -/
def inline : Outline → String
  | .leaf text => text
  | .record name fields partly =>
    let shown := inlineFields fields ++ if partly then [".."] else []
    name ++ " \x7b " ++ String.intercalate ", " shown ++ " \x7d"
  | .wrapper name content => name ++ "(" ++ content.inline ++ ")"
  | .items content => "[" ++ String.intercalate ", " (inlineItems content) ++ "]"
  termination_by structural o => o

/-- The fields of a record, each on one line. -/
def inlineFields : List (String × Outline) → List String
  | [] => []
  | (label, o) :: rest => (label ++ ": " ++ o.inline) :: inlineFields rest
  termination_by structural fields => fields

/-- The items of a sequence, each on one line. -/
def inlineItems : List Outline → List String
  | [] => []
  | o :: rest => o.inline :: inlineItems rest
  termination_by structural items => items
end

mutual
/-- The outline over several lines, each nested line indented by the margin and four columns. -/
def indented (margin : String) : Outline → String
  | .leaf text => text
  | .record name fields partly =>
    let inner := margin ++ "    "
    let rest := if partly then inner ++ "..\n" else ""
    name ++ " \x7b\n" ++ String.join (indentedFields inner fields) ++ rest ++ margin ++ "\x7d"
  | .wrapper name content =>
    let inner := margin ++ "    "
    name ++ "(\n" ++ inner ++ indented inner content ++ ",\n" ++ margin ++ ")"
  | .items content =>
    let inner := margin ++ "    "
    "[\n" ++ String.join (indentedItems inner content) ++ margin ++ "]"
  termination_by structural o => o

/-- The fields of a record, one a line. -/
def indentedFields (margin : String) : List (String × Outline) → List String
  | [] => []
  | (label, o) :: rest =>
    (margin ++ label ++ ": " ++ indented margin o ++ ",\n") :: indentedFields margin rest
  termination_by structural fields => fields

/-- The items of a sequence, one a line. -/
def indentedItems (margin : String) : List Outline → List String
  | [] => []
  | o :: rest => (margin ++ indented margin o ++ ",\n") :: indentedItems margin rest
  termination_by structural items => items
end

end Outline

end AgentPulse.Text
