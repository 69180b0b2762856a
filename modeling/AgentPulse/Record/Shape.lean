import AgentPulse.Record.Field

/-!
# Records

A `Shape` lists the fields of a record. A record is written as an object, its fields under their
names in any order, or as an array of its fields in the order of the shape. Fields are gathered in a
`Draft` as they come; `require` then asks for each field in order, so the first one missing is the
one reported.

Names that the shape does not have are passed over, or refused where the shape is closed. A field
that is given twice is a mistake, found at its second name. What fields must satisfy together is
looked at as soon as the last of them has been read: at the end of an object, but in an array before
anything that comes after the last field.
-/

namespace AgentPulse.Record

open Json (Node Break)

/-- The fields read so far. -/
def Draft (ι : Type) (τ : ι → Type) : Type := (i : ι) → Option (τ i)

namespace Draft

variable {ι : Type} {τ : ι → Type}

/-- Nothing read yet. -/
def blank : Draft ι τ := fun _ => none

/-- One more field read. -/
def set [DecidableEq ι] (d : Draft ι τ) (i : ι) (x : τ i) : Draft ι τ :=
  fun j => if h : i = j then some (h ▸ x) else d j

end Draft

/-- The fields of a record, tagged by `ι`. -/
structure Shape (ι : Type) (τ : ι → Type) where
  /-- What the record is called where something else is found. -/
  title : String
  /-- What the record is called where an array is too short for it. -/
  arrayTitle : String
  /-- The fields in order. -/
  order : List ι
  name : ι → String
  field : (i : ι) → Field (τ i)
  /-- The value of a field that is left out, for those that may be. -/
  fallback : (i : ι) → Option (τ i) := fun _ => none
  /-- Whether names that are not fields are refused. -/
  isClosed : Bool := false
  /-- What fields that have been read must satisfy together. -/
  check : Draft ι τ → Except Mistake Unit := fun _ => .ok ()

namespace Shape

variable {ι : Type} {τ : ι → Type} [DecidableEq ι]

/-- The field of a name. -/
def tag? (s : Shape ι τ) (name : String) : Option ι := s.order.find? fun i => s.name i == name

/-- The mistake of a name that a closed shape does not have. -/
def unknown (s : Shape ι τ) (name : String) : Mistake :=
  .unknownField name (s.order.map s.name)

/-- A field that has been read, or may be left out. -/
def require (s : Shape ι τ) (d : Draft ι τ) (i : ι) : Except Mistake (τ i) :=
  match d i, s.fallback i with
  | some x, _ => .ok x
  | none, some x => .ok x
  | none, none => .error (.missingField (s.name i))

/-! ## From values -/

/-- Gather the members of an object. -/
def gather (s : Shape ι τ) : List (String × Json) → Draft ι τ → Except Mistake (Draft ι τ)
  | [], d => do
    s.check d
    return d
  | (name, j) :: rest, d =>
    match s.tag? name with
    | none => if s.isClosed then .error (s.unknown name) else s.gather rest d
    | some i =>
      if (d i).isSome then .error (.duplicateField (s.name i))
      else do
        let x ← (s.field i).ofJson j
        s.gather rest (d.set i x)

/-- Gather the items of an array, field after field; `n` is the place of the next field. A field
that is not there and may not be left out is reported by its place. -/
def gatherItems (s : Shape ι τ) :
    List ι → Nat → List Json → Draft ι τ → Except Mistake (Draft ι τ)
  | [], _, _, d => do
    s.check d
    return d
  | i :: order, n, [], d =>
    match s.fallback i with
    | some _ => s.gatherItems order (n + 1) [] d
    | none => .error (.wrongLength n s.arrayTitle)
  | i :: order, n, j :: rest, d => do
    let x ← (s.field i).ofJson j
    s.gatherItems order (n + 1) rest (d.set i x)

/-- The fields of a record that is given as a value. -/
def ofJson (s : Shape ι τ) : Json → Except Mistake (Draft ι τ)
  | .object members => s.gather members Draft.blank
  | .array items => do
    let d ← s.gatherItems s.order 0 items Draft.blank
    if s.order.length < items.length then
      .error (.wrongLength items.length "fewer elements in array")
    else return d
  | j => mismatch j s.title

/-! ## From documents -/

/-- Gather the members of an object in the order of the text. -/
def gatherNodes (s : Shape ι τ) (levels : Nat) :
    List (Node × Node) → Option Break → Draft ι τ → Except ReadError (Draft ι τ)
  | [], ending, d => do
    ofForm (Json.checkEnd ending)
    ofContent (s.check d)
    return d
  | (name, n) :: rest, ending, d => do
    let key ← ofForm name.readName
    match s.tag? key with
    | none =>
      if s.isClosed then .error (.content (s.unknown key))
      else do
        ofForm n.skip
        s.gatherNodes levels rest ending d
    | some i =>
      if (d i).isSome then .error (.content (.duplicateField (s.name i)))
      else do
        let x ← (s.field i).ofNode levels n
        s.gatherNodes levels rest ending (d.set i x)

/-- Gather the items of an array in the order of the text; `n` is the place of the next field. After
the last field only a closing bracket may stand. -/
def gatherItemNodes (s : Shape ι τ) (levels : Nat) :
    List ι → Nat → List Node → Option Break → Draft ι τ → Except ReadError (Draft ι τ)
  | [], _, after, ending, d => do
    ofContent (s.check d)
    ofForm (if after.isEmpty then Json.checkEnd ending else .error .malformed)
    return d
  | i :: order, n, [], ending, d => do
    ofForm (Json.checkEnd ending)
    match s.fallback i with
    | some _ => s.gatherItemNodes levels order (n + 1) [] ending d
    | none => .error (.content (.wrongLength n s.arrayTitle))
  | i :: order, n, node :: rest, ending, d => do
    let x ← (s.field i).ofNode levels node
    s.gatherItemNodes levels order (n + 1) rest ending (d.set i x)

/-- The fields of a record that is given as a node, with the given number of levels left. -/
def ofNode (s : Shape ι τ) (levels : Nat) : Node → Except ReadError (Draft ι τ)
  | .object members ending => do
    let levels ← ofForm (Node.descend levels)
    s.gatherNodes levels members ending Draft.blank
  | .array items ending => do
    let levels ← ofForm (Node.descend levels)
    s.gatherItemNodes levels s.order 0 items ending Draft.blank
  | n => mismatchNode n s.title

end Shape

/-- Read a whole document: its value, and nothing after it. -/
def ofText {α : Type} (ofNode : Nat → Node → Except ReadError α) (text : String) :
    Except ReadError α := do
  let doc := Json.Document.ofText text
  let x ← ofNode Json.maxLevels doc.root
  if doc.trailing then .error (.form .malformed) else return x

end AgentPulse.Record
