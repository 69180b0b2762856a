import AgentPulse.Files.Tree

/-!
# Routes

A route is a path as it is written: names with slashes between them, followed from the folder that
one is in. `.` stays, `..` goes out by one folder, and a link leads to where its target leads. A
route may end at an entry, or one name beyond the last folder, where an entry can be made.
-/

namespace AgentPulse.Files

/-- The byte between names. -/
def slash : UInt8 := 0x2F

/-- The name that stays. -/
def dot : Bytes := [0x2E]

/-- The name that goes out by one folder. -/
def dots : Bytes := [0x2E, 0x2E]

/-- The pieces of a path between slashes, empty ones included. -/
def pieces (path : Bytes) : List Bytes :=
  path.foldr (fun b parts =>
    match parts with
    | [] => if b = slash then [[], []] else [[b]]
    | part :: rest => if b = slash then [] :: part :: rest else (b :: part) :: rest) [[]]

/-- The names of a path. -/
def names (path : Bytes) : List Bytes := (pieces path).filter fun p => !p.isEmpty

/-- Names with slashes between them. -/
def joinNames (route : List Bytes) : Bytes := List.intercalate [slash] route

/-- Whether a path ends in a slash. -/
def endsInSlash (path : Bytes) : Bool := path.getLast? == some slash

/-- A path without the slashes at its end. -/
def withoutSlashes (path : Bytes) : Bytes := (path.reverse.dropWhile (· == slash)).reverse

/-- Where a path starts: at the outermost folder, or where one is. -/
def start (here : Place) (path : Bytes) : Place := if path.head? = some slash then [] else here

/-- The longest name. -/
def maxName : Nat := 255

/-- Paths must be shorter than this. -/
def pathLimit : Nat := 4096

/-- How many links may be followed on one route. -/
def maxLinks : Nat := 40

/-- Where a route ends. -/
inductive Destination where
  | found (p : Place) (e : Entry)
  /-- The folder is there, the name in it is not. -/
  | free (folder : Place) (name : Bytes)
  deriving Repr

/-- What is wanted at the end of a route. -/
structure Goal where
  /-- Whether a link at the end is followed. -/
  throughLink : Bool := true
  /-- Whether only a folder may be at the end. -/
  isFolder : Bool := false
  /-- Whether a file is to be made where nothing is. A route that asks for a folder at its end then
  asks for something that a file cannot be, whether or not anything is there. -/
  isMaking : Bool := false

/-- The fault of a file at the end of a route that asks for a folder. -/
def Goal.fault (g : Goal) : Fault := if g.isMaking then .aFolder else .notAFolder

/-- Follow names from a folder. -/
def follow (t : Tree) (goal : Goal) (links : Nat) (here : Place) (route : List Bytes) :
    Except Fault Destination :=
  match route with
  | [] => .ok (.found here ((t.find? here).getD (.folder Tree.folderMode)))
  | name :: rest =>
    if name = dot then follow t goal links here rest
    else if name = dots then follow t goal links here.dropLast rest
    else if maxName < name.length then .error .nameTooLong
    else match t.find? (here ++ [name]) with
      | none =>
        if !rest.isEmpty then .error .missing
        else if goal.isFolder && goal.isMaking then .error .aFolder
        else .ok (.free here name)
      | some (.folder _) => follow t goal links (here ++ [name]) rest
      | some (.file id) =>
        if !rest.isEmpty then .error .notAFolder
        else if goal.isFolder then .error goal.fault
        else .ok (.found (here ++ [name]) (.file id))
      | some (.link target) =>
        if rest.isEmpty && !goal.throughLink && !goal.isFolder then
          .ok (.found (here ++ [name]) (.link target))
        else match links with
          | 0 => .error .tooManyLinks
          | links + 1 =>
            let isFolder := goal.isFolder || (rest.isEmpty && endsInSlash target)
            follow t { goal with isFolder } links (start here target) (names target ++ rest)
  termination_by (links, route.length)

/-- Where a path leads. -/
def locate (t : Tree) (here : Place) (path : Bytes) (goal : Goal := {}) :
    Except Fault Destination :=
  if path.isEmpty then .error .missing
  else if pathLimit ≤ path.length then .error .nameTooLong
  else
    let isFolder := goal.isFolder || endsInSlash path
    follow t { goal with isFolder } maxLinks (start here path) (names path)

/-- The goal of a route that ends at a link where there is one. -/
def Goal.atLink : Goal := { throughLink := false }

/-- The entry at the end of a path. -/
def entryAt (t : Tree) (here : Place) (path : Bytes) (goal : Goal := {}) :
    Except Fault (Place × Entry) := do
  match ← locate t here path goal with
  | .found p e => return (p, e)
  | .free _ _ => .error .missing

/-- The folder at the end of a path. -/
def folderAt (t : Tree) (here : Place) (path : Bytes) : Except Fault Place := do
  match ← entryAt t here path with
  | (p, .folder _) => return p
  | _ => .error .notAFolder

/-- Whether a path leads to a folder. -/
def isFolder (t : Tree) (here : Place) (path : Bytes) : Bool :=
  match folderAt t here path with
  | .ok _ => true
  | .error _ => false

/-! ## Folders around a path -/

/-- The paths of the folders around a path, from the path itself outwards, given its pieces in
reverse. A piece that is empty or a `.` does not count, unless the path starts with it. -/
def outward : List Bytes → List Bytes
  | [] => []
  | [first] => if first.isEmpty then [[slash]] else [first]
  | piece :: outer =>
    if piece.isEmpty || piece = dot then outward outer
    else joinNames (piece :: outer).reverse :: outward outer

/-- A path and the paths of the folders around it, outwards. -/
def enclosing (path : Bytes) : List Bytes :=
  if path.isEmpty then [] else outward (pieces path).reverse

/-- The folder around the last name of a path, unless that is the one that one is in. -/
def parent? (path : Bytes) : Option Bytes := (enclosing path)[1]?

end AgentPulse.Files
