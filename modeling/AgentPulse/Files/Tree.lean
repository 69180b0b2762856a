import AgentPulse.Text.Utf8
import AgentPulse.Text.Decimal

/-!
# File trees

A tree is a number of entries at places, a place being the names of the folders around an entry and
its own name. The outermost folder is always there. Names are strings of bytes.

Files are kept apart from the entries that lead to them: a file may have several names, and it lasts
as long as somebody has it open, even when its last name is gone.
-/

namespace AgentPulse.Files

/-- Where an entry is: the names from the outermost folder to it. -/
abbrev Place := List Bytes

/-- The number of a file in its tree. -/
abbrev FileId := Nat

/-- Permissions: three bits each for the owner, the group and all others. -/
abbrev Mode := Nat

/-- What is at a place. -/
inductive Entry where
  | file (id : FileId)
  | folder (mode : Mode)
  /-- Another name for what the target leads to. -/
  | link (target : Bytes)
  deriving DecidableEq, Repr, Inhabited

/-- Whether an entry is a folder. -/
def Entry.isFolder : Entry → Bool
  | .folder _ => true
  | _ => false

/-- What is kept under the number of a file. -/
structure File where
  content : Bytes := []
  mode : Mode
  /-- When the content was changed. -/
  time : Nat := 0
  deriving DecidableEq, Repr, Inhabited

/-- Why the system refuses an operation. -/
inductive Fault where
  | notPermitted
  | missing
  | noAccess
  | alreadyThere
  | notAFolder
  | aFolder
  | notEmpty
  | nameTooLong
  | tooManyLinks
  | badArgument
  | badDescriptor
  deriving DecidableEq, Repr

/-- The number of a fault. -/
def Fault.number : Fault → Nat
  | .notPermitted => 1
  | .missing => 2
  | .badDescriptor => 9
  | .noAccess => 13
  | .alreadyThere => 17
  | .notAFolder => 20
  | .aFolder => 21
  | .badArgument => 22
  | .nameTooLong => 36
  | .notEmpty => 39
  | .tooManyLinks => 40

/-- The fault in words. -/
def Fault.words : Fault → String
  | .notPermitted => "Operation not permitted"
  | .missing => "No such file or directory"
  | .noAccess => "Permission denied"
  | .alreadyThere => "File exists"
  | .notAFolder => "Not a directory"
  | .aFolder => "Is a directory"
  | .badArgument => "Invalid argument"
  | .badDescriptor => "Bad file descriptor"
  | .nameTooLong => "File name too long"
  | .notEmpty => "Directory not empty"
  | .tooManyLinks => "Too many levels of symbolic links"

/-- The fault in words and by number. -/
def Fault.message (f : Fault) : String :=
  f.words ++ " (os error " ++ Text.Decimal.ofNat f.number ++ ")"

/-- Entries at their places, each place once, and files by number. -/
structure Tree where
  entries : List (Place × Entry) := []
  files : Array File := #[]
  /-- The time that changes are made at, in thousandths of a second. -/
  now : Nat := 0
  deriving DecidableEq, Repr, Inhabited

namespace Tree

/-- The permissions of a folder, if nothing else is said. -/
def folderMode : Mode := 0o755

/-- The permissions of a file, if nothing else is said. -/
def fileMode : Mode := 0o644

/-! ## Files -/

/-- The file of a number. -/
def file (t : Tree) (id : FileId) : File := t.files.getD id { mode := fileMode }

/-- The content of a file. -/
def content (t : Tree) (id : FileId) : Bytes := (t.file id).content

/-- Let a file have a content. -/
def setContent (t : Tree) (id : FileId) (content : Bytes) : Tree :=
  { t with files := t.files.modify id fun f => { f with content, time := t.now } }

/-- Let a file count as changed at a time. -/
def setTime (t : Tree) (id : FileId) (time : Nat) : Tree :=
  { t with files := t.files.modify id fun f => { f with time } }

/-- Let a file have permissions. -/
def setMode (t : Tree) (id : FileId) (mode : Mode) : Tree :=
  { t with files := t.files.modify id fun f => { f with mode } }

/-! ## Entries -/

/-- What is at a place. -/
def find? (t : Tree) (p : Place) : Option Entry :=
  if p = [] then some (.folder folderMode) else (t.entries.find? fun e => e.1 == p).map (·.2)

/-- Put an entry at a place, in the stead of the one there. -/
def put (t : Tree) (p : Place) (e : Entry) : Tree :=
  if (t.find? p).isSome then
    { t with entries := t.entries.map fun old => if old.1 = p then (p, e) else old }
  else { t with entries := t.entries ++ [(p, e)] }

/-- Put a new file at a place. -/
def putFile (t : Tree) (p : Place) (f : File) : FileId × Tree :=
  let f := { f with time := t.now }
  (t.files.size, { t with files := t.files.push f }.put p (.file t.files.size))

/-- Take away what is at a place. -/
def delete (t : Tree) (p : Place) : Tree :=
  { t with entries := t.entries.filter fun e => e.1 != p }

/-- Take away what is at a place and below it. -/
def prune (t : Tree) (p : Place) : Tree :=
  { t with entries := t.entries.filter fun e => !p.isPrefixOf e.1 }

/-- Move what is at a place and below it to another. -/
def move (t : Tree) (p q : Place) : Tree :=
  { t with entries := t.entries.map fun e =>
      if p.isPrefixOf e.1 then (q ++ e.1.drop p.length, e.2) else e }

/-- The entries of a folder by name. -/
def children (t : Tree) (p : Place) : List (Bytes × Entry) :=
  t.entries.filterMap fun e =>
    match e.1.getLast? with
    | some name => if e.1.dropLast = p then some (name, e.2) else none
    | none => none

/-- How many names a file has. -/
def nameCount (t : Tree) (id : FileId) : Nat := t.entries.countP fun e => e.2 == .file id

end Tree

end AgentPulse.Files
