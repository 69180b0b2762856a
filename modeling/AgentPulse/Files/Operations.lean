import AgentPulse.Files.Route

/-!
# Reading and changing file trees

The operations take the folder that one is in and a path as it is written.
-/

namespace AgentPulse.Files

/-! ## Files -/

/-- The number of the file at a path. -/
def fileAt (t : Tree) (here : Place) (path : Bytes) : Except Fault FileId := do
  match ← entryAt t here path with
  | (_, .file id) => return id
  | (_, .folder _) => .error .aFolder
  | (_, .link _) => .error .missing

/-- The content of a file. -/
def readFile (t : Tree) (here : Place) (path : Bytes) : Except Fault Bytes := do
  return t.content (← fileAt t here path)

/-- The file at a path, made with the given permissions if nothing is there. -/
def openFile (t : Tree) (here : Place) (path : Bytes) (mode : Mode := Tree.fileMode) :
    Except Fault (FileId × Tree) := do
  match ← locate t here path { isMaking := true } with
  | .found _ (.file id) => return (id, t)
  | .found _ _ => .error .aFolder
  | .free p name => return t.putFile (p ++ [name]) { mode }

/-- Let a file have a content, making it if it is missing. -/
def writeFile (t : Tree) (here : Place) (path content : Bytes) (mode : Mode := Tree.fileMode) :
    Except Fault Tree := do
  let (id, t) ← openFile t here path mode
  return t.setContent id content

/-! ## Folders -/

/-- Make a folder where nothing is. -/
def makeFolder (t : Tree) (here : Place) (path : Bytes) (mode : Mode := Tree.folderMode) :
    Except Fault Tree := do
  -- A slash at the end does not matter to what is not there yet.
  let plain := withoutSlashes path
  match ← locate t here (if plain.isEmpty then path else plain) .atLink with
  | .free p name => return t.put (p ++ [name]) (.folder mode)
  | .found _ _ => .error .alreadyThere

/-- Make a folder unless it is there already. -/
def ensureFolder (t : Tree) (here : Place) (path : Bytes) (mode : Mode) : Except Fault Tree :=
  match makeFolder t here path mode with
  | .error .missing => .error .missing
  | .error f => if isFolder t here path then .ok t else .error f
  | .ok t => .ok t

/-- Make the first of some folders; each one is inside the next. Those that are missing are made
from the outermost inwards, up to the first that cannot be made. -/
def makeInside (here : Place) (mode : Mode) : List Bytes → Tree → Tree × Except Fault Unit
  | [], t => (t, .ok ())
  | path :: outer, t =>
    match ensureFolder t here path mode with
    | .ok t => (t, .ok ())
    | .error .missing =>
      match makeInside here mode outer t with
      | (t, .error f) => (t, .error f)
      | (t, .ok ()) =>
        match ensureFolder t here path mode with
        | .ok t => (t, .ok ())
        | .error f => (t, .error f)
    | .error f => (t, .error f)

/-- Make a folder and those around it that are missing. What has been made stays, even if the rest
cannot be. -/
def makeFolders (t : Tree) (here : Place) (path : Bytes) (mode : Mode := Tree.folderMode) :
    Tree × Except Fault Unit := makeInside here mode (enclosing path) t

/-- The entries of a folder by name. -/
def entriesOf (t : Tree) (here : Place) (path : Bytes) : Except Fault (List (Bytes × Entry)) := do
  let p ← folderAt t here path
  return t.children p

/-! ## Names -/

/-- Put an entry at a path where nothing is. -/
def addEntry (t : Tree) (here : Place) (path : Bytes) (e : Entry) : Except Fault Tree := do
  match ← locate t here path .atLink with
  | .free p name => if endsInSlash path then .error .missing else return t.put (p ++ [name]) e
  | .found _ _ => .error .alreadyThere

/-- Make a link. -/
def makeLink (t : Tree) (here : Place) (target path : Bytes) : Except Fault Tree :=
  addEntry t here path (.link target)

/-- Give a file one more name. -/
def addName (t : Tree) (here : Place) (old new : Bytes) : Except Fault Tree := do
  match ← entryAt t here old .atLink with
  | (_, .folder _) => .error .notPermitted
  | (_, e) => addEntry t here new e

/-- Take away an entry that is not a folder. -/
def removeFile (t : Tree) (here : Place) (path : Bytes) : Except Fault Tree := do
  match ← entryAt t here path .atLink with
  | (_, .folder _) => .error .aFolder
  | (p, _) => return t.delete p

/-- Take away a folder in which nothing is. -/
def removeFolder (t : Tree) (here : Place) (path : Bytes) : Except Fault Tree := do
  match ← entryAt t here path .atLink with
  | (p, .folder _) =>
    if (names path).getLast? = some dot then .error .badArgument
    else if (t.children p).isEmpty && !p.isEmpty then return t.delete p else .error .notEmpty
  | _ => .error .notAFolder

end AgentPulse.Files
