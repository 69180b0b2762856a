import AgentPulse.Shell.Expansion

/-!
# Opening and connecting

How paths are opened, devices among them, and how redirections connect descriptors with what was
opened.
-/

namespace AgentPulse.Shell

namespace Act

/-- Make a channel. -/
def newChannel (c : Channel) : Act Nat := modifyGet fun s => s.addChannel c

/-- What is read from the device that knows no order: every byte in turn. -/
def disorder : Raw := (List.replicate (endless / 256) ((List.range 256).map Char.ofNat)).flatten

/-- The channel of a device. -/
def openDevice (name : String) : Act (Except Files.Fault Nat) := do
  let standard (d : Nat) : Act (Except Files.Fault Nat) := do
    match (← get).channelNumber? d with
    | some n => return .ok n
    | none => return .error .missing
  match name with
  | "stdin" => standard 0
  | "stdout" => standard 1
  | "stderr" => standard 2
  | "full" => return .ok (← newChannel .full)
  | "zero" => return .ok (← newChannel (.pipe { front := List.replicate endless '\x00' }))
  | "random" | "urandom" => return .ok (← newChannel (.pipe { front := disorder }))
  | _ => return .ok (← newChannel .null)

/-- Open what is at a path to read it. -/
def openToRead (path : Raw) : Act (Except Files.Fault Nat) := do
  let s ← get
  match Files.entryAt s.tree s.folder path.toBytes with
  | .error f => return .error f
  | .ok (p, e) =>
    match System.deviceAt? p, e with
    | some name, _ => openDevice name
    | none, .file id => return .ok (← newChannel (.file id 0 false))
    | none, _ => return .ok (← newChannel .folder)

/-- How a file is opened to write to it. -/
inductive Opening where
  /-- What was in it is lost. -/
  | emptied
  | appending
  /-- What was in it is overwritten from the start on. -/
  | kept
  deriving DecidableEq, Repr

/-- Open what is at a path to write to it. A file that is missing is made. -/
def openToWrite (path : Raw) (how : Opening) : Act (Except Files.Fault Nat) := do
  let s ← get
  let device := match Files.entryAt s.tree s.folder path.toBytes with
    | .ok (p, _) => System.deviceAt? p
    | .error _ => none
  match device with
  | some name => openDevice name
  | none =>
    let mode : Files.Mode := 0o666 - (0o666 &&& s.mask)
    match Files.openFile s.tree s.folder path.toBytes mode with
    | .error f => return .error f
    | .ok (id, tree) =>
      let tree := if how = .emptied then tree.setContent id [] else tree
      set { s with tree }
      return .ok (← newChannel (.file id 0 (how == .appending)))

/-- All that can be read at a path. -/
def readPath (path : Raw) : Act (Except Files.Fault Raw) := do
  match ← openToRead path with
  | .error f => return .error f
  | .ok n => lookAt n

/-- Let a file have a content. -/
def writePath (path text : Raw) (how : Opening := .emptied) : Act (Except Files.Fault Unit) := do
  match ← openToWrite path how with
  | .error f => return .error f
  | .ok n =>
    writeTo n text
    return .ok ()

end Act

/-! ## Redirections -/

/-- What a redirection asks for once its words have been expanded. -/
inductive Connection where
  | path (descriptor : Nat) (kind : Redirection) (path : Raw)
  | copy (descriptor source : Nat)
  | close (descriptor : Nat)
  | text (descriptor number : Nat)

/-- Expand the words of a redirection. -/
def connectionFor (output : OutputOf) (fuel : Nat) : Redirect → Course Connection
  | .toText d number => return .text d number
  | .toPath d .duplicate w => do
    match ← fieldsFor output fuel w with
    | [] => Course.fail "redir error"
    | ['-'] :: _ => return .close d
    | text :: _ =>
      if text.length = 1 ∧ text.all Char.isDigit then return .copy d (Text.Decimal.value text)
      else Course.fail "Syntax error: Bad fd number"
  | .toPath d kind w => do
    let text ← textFor output fuel w
    return .path d kind text

/-- Why a file cannot be opened or made. -/
def whyNotOpen (isMade : Bool) (f : Files.Fault) : String :=
  match f with
  | .missing | .notAFolder => if isMade then "Directory nonexistent" else "No such file"
  | f => f.words

/-- The channel of what is at a path, opened as a redirection asks for. -/
def openFor (kind : Redirection) (path : Raw) : Course Nat := do
  let refused (isMade : Bool) (f : Files.Fault) : Course Nat :=
    Course.fail ("cannot " ++ (if isMade then "create " else "open ") ++ path.shown ++ ": " ++
      whyNotOpen isMade f)
  let toWrite (isMade : Bool) (how : Act.Opening) : Course Nat := do
    match ← Act.openToWrite path how with
    | .ok n => return n
    | .error f => refused isMade f
  let s ← get
  match kind with
  | .readFrom | .duplicate =>
    match ← Act.openToRead path with
    | .ok n => return n
    | .error f => refused false f
  | .appendTo => toWrite true .appending
  | .openBoth => toWrite true .kept
  | .overwrite => toWrite true .emptied
  | .writeTo =>
    if !s.hasOption 'C' then toWrite true .emptied
    else match Files.entryAt s.tree s.folder path.toBytes with
      | .ok (p, e) =>
        if e.isFolder || (System.deviceAt? p).isSome then toWrite false .kept
        else refused true .alreadyThere
      | .error _ =>
        match Files.entryAt s.tree s.folder path.toBytes .atLink with
        | .ok _ => refused true .alreadyThere
        | .error _ => toWrite true .emptied

/-- Connect a descriptor. -/
def connect (output : OutputOf) (fuel : Nat) : Connection → Course Unit
  | .path d kind path => do
    let n ← openFor kind path
    modify fun s => s.connect d n
  | .copy d source => do
    let s ← get
    match s.channelNumber? source with
    | some n => set (s.connect d n)
    | none =>
      if d ≠ source then
        Course.fail (Text.Decimal.ofNat source ++ ": " ++ Files.Fault.badDescriptor.words)
  | .close d => modify fun s => s.disconnect d
  | .text d number => do
    let text ← textBelow output fuel ((← get).texts.getD number [])
    let n ← Act.newChannel (.pipe { front := text })
    modify fun s => s.connect d n

/-- Connect descriptors, as far as that can be done. -/
def connectAll (output : OutputOf) (fuel : Nat) (cs : List Connection) : Course Bool := do
  ExceptT.mk do
    match ← (cs.forM (connect output fuel)).run with
    | .ok () => return .ok true
    | .error .failed => return .ok false
    | .error flow => return .error flow

end AgentPulse.Shell
