import AgentPulse.Record.Shape

/-!
# The status of an agent

An agent is idle, processing or waiting. The words are read as they are written, in lower case; in
JSON a status is its word, or an object whose one member has the word for a name and null for a
value.
-/

namespace AgentPulse

open Record (Mistake ReadError)
open Json (Node)

/-- What an agent says that it is doing. -/
inductive Status where
  | idle
  | processing
  | waiting
  deriving DecidableEq, Repr

namespace Status

/-- Every status, in the order in which they are listed to readers. -/
def all : List Status := [.idle, .processing, .waiting]

/-- The word for a status. -/
def word : Status → String
  | .idle => "idle"
  | .processing => "processing"
  | .waiting => "waiting"

/-- The name of a status as a constant. -/
def label : Status → String
  | .idle => "Idle"
  | .processing => "Processing"
  | .waiting => "Waiting"

/-- The status that a word stands for. -/
def ofWord? (word : String) : Option Status := all.find? fun s => s.word == word

/-- A word that stands for no status. -/
structure UnknownWord where
  word : String
  deriving DecidableEq, Repr

/-- The refusal of a word, in words. -/
def UnknownWord.message (e : UnknownWord) : String :=
  "Unknown agent status: " ++ Text.quoted e.word

/-- Read a word. -/
def parse (word : String) : Except UnknownWord Status :=
  match ofWord? word with
  | some s => .ok s
  | none => .error ⟨word⟩

/-- The status that stands in JSON under a word. -/
def ofVariant (word : String) : Except Mistake Status :=
  match ofWord? word with
  | some s => .ok s
  | none => .error (.unknownVariant word (all.map Status.word))

/-- The JSON form. -/
def toJson (s : Status) : Json := .text s.word

/-- Read a status off a value. -/
def ofJson : Json → Except Mistake Status
  | .text word => ofVariant word
  | .object [(word, content)] => do
    let s ← ofVariant word
    match content with
    | .null => return s
    | j => Record.mismatch j "unit"
  | .object _ => .error (.wrongValue .map "map with a single key")
  | j => Record.mismatch j "string or map"

/-- Read a status off a node. Whatever is neither in quotes nor in braces is a fault of form. -/
def ofNode (levels : Nat) : Node → Except ReadError Status
  | .text units => do
    let word ← Record.ofForm (Json.readText units)
    Record.ofContent (ofVariant word)
  | .object [] ending => do
    let _ ← Record.ofForm (Node.descend levels)
    Record.ofForm (Json.checkEnd ending)
    .error (.form .malformed)
  | .object ((name, content) :: rest) ending => do
    let _ ← Record.ofForm (Node.descend levels)
    let word ← Record.ofForm name.readName
    let s ← Record.ofContent (ofVariant word)
    match content with
      | .null => pure ()
      | n => Record.mismatchNode n "unit"
    if rest.isEmpty then
      Record.ofForm (Json.checkEnd ending)
      return s
    else .error (.form .malformed)
  | .broken b => .error (.form b.nameFault)
  | _ => .error (.form .malformed)

end Status

end AgentPulse
