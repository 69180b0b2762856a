import AgentPulse.Record.Shape
import AgentPulse.Text.Blank

/-!
# Servers

A server is a command with arguments and an environment, under a name. `check` finds the first
reason why a server cannot be registered: a name that is empty or holds white space, a command of
nothing but white space, an environment key that is empty or holds an equals sign.
-/

namespace AgentPulse

open Record (Mistake ReadError Shape Draft)
open Json (Node)

/-- How to start a server. -/
structure Server where
  name : String
  command : String
  args : List String := []
  env : Dict String := Dict.empty
  deriving DecidableEq, Inhabited

namespace Server

/-- One more argument, after those already there. -/
def withArg (s : Server) (arg : String) : Server := { s with args := s.args ++ [arg] }

/-- One more environment variable, in the stead of the one of that key. -/
def withEnv (s : Server) (key value : String) : Server := { s with env := s.env.insert key value }

/-- Why a server cannot be registered. -/
inductive Flaw where
  | badName (name : String)
  | noCommand (name : String)
  | badEnvKey (name key : String)
  deriving DecidableEq, Repr

/-- Whether a name can be used. -/
def isName (name : String) : Bool := !name.toList.isEmpty && !name.toList.any Text.isBlank

/-- Whether a command has anything to run. -/
def isCommand (command : String) : Bool := command.toList.any fun c => !Text.isBlank c

/-- Whether a key can be an environment variable's. -/
def isEnvKey (key : String) : Bool := !key.toList.isEmpty && !key.toList.contains '='

/-- The first reason why a server cannot be registered. -/
def check (s : Server) : Except Flaw Unit :=
  if !isName s.name then .error (.badName s.name)
  else if !isCommand s.command then .error (.noCommand s.name)
  else match s.env.keys.find? fun k => !isEnvKey k with
    | some key => .error (.badEnvKey s.name key)
    | none => .ok ()

/-! ## JSON form -/

/-- The JSON value. -/
def toJson (s : Server) : Json :=
  .object (Dict.ofList [
    ("name", .text s.name), ("command", .text s.command),
    ("args", .array (s.args.map .text)),
    ("env", .object (s.env.map Json.text).entries)]).entries

/-- The fields of the record. -/
inductive Part where
  | name
  | command
  | args
  | env
  deriving DecidableEq, Repr

/-- What a field of the record holds. -/
abbrev Part.Value : Part → Type
  | .name | .command => String
  | .args => List String
  | .env => Dict String

/-- The record. Arguments and environment may be left out. -/
def shape : Shape Part Part.Value where
  title := "struct ServerDescriptor"
  arrayTitle := "struct ServerDescriptor with 4 elements"
  order := [.name, .command, .args, .env]
  name
    | .name => "name"
    | .command => "command"
    | .args => "args"
    | .env => "env"
  field
    | .name | .command => .text
    | .args => .texts
    | .env => .textMap
  fallback
    | .args => some []
    | .env => some Dict.empty
    | _ => none

/-- The server that the fields read so far give. -/
def ofDraft (d : Draft Part Part.Value) : Except Mistake Server := do
  let name ← shape.require d .name
  let command ← shape.require d .command
  let args ← shape.require d .args
  let env ← shape.require d .env
  return { name, command, args, env }

/-- Read a server off a value. -/
def ofJson (j : Json) : Except Mistake Server := do
  let d ← shape.ofJson j
  ofDraft d

/-- Read a server off a node. -/
def ofNode (levels : Nat) (n : Node) : Except ReadError Server := do
  let d ← shape.ofNode levels n
  Record.ofContent (ofDraft d)

/-- Read a server off a text. -/
def ofText (s : String) : Except ReadError Server := Record.ofText ofNode s

end Server

end AgentPulse
