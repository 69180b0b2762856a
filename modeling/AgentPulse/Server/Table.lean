import AgentPulse.Server.Basic
import AgentPulse.Log.Notice

/-!
# The table of servers

Servers by name. Whatever is put into the table is checked first, before it matters whether the name
is taken; a refused operation leaves the table as it is.
-/

namespace AgentPulse

/-- The registered servers, by name. -/
structure ServerTable where
  servers : Dict Server := Dict.empty

namespace ServerTable

/-- A table without servers. -/
def empty : ServerTable := {}

/-- Why an operation is refused. -/
inductive Refusal where
  | flaw (f : Server.Flaw)
  | taken (name : String)
  | unknown (name : String)
  deriving DecidableEq, Repr

/-- The refusal in words. -/
def Refusal.message : Refusal → String
  | .flaw (.badName name) => "Invalid server name: " ++ Text.quoted name
  | .flaw (.noCommand name) => "Server " ++ Text.quoted name ++ " has no command"
  | .flaw (.badEnvKey name key) =>
    "Server " ++ Text.quoted name ++ " has invalid environment key " ++ Text.quoted key
  | .taken name => "Server " ++ Text.quoted name ++ " is already registered"
  | .unknown name => "Server " ++ Text.quoted name ++ " not found"

/-- The check of a server, as an operation on tables refuses it. -/
def check (s : Server) : Except Refusal Unit := s.check.mapError .flaw

/-- The server of a name. -/
def find? (t : ServerTable) (name : String) : Option Server := t.servers.find? name

/-- Put a server under its name, whatever was there. -/
def put (t : ServerTable) (s : Server) : ServerTable :=
  { t with servers := t.servers.insert s.name s }

/-- An operation that puts a server into the table, if the server passes the check. Like every
operation it gives back the table, whatever came of it. -/
def checked {α : Type} (t : ServerTable) (s : Server)
    (granted : ServerTable × Except Refusal α) : ServerTable × Except Refusal α :=
  match check s with
  | .error e => (t, .error e)
  | .ok () => granted

/-- Add a server under a name that is free. -/
def register (t : ServerTable) (s : Server) : ServerTable × Except Refusal (List Notice) :=
  t.checked s <|
    if t.servers.contains s.name then (t, .error (.taken s.name))
    else (t.put s, .ok [.registering s.name s.command])

/-- Add or replace a server; answers the one replaced. -/
def upsert (t : ServerTable) (s : Server) :
    ServerTable × Except Refusal (Option Server × List Notice) :=
  t.checked s (t.put s, .ok (t.find? s.name, [.upserting s.name]))

/-- Replace the server of a name. -/
def update (t : ServerTable) (s : Server) : ServerTable × Except Refusal Unit :=
  t.checked s <|
    if t.servers.contains s.name then (t.put s, .ok ()) else (t, .error (.unknown s.name))

/-- Take whatever stands under a name out of the table, and answer it. -/
def remove (t : ServerTable) (name : String) :
    ServerTable × Except Refusal (Server × List Notice) :=
  ({ t with servers := t.servers.erase name },
    match t.find? name with
    | some s => .ok (s, [.removed name])
    | none => .error (.unknown name))

/-- All servers in the order of their names. -/
def list (t : ServerTable) : List Server := t.servers.values

/-- How many servers there are. -/
def size (t : ServerTable) : Nat := t.servers.size

/-- Whether there are no servers. -/
def isEmpty (t : ServerTable) : Bool := t.servers.isEmpty

end ServerTable

end AgentPulse
