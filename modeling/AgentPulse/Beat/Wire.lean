import AgentPulse.Beat.Basic

/-!
# The JSON form of beats

A beat is a record of the agent's key, the job, the status, the time and the details. The job and
the details may be left out; details that are empty always are when a beat is written. A beat from
before 1970 cannot be written.
-/

namespace AgentPulse.Beat

open Record (Mistake ReadError Shape Draft)
open Json (Node)

/-! ## Writing -/

/-- The fields in the order of the record. -/
def members (b : Beat) : Except Instant.WriteError (List (String × Json)) := do
  let time ← b.time.members
  let details := if b.details.isEmpty then [] else [("metadata", .object b.details.entries)]
  return [("agent_key", .text b.agent), ("job_id", .text b.job), ("status", .text b.status),
    ("timestamp", .object time)] ++ details

/-- Members in order of their names, also inside the objects that they hold. -/
def sorted (members : List (String × Json)) : List (String × Json) :=
  (Dict.ofList (members.map fun m =>
    match m.2 with
    | .object inner => (m.1, Json.object (Dict.ofList inner).entries)
    | j => (m.1, j))).entries

/-- The JSON value of a beat. -/
def toJson (b : Beat) : Except Instant.WriteError Json := do
  let ms ← b.members
  return .object (sorted ms)

/-- The compact text of a beat, with the fields in the order of the record. -/
def toText (b : Beat) : Except Instant.WriteError String := do
  let ms ← b.members
  return (Json.object ms).compact

/-! ## Reading -/

/-- The fields of a beat. -/
inductive Part where
  | agent
  | job
  | status
  | time
  | details
  deriving DecidableEq, Repr

/-- What a field of a beat holds. -/
abbrev Part.Value : Part → Type
  | .agent | .job | .status => String
  | .time => Instant
  | .details => Dict Json

/-- The record. -/
def shape : Shape Part Part.Value where
  title := "struct HeartbeatEvent"
  arrayTitle := "struct HeartbeatEvent with 5 elements"
  order := [.agent, .job, .status, .time, .details]
  name
    | .agent => "agent_key"
    | .job => "job_id"
    | .status => "status"
    | .time => "timestamp"
    | .details => "metadata"
  field
    | .agent | .job | .status => .text
    | .time => Instant.field
    | .details => .jsonMap
  fallback
    | .job => some ""
    | .details => some Dict.empty
    | _ => none

/-- The beat that the fields read so far give. -/
def ofDraft (d : Draft Part Part.Value) : Except Mistake Beat := do
  let agent ← shape.require d .agent
  let job ← shape.require d .job
  let status ← shape.require d .status
  let time ← shape.require d .time
  let details ← shape.require d .details
  return { agent, job, status, time, details }

/-- Read a beat off a value. -/
def ofJson (j : Json) : Except Mistake Beat := do
  let d ← shape.ofJson j
  ofDraft d

/-- Read a beat off a node. -/
def ofNode (levels : Nat) (n : Node) : Except ReadError Beat := do
  let d ← shape.ofNode levels n
  Record.ofContent (ofDraft d)

/-- Read a beat off a text. -/
def ofText (s : String) : Except ReadError Beat := Record.ofText ofNode s

end AgentPulse.Beat
