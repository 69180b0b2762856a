import AgentPulse.Beat.Status
import AgentPulse.Beat.Instant

/-!
# Beats

A beat is one report of one agent. Nothing about it is checked: the agent's key may be empty and the
status any word. Details are values under names, each name once.
-/

namespace AgentPulse

/-- One report of an agent. -/
structure Beat where
  /-- The key of the agent, which is also the key its subscribers follow. -/
  agent : String
  /-- The job that the agent works on, empty if there is none. -/
  job : String := ""
  /-- The reported status, normally the word for a `Status`. -/
  status : String
  time : Instant := .epoch
  details : Dict Json := Dict.empty
  deriving Inhabited

namespace Beat

/-- A report of a known status. -/
def ofStatus (agent : String) (status : Status) : Beat := { agent, status := status.word }

/-- The same report about another job. -/
def withJob (b : Beat) (job : String) : Beat := { b with job }

/-- The same report at another time. -/
def withTime (b : Beat) (time : Instant) : Beat := { b with time }

/-- The same report with a detail, in the stead of the one of that name. -/
def withDetail (b : Beat) (name : String) (value : Json) : Beat :=
  { b with details := b.details.insert name value }

/-- The status, if it is a known one. -/
def status? (b : Beat) : Option Status := Status.ofWord? b.status

/-- Reports that count as equal: numbers in details are compared as numbers, all else exactly. -/
def same (a b : Beat) : Bool :=
  a.agent == b.agent && a.job == b.job && a.status == b.status && a.time == b.time
    && Json.sameMembers a.details.entries b.details.entries

/-- One call of the builder. -/
inductive Edit where
  | job (job : String)
  | time (time : Instant)
  | detail (name : String) (value : Json)

/-- Apply one call. -/
def edit (b : Beat) : Edit → Beat
  | .job job => b.withJob job
  | .time time => b.withTime time
  | .detail name value => b.withDetail name value

/-- Apply calls in order. -/
def build (b : Beat) (edits : List Edit) : Beat := edits.foldl edit b

end Beat

end AgentPulse
