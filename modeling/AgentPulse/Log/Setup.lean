import AgentPulse.Log.Filter
import AgentPulse.Environment
import AgentPulse.Json.Basic

/-!
# Setting up the log

The settings of the log come from the environment, and so may the filter: a variable with a valid
filter wins over the configured level. The log can be set up once in a process. The first thing that
it shows is that it was set up, if the filter lets that pass.
-/

namespace AgentPulse.Log

/-- How the log is to be written. -/
structure Settings where
  /-- The name of the service that writes the log. -/
  service : String := "heartbeat"
  /-- The filter where the environment has none. -/
  level : String := "info"
  /-- Whether lines are JSON. -/
  json : Bool := false
  deriving DecidableEq, Repr, Inhabited

/-- The variable that holds a filter. -/
def filterVariable : String := "RUST_LOG"

namespace Settings

/-- The settings that the environment asks for. -/
def ofEnvironment (env : Environment) : Settings where
  service := (env.text? "HEARTBEAT_SERVICE_NAME").getD ({} : Settings).service
  level := ((env.text? "HEARTBEAT_LOG_LEVEL").or (env.text? filterVariable)).getD
    ({} : Settings).level
  json := match env.text? "HEARTBEAT_JSON_LOGS" with
    | some v => v.toLower == "true" || v == "1"
    | none => false

/-- The same settings with another filter. -/
def withLevel (s : Settings) (level : String) : Settings := { s with level }

end Settings

/-- Why the log cannot be set up. -/
inductive SetupError where
  | filter (e : FilterError)
  | alreadySet
  deriving DecidableEq, Repr

/-- The error in words. -/
def SetupError.message (e : SetupError) : String :=
  "Failed to initialize logging: " ++ match e with
    | .filter e => e.message
    | .alreadySet => "a global default trace dispatcher has already been set"

/-- One line of the log. -/
inductive Line where
  | plain (text : String)
  | json (value : Json)

/-- Where the first line comes from. -/
def setupTarget : String := "heartbeat_telemetry::logging"

/-- The text of the first line. -/
def setupMessage : String := "Logging initialized"

/-- Text in one of the styles of a terminal. -/
def styled (code text : String) : String := "\x1b[" ++ code ++ "m" ++ text ++ "\x1b[0m"

/-- A named field of a plain line: the name in italics, a dim equals sign, the value. -/
def plainField (name value : String) : String :=
  " " ++ styled "3" name ++ styled "2" "=" ++ value

/-- The first notice as text, without its time. -/
def setupText (s : Settings) : String :=
  styled "32" " INFO" ++ " " ++ styled "2" setupTarget ++ styled "2" ":" ++ " "
    ++ setupMessage ++ plainField "service" s.service ++ plainField "level" s.level
    ++ plainField "json" (if s.json then "true" else "false")

/-- The first notice as JSON, without its time. -/
def setupJson (s : Settings) : Json :=
  .object [
    ("fields", .object [("json", .boolean s.json), ("level", .text s.level),
      ("message", .text setupMessage), ("service", .text s.service)]),
    ("level", .text Level.info.word), ("target", .text setupTarget)]

/-- A line without the return that belongs to its break. -/
def withoutReturn (l : List Char) : List Char :=
  if l.getLast? = some '\r' then l.dropLast else l

/-- The lines of a text, without their breaks. -/
def linesOf (cs : List Char) : List (List Char) :=
  let ls := cs.foldr (fun c ls =>
    match ls with
    | [] => if c = '\n' then [[], []] else [[c]]
    | l :: rest => if c = '\n' then [] :: l :: rest else (c :: l) :: rest) [[]]
  ls.map withoutReturn

/-- What a reader of the log takes from a line: a line starts with a time, which ends at the first
blank. -/
def withoutTime (l : List Char) : List Char :=
  match l.dropWhile (· != ' ') with
  | _ :: rest => rest
  | [] => l

/-- The lines of a notice whose first line has lost its time already. Where the notice breaks into
further lines, what they have in front of their first blank counts as a time. -/
def plainLines (text : String) : List Line :=
  match linesOf text.toList with
  | [] => []
  | first :: rest => (first :: rest.map withoutTime).map fun l => .plain (String.ofList l)

/-- The lines of the first notice. -/
def setupLines (s : Settings) : List Line :=
  if s.json then [.json (setupJson s)] else plainLines (setupText s)

/-- The filter in force: the one in the environment if there is one and it can be read, else the
configured one. -/
def effectiveFilter (env : Environment) (s : Settings) : Except FilterError Filter :=
  match (env.text? filterVariable).map Filter.ofText with
  | some (.ok f) => .ok f
  | _ => Filter.ofText s.level

/-- Set up the log, given whether it has been set up before; answers what it shows. -/
def setUp (env : Environment) (isSet : Bool) (s : Settings) : Except SetupError (List Line) := do
  let f ← (effectiveFilter env s).mapError .filter
  if isSet then .error .alreadySet
  else return if f.passes setupTarget .info then setupLines s else []

/-- Set up the log several times in one process: the results, and all that is shown. -/
def setUpAll (env : Environment) :
    Bool → List Settings → List (Except SetupError Unit) × List Line
  | _, [] => ([], [])
  | isSet, s :: rest =>
    match setUp env isSet s with
    | .ok shown =>
      let (results, lines) := setUpAll env true rest
      (.ok () :: results, shown ++ lines)
    | .error e =>
      let (results, lines) := setUpAll env isSet rest
      (.error e :: results, lines)

end AgentPulse.Log
