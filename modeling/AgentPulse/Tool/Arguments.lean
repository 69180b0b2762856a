import AgentPulse.Dict
import AgentPulse.Json.Basic
import AgentPulse.Files.Tree

/-!
# Arguments of tools

Arguments are values under names. An argument that is null counts as absent; one that is anything
else than a text is invalid, also where it may be absent.
-/

namespace AgentPulse.Tool

/-- The arguments of one invocation. -/
abbrev Arguments := Dict Json

/-- Why the system refuses what a tool asks of it. -/
inductive SystemFault where
  | files (f : Files.Fault)
  | notText
  | zeroByteInPath
  | zeroByteInCommand
  deriving DecidableEq, Repr

/-- The fault in words. -/
def SystemFault.message : SystemFault → String
  | .files f => f.message
  | .notText => "stream did not contain valid UTF-8"
  | .zeroByteInPath => "file name contained an unexpected NUL byte"
  | .zeroByteInCommand => "nul byte found in provided data"

/-- Why an invocation fails. -/
inductive Failure where
  | unknownTool (name : String)
  | missingArgument (name : String)
  | invalidArgument (name expected : String)
  /-- A command ended badly; the text says how and what it wrote. -/
  | execution (text : String)
  | system (f : SystemFault)
  deriving DecidableEq, Repr

/-- The failure in words. -/
def Failure.message : Failure → String
  | .unknownTool name => "Unknown tool: " ++ name
  | .missingArgument name => "Missing argument '" ++ name ++ "'"
  | .invalidArgument name expected => "Invalid argument '" ++ name ++ "': expected " ++ expected
  | .execution text => "Execution failed: " ++ text
  | .system f => "I/O error: " ++ f.message

namespace Arguments

/-- An argument that has to be there. -/
def required (args : Arguments) (name : String) : Except Failure String :=
  match args.find? name with
  | none | some .null => .error (.missingArgument name)
  | some (.text s) => .ok s
  | some _ => .error (.invalidArgument name "string")

/-- An argument that may be absent. -/
def optional (args : Arguments) (name : String) : Except Failure (Option String) :=
  match args.find? name with
  | none | some .null => .ok none
  | some (.text s) => .ok (some s)
  | some _ => .error (.invalidArgument name "string")

end Arguments

end AgentPulse.Tool
