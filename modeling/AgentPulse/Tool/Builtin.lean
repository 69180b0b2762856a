import AgentPulse.Files.Operations
import AgentPulse.Log.Notice
import AgentPulse.Shell.Run
import AgentPulse.Tool.Arguments
import AgentPulse.Tool.Listing

/-!
# The built-in tools

Four tools: run a command, read a file, write a file, list a folder. A tool looks at all of its
arguments before it does anything.
-/

namespace AgentPulse.Tool

open Files (Tree Place)

/-- The built-in tools. -/
inductive Builtin where
  | runCommand
  | readFile
  | writeFile
  | listFolder
  deriving DecidableEq, Repr

namespace Builtin

/-- All of them. -/
def all : List Builtin := [.runCommand, .readFile, .writeFile, .listFolder]

/-- The name of a tool. -/
def name : Builtin → String
  | .runCommand => "shell_exec"
  | .readFile => "read_file"
  | .writeFile => "write_file"
  | .listFolder => "list_dir"

/-- What a tool does, in a line. -/
def description : Builtin → String
  | .runCommand => "Execute a shell command and return its output"
  | .readFile => "Read the contents of a file"
  | .writeFile => "Write content to a file, replacing it"
  | .listFolder => "List the entries of a directory"

/-- The built-in tool of a name. -/
def ofName? (name : String) : Option Builtin := all.find? fun b => b.name == name

end Builtin

/-- What a tool is to do, once its arguments have been looked at. -/
inductive Request where
  | run (command : String) (folder : Option String)
  | read (path : String)
  | write (path content : String)
  | list (path : String)
  deriving DecidableEq, Repr

/-- Look at the arguments of a tool, in a fixed order. -/
def Builtin.request (args : Arguments) : Builtin → Except Failure Request
  | .runCommand => do
    let command ← args.required "command"
    let folder ← args.optional "cwd"
    return .run command folder
  | .readFile => do
    let path ← args.required "path"
    return .read path
  | .writeFile => do
    let path ← args.required "path"
    let content ← args.required "content"
    return .write path content
  | .listFolder => do
    let path ← args.required "path"
    return .list path

/-! ## Effects -/

/-- The bytes of a path. -/
def pathBytes (path : String) : Except SystemFault Bytes :=
  let bytes := Text.Utf8.encode path
  if bytes.contains 0 then .error .zeroByteInPath else .ok bytes

/-- Read a file as text. -/
def readText (t : Tree) (here : Place) (path : String) : Except SystemFault String := do
  let bytes ← (Files.readFile t here (← pathBytes path)).mapError .files
  match Text.Utf8.text? bytes with
  | some s => return s
  | none => .error .notText

/-- Make the folders around a path. Those that have been made stay, even if the rest cannot be. -/
def makeParents (t : Tree) (here : Place) (path : String) : Tree × Except SystemFault Unit :=
  match Files.parent? (Text.Utf8.encode path) with
  | none => (t, .ok ())
  | some outer =>
    if outer.contains 0 then (t, .error .zeroByteInPath)
    else
      let (t, made) := Files.makeFolders t here outer
      (t, made.mapError .files)

/-- Write a text to a file, whose folders have been made. -/
def writeText (t : Tree) (here : Place) (path content : String) : Except SystemFault Tree := do
  let bytes ← pathBytes path
  (Files.writeFile t here bytes (Text.Utf8.encode content)).mapError .files

/-- List a folder. -/
def listFolder (t : Tree) (here : Place) (path : String) : Except SystemFault String := do
  let entries ← (Files.entriesOf t here (← pathBytes path)).mapError .files
  return listing (entries.map fun e => (e.1, e.2.isFolder))

/-- Run a command, in the given folder if there is one. -/
def runCommand (t : Tree) (here : Place) (command : String) (folder : Option String) :
    Except SystemFault Shell.Outcome := do
  let bytes := Text.Utf8.encode command
  let inside := folder.map Text.Utf8.encode
  if bytes.contains 0 || inside.any (·.contains 0) then .error .zeroByteInCommand
  else
    let here ← match inside with
      | none => pure here
      | some path => (Files.folderAt t here path).mapError .files
    return Shell.runCommand t here bytes

/-- What a command wrote, and how it ended if it failed. -/
def report (o : Shell.Outcome) : Except Failure String :=
  let text := Text.Utf8.lossy o.output ++ Text.Utf8.lossy o.errors
  match o.ending with
  | .exit 0 => .ok text
  | .exit n => .error (.execution ("exit status " ++ Text.Decimal.ofNat n ++ ": " ++ text))
  | .killed _ => .error (.execution ("exit status signal: " ++ text))

/-- Do what is requested: the answer, the files afterwards, and what is to be noted. -/
def Request.perform (t : Tree) (here : Place) :
    Request → Except Failure String × Tree × List Notice
  | .run command folder =>
    let notices := [Notice.runningCommand command folder]
    match runCommand t here command folder with
    | .ok o => (report o, o.tree, notices)
    | .error f => (.error (.system f), t, notices)
  | .read path => ((readText t here path).mapError .system, t, [])
  | .write path content =>
    match makeParents t here path with
    | (t, .error f) => (.error (.system f), t, [])
    | (t, .ok ()) =>
      match writeText t here path content with
      | .error f => (.error (.system f), t, [])
      | .ok t =>
        let size := (Text.Utf8.encode content).length
        (.ok ("Wrote " ++ Text.Decimal.ofNat size ++ " bytes to " ++ path), t, [])
  | .list path => ((listFolder t here path).mapError .system, t, [])

/-- Invoke a built-in tool. -/
def Builtin.invoke (b : Builtin) (args : Arguments) (t : Tree) (here : Place) :
    Except Failure String × Tree × List Notice :=
  match b.request args with
  | .ok r => r.perform t here
  | .error f => (.error f, t, [])

end AgentPulse.Tool
