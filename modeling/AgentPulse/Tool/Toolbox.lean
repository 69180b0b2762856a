import AgentPulse.Text.Outline
import AgentPulse.Tool.Builtin

/-!
# Toolboxes

A toolbox holds tools by name. A tool that is registered under a name takes the place of the one
that had it.
-/

namespace AgentPulse

open Tool (Arguments Builtin Failure)
open Files (Tree Place)

/-- A tool: the name it is registered under, what it does in a line, and what it does when it is
invoked, namely the answer, the files afterwards, and what is to be noted. -/
structure Tool where
  name : String
  description : String
  invoke : Arguments → Tree → Place → Except Failure String × Tree × List Notice

namespace Tool

/-- A built-in tool. -/
def builtin (b : Builtin) : Tool where
  name := b.name
  description := b.description
  invoke := b.invoke

/-- A tool that answers a fixed text. -/
def fixed (name text : String) : Tool where
  name
  description := text
  invoke _ t _ := (.ok text, t, [])

end Tool

/-- Tools by name. -/
structure Toolbox where
  tools : Dict Tool := Dict.empty

namespace Toolbox

/-- A toolbox without tools. -/
def empty : Toolbox := {}

/-- The tool of a name. -/
def find? (box : Toolbox) (name : String) : Option Tool := box.tools.find? name

/-- Put a tool in, in the stead of the one of its name. -/
def register (box : Toolbox) (tool : Tool) : Toolbox × List Notice :=
  ({ box with tools := box.tools.insert tool.name tool },
    if box.tools.contains tool.name then [.replacingTool tool.name] else [])

/-- A toolbox with the built-in tools. -/
def builtins : Toolbox :=
  Builtin.all.foldl (fun box b => (box.register (.builtin b)).1) empty

/-- The names of the tools, ascending. -/
def names (box : Toolbox) : List String := box.tools.keys

/-- Invoke the tool of a name: the answer, the files afterwards, and what is to be noted. -/
def invoke (box : Toolbox) (name : String) (args : Arguments) (t : Tree) (here : Place) :
    Except Failure String × Tree × List Notice :=
  match box.find? name with
  | none => (.error (.unknownTool name), t, [])
  | some tool =>
    let (answer, t, notices) := tool.invoke args t here
    (answer, t, .invokingTool name :: notices)

/-- The outline of a toolbox. -/
def outline (box : Toolbox) : Text.Outline :=
  .record "ToolRegistry" [("tools", .items (box.names.map fun n => .leaf (Text.quoted n)))] false

end Toolbox

end AgentPulse
