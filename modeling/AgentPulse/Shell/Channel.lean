import AgentPulse.Files.Operations
import AgentPulse.Shell.Script

/-!
# Channels

What descriptors lead to: nothing at all, pipes, files with the position that has been reached in
them, and folders, which may be opened but not read.

The stages of a pipeline run one after the other, so a pipe takes all that is written before any of
it is read. Some writers would never come to an end that way. A pipe may therefore have a bound: it
is cut there, and it remembers whether its reader asked for more than it got.
-/

namespace AgentPulse.Shell

/-- What has been written and not been read yet. -/
structure Pipe where
  /-- What is read first … -/
  front : Raw := []
  /-- … and what was written after that, the last piece first. -/
  back : List Raw := []
  /-- How much more may be written, where there is a bound. -/
  room : Option Nat := none
  /-- Whether there was no room for something. -/
  isCut : Bool := false
  /-- Whether the reader of a pipe that was cut asked for more. -/
  isShort : Bool := false
  deriving Repr, Inhabited

namespace Pipe

/-- All that can be read. -/
def content (p : Pipe) : Raw := p.front ++ p.back.reverse.flatten

/-- The same pipe with all that can be read in one piece. -/
def gathered (p : Pipe) : Pipe :=
  if p.back.isEmpty then p else { p with front := p.content, back := [] }

/-- Write, as far as there is room. -/
def write (p : Pipe) (text : Raw) : Pipe :=
  match p.room with
  | none => { p with back := text :: p.back }
  | some room =>
    let fitting := text.take room
    { p with
      back := fitting :: p.back
      room := some (room - fitting.length)
      isCut := p.isCut || decide (room < text.length) }

/-- Take some characters off the front. -/
def drop (p : Pipe) (count : Nat) : Pipe :=
  let p := p.gathered
  { p with front := p.front.drop count }

end Pipe

/-- What a descriptor leads to. -/
inductive Channel where
  /-- Nothing to read, and whatever is written is lost. -/
  | null
  /-- Nothing can be written for lack of room. -/
  | full
  | pipe (p : Pipe)
  /-- A file and the position in it. What is written goes to the end of it if it is appended. -/
  | file (id : Files.FileId) (position : Nat) (isAppending : Bool)
  | folder
  deriving Inhabited

/-- Put some bytes into others from a position on. A gap is filled with zeros. -/
def overlay (old new : Bytes) (position : Nat) : Bytes :=
  old.take position ++ List.replicate (position - old.length) 0 ++ new ++
    old.drop (position + new.length)

end AgentPulse.Shell
