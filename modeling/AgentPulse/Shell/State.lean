import AgentPulse.Dict
import AgentPulse.Shell.Channel
import AgentPulse.Shell.Signal
import AgentPulse.Text.Decimal

/-!
# The state of a shell

A command is carried out in a world that all shells share: files, channels, and tasks in the
background. Each shell has a folder, variables, functions, parameters and
descriptors of its own, and a descriptor leads to a channel of the world.
-/

namespace AgentPulse.Shell

open Files (Tree)

/-- A variable. One without a value may still be seen by programs as soon as it has one. -/
structure Variable where
  value : Option Raw := none
  /-- Whether programs get to see it. -/
  isExported : Bool := false
  /-- Whether it keeps its value. -/
  isConstant : Bool := false
  deriving DecidableEq, Repr, Inhabited

/-- What is put back when a function or a command has come to its end. -/
inductive Kept where
  | value (name : Raw) (old : Option Variable)
  | options (letters : List Char)
  deriving Repr, Inhabited

/-- How a process ends. -/
inductive Ending where
  /-- With a number below 256; zero is success. -/
  | exit (status : Nat)
  | killed (signal : Nat)
  deriving DecidableEq, Repr, Inhabited

/-- The number that a process ended with. -/
def Ending.status : Ending → Nat
  | .exit n => n
  | .killed n => Signal.status n

/-- What one shell has for itself. -/
structure Interpreter where
  folder : Files.Place
  /-- The path on which the shell came to its folder. -/
  route : Raw
  values : Dict Variable := Dict.empty
  functions : Dict Command := Dict.empty
  aliases : Dict Raw := Dict.empty
  /-- The texts below commands that have been read, by number. -/
  texts : Array Word := #[]
  /-- The descriptors and the numbers of the channels that they lead to. -/
  descriptors : List (Nat × Nat) := []
  name : Raw := raw "sh"
  parameters : List Raw := []
  /-- The number among the processes that the shell goes by, which inner shells share. -/
  number : Nat
  /-- Whether the shell is an inner one. -/
  isInner : Bool := false
  /-- The command that complaints name, if any. -/
  command : Option Raw := none
  /-- The line that complaints name. -/
  line : Nat := 1
  /-- What is done at the end (signal 0) and when a signal arrives. -/
  traps : List (Nat × Raw) := []
  /-- How the last command ended. -/
  status : Nat := 0
  /-- How the last command ended whose output was put into a word. -/
  innerStatus : Nat := 0
  /-- In what a signal or the end of the shell brings about: how the command before it ended. -/
  statusBefore : Option Nat := none
  /-- The letters of the options that are switched on, and the names of those without one. -/
  options : List Char := []
  /-- How many loops the shell is in, functions apart. -/
  loops : Nat := 0
  /-- How many functions the shell is in. -/
  calls : Nat := 0
  /-- What is to be put back, the innermost first. -/
  kept : List (List Kept) := []
  /-- The place that has been reached in the options of a script: the number of the next parameter,
  and how much of the one before has been looked at. -/
  optionIndex : Nat := 1
  optionOffset : Option Nat := none
  /-- The numbers of the commands in the background, the last one first. -/
  jobs : List Nat := []
  /-- The number of the command that was put into the background last. -/
  lastJob : Option Nat := none
  /-- The permissions that new files do not get. -/
  mask : Files.Mode := 0o022
  /-- The programs that have been found. -/
  found : List Raw := []

/-- A command that waits in the background, the shell that it is carried out in, when it was
started, and when it is killed, if it is, and by which signal. -/
structure Task where
  number : Nat
  shell : Interpreter
  body : Command
  start : Nat
  death : Option (Nat × Nat) := none

/-- Why something could not be written. -/
inductive Unwritten where
  /-- Nobody will read it. -/
  | noReader
  | refused
  deriving DecidableEq, Repr

/-- What all shells share. -/
structure World where
  tree : Tree
  channels : Array Channel := #[]
  tasks : List Task := []
  /-- How commands in the background ended, by number. -/
  ended : List (Nat × Ending) := []
  /-- When the process that is carried out is killed, if it is, and by which signal. -/
  death : Option (Nat × Nat) := none
  /-- The time up to which the commands in the background have been looked after. -/
  looked : Nat := 0
  /-- The number that the last process went by. -/
  processes : Nat
  /-- Signals for the outer shell that have arrived. -/
  signals : List Nat := []
  /-- What could not be written since the last look. -/
  unwritten : Option Unwritten := none

/-- The state of a shell in the world. -/
structure State extends World, Interpreter

/-- Something done in a shell. -/
abbrev Act := StateM State

/-! ## Descriptors -/

namespace State

/-- The number of the channel that a descriptor leads to. -/
def channelNumber? (s : State) (d : Nat) : Option Nat := s.descriptors.lookup d

/-- The channel that a descriptor leads to. -/
def channel? (s : State) (d : Nat) : Option Channel :=
  (s.channelNumber? d).bind fun n => s.channels[n]?

/-- Let a descriptor lead to a channel. -/
def connect (s : State) (d number : Nat) : State :=
  { s with descriptors := (d, number) :: s.descriptors.filter fun e => e.1 != d }

/-- Let a descriptor lead nowhere. -/
def disconnect (s : State) (d : Nat) : State :=
  { s with descriptors := s.descriptors.filter fun e => e.1 != d }

/-- A new channel. -/
def addChannel (s : State) (c : Channel) : Nat × State :=
  (s.channels.size, { s with channels := s.channels.push c })

/-- Let a channel be another. -/
def setChannel (s : State) (number : Nat) (c : Channel) : State :=
  { s with channels := s.channels.set! number c }

/-- The content of a pipe. -/
def pipeContent (s : State) (number : Nat) : Raw :=
  match s.channels[number]? with
  | some (.pipe p) => p.content
  | _ => []

/-! ## Variables -/

/-- A variable. -/
def varOf? (s : State) (name : Raw) : Option Variable := s.values.find? (String.ofList name)

/-- The value of a variable. -/
def valueOf? (s : State) (name : Raw) : Option Raw := (s.varOf? name).bind Variable.value

/-- Let there be a variable or none. -/
def putVariable (s : State) (name : Raw) (v : Option Variable) : State :=
  match v with
  | some v => { s with values := s.values.insert (String.ofList name) v }
  | none => { s with values := s.values.erase (String.ofList name) }

/-- Whether an option is switched on. -/
def hasOption (s : State) (letter : Char) : Bool := s.options.contains letter

/-- The variable with the number of the next parameter to look at for options. -/
def indexName : Raw := raw "OPTIND"

/-- Let a variable have a value, whether or not it is a constant. -/
def assign (s : State) (name value : Raw) : State :=
  let v := (s.varOf? name).getD {}
  let isExported := v.isExported || s.hasOption 'a'
  let s := s.putVariable name (some { v with value := some value, isExported })
  if name = indexName then
    let n := if !value.isEmpty && value.all Char.isDigit then Text.Decimal.value value else 1
    { s with optionIndex := max n 1, optionOffset := none }
  else s

/-- Where a variable stands among those that programs get to see: they are kept in so many rows, by
their first characters above all. -/
def rowOf (name : Raw) : Nat :=
  (name.foldl (fun n c => n + c.toNat) (16 * (name.headD '\x00').toNat)) % 39

/-- The variables that programs get to see. -/
def environment (s : State) : List (Raw × Raw) :=
  let all := s.values.entries.filterMap fun e =>
    match e.2 with
    | { value := some v, isExported := true, .. } => some (e.1.toList, v)
    | _ => none
  all.mergeSort fun a b => rowOf a.1 ≤ rowOf b.1

/-! ## Traps -/

/-- What is done when a signal arrives, if anything is said about it. -/
def trap? (s : State) (signal : Nat) : Option Raw := s.traps.lookup signal

/-- Let something be done when a signal arrives, or nothing be said about it. -/
def setTrap (s : State) (signal : Nat) (action : Option Raw) : State :=
  let others := s.traps.filter fun t => t.1 != signal
  { s with traps := (action.toList.map fun a => (signal, a)) ++ others }

end State

/-! ## Writing -/

namespace Act

/-- Write to a channel. -/
def writeTo (number : Nat) (text : Raw) : Act Unit := modify fun s =>
  match s.channels[number]? with
  | some (.pipe p) =>
    let p := p.write text
    let s := s.setChannel number (.pipe p)
    if p.isCut then { s with unwritten := some .noReader } else s
  | some (.file id position isAppending) =>
    let old := s.tree.content id
    let start := if isAppending then old.length else position
    let new := if start = old.length then old ++ text.toBytes else overlay old text.toBytes start
    let s := { s with tree := s.tree.setContent id new }
    s.setChannel number (.file id (start + text.length) isAppending)
  | some .null => s
  | some .full | some .folder | none =>
    if text.isEmpty then s else { s with unwritten := some .refused }

/-- Write to a descriptor. -/
def write (d : Nat) (text : Raw) : Act Unit := do
  match (← get).channelNumber? d with
  | some n => writeTo n text
  | none => if !text.isEmpty then modify fun s => { s with unwritten := some .refused }

/-- Write to the descriptor of output. -/
def out (text : Raw) : Act Unit := write 1 text

/-- Write a line to the descriptor of output. -/
def outLine (text : Raw) : Act Unit := out (text ++ ['\n'])

/-- Say something on the descriptor of errors. -/
def say (message : String) : Act Unit := do
  let before := (← get).unwritten
  write 2 (raw message ++ ['\n'])
  modify fun s => { s with unwritten := before }

/-- Complain in the name of the shell and of the command that is carried out. -/
def complain (message : String) : Act Unit := do
  let s ← get
  let command := match s.command with
    | some c => c.shown ++ ": "
    | none => ""
  say (s.name.shown ++ ": " ++ Text.Decimal.ofNat s.line ++ ": " ++ command ++ message)

/-- Whether something could not be written since the last look. -/
def takeUnwritten : Act (Option Unwritten) := do
  let s ← get
  set { s with unwritten := none }
  return s.unwritten

/-! ## Reading -/

/-- How much there is of what has no end. Readers never ask for more. -/
def endless : Nat := 1 <<< 20

/-- All that can be read from a channel, if it can be read at all. It stays there. -/
def lookAt (number : Nat) : Act (Except Files.Fault Raw) := do
  let s ← get
  match s.channels[number]? with
  | some (.pipe p) =>
    let p := p.gathered
    set (s.setChannel number (.pipe p))
    return .ok p.front
  | some (.file id position _) => return .ok (Raw.ofBytes ((s.tree.content id).drop position))
  | some .folder => return .error .aFolder
  | some .null | some .full => return .ok []
  | none => return .error .badDescriptor

/-- All that can be read from a descriptor, if it can be read at all. It stays there. -/
def look (d : Nat) : Act (Except Files.Fault Raw) := do
  match (← get).channelNumber? d with
  | none => return .error .badDescriptor
  | some n => lookAt n

/-- Take characters off what can be read from a descriptor. The reader may have asked for more. -/
def skip (d count : Nat) (askedForMore : Bool) : Act Unit := modify fun s =>
  match s.channelNumber? d with
  | none => s
  | some n =>
    match s.channels[n]? with
    | some (.pipe p) =>
      let p := p.drop count
      s.setChannel n (.pipe { p with isShort := p.isShort || (p.isCut && askedForMore) })
    | some (.file id position isAppending) =>
      s.setChannel n (.file id (position + count) isAppending)
    | _ => s

/-- All that can be read from a descriptor. Afterwards nothing is left there. -/
def readAll (d : Nat) : Act (Except Files.Fault Raw) := do
  match ← look d with
  | .ok text =>
    skip d text.length true
    return .ok text
  | .error f => return .error f

end Act

end AgentPulse.Shell
