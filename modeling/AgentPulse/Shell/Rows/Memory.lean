import AgentPulse.Shell.Program.Basic
import AgentPulse.Shell.Rows.Grammar
import AgentPulse.Shell.Rows.Value

/-!
# What a script for rows works with

Names with values and arrays, the row with its cells, and what is read and written. A change of the
row changes its cells, and the other way round.
-/

namespace AgentPulse.Shell.Rows

/-- What a name stands for. -/
inductive Slot where
  | value (v : Value)
  /-- The array of a number. -/
  | array (n : Nat)
  deriving Inhabited

/-- Why statements are not gone on with. -/
inductive Stop where
  | next
  | exit
  | leave
  | again
  | back (v : Value)
  | fatal (message : String)

/-- What rows are read from. -/
structure Feed where
  text : Raw := []
  isOpen : Bool := false
  /-- Whether it is the input of the program. -/
  isInput : Bool := false
  /-- The number of the next argument to look at. -/
  argument : Nat := 1
  /-- Whether there was anything to read among the arguments. -/
  hasRead : Bool := false

/-- What a script works with. -/
structure Memory where
  globals : Dict Slot := Dict.empty
  /-- In a function: its own names, some of which stand for nothing yet. -/
  locals : Option (Dict (Option Slot)) := none
  arrays : Array (Dict Value) := #[]
  row : Raw := []
  cells : Array Value := #[]
  feed : Feed := {}
  /-- Files that are written to, and their channels. -/
  outlets : List (Raw × Nat) := []
  /-- Commands that are written to, the last one first, with what they get, the last piece first. -/
  commands : List (Raw × List Raw) := []
  /-- What is left of files and commands that are read from. -/
  sources : List (Raw × Raw) := []
  /-- The ranges of rows that have been entered. -/
  inside : List Nat := []
  status : Nat := 0
  seed : Nat := 0

/-- Something done by a script. -/
abbrev Work := ExceptT Stop (StateT Memory Act)

namespace Work

/-- The memory. -/
def memory : Work Memory := getThe Memory

/-- Change the memory. -/
def change (f : Memory → Memory) : Work Unit := modifyThe Memory f

/-- The script cannot go on. -/
def fatal {α : Type} (message : String) : Work α := throw (.fatal message)

/-! ## Names -/

/-- What a name stands for. -/
def slot? (name : Raw) : Work (Option Slot) := do
  let m ← memory
  let key := String.ofList name
  match m.locals.bind fun l => l.find? key with
  | some s => return s
  | none => return m.globals.find? key

/-- Let a name stand for something. -/
def setSlot (name : Raw) (s : Slot) : Work Unit := change fun m =>
  let key := String.ofList name
  match m.locals with
  | some l =>
    if l.contains key then { m with locals := some (l.insert key (some s)) }
    else { m with globals := m.globals.insert key s }
  | none => { m with globals := m.globals.insert key s }

/-- The value of a name outside of functions. -/
def global (name : String) : Work Value := do
  match (← memory).globals.find? name with
  | some (.value v) => return v
  | _ => return .unset

/-- Let a name have a value outside of functions. -/
def setGlobal (name : String) (v : Value) : Work Unit := change fun m =>
  { m with globals := m.globals.insert name (.value v) }

/-- The text of a name outside of functions. -/
def globalText (name : String) : Work Raw := do return (← global name).toText (raw "%.6g")

/-- The text of a value. -/
def textOf (v : Value) : Work Raw := do return v.toText (← globalText "CONVFMT")

/-- The number of an array. A name that stands for nothing yet gets a new one. -/
def arrayOf (name : Raw) : Work Nat := do
  match ← slot? name with
  | some (.array n) => return n
  | some (.value .unset) | none =>
    let n := (← memory).arrays.size
    change fun m => { m with arrays := m.arrays.push Dict.empty }
    setSlot name (.array n)
    return n
  | some (.value _) => fatal ("type error: " ++ name.shown ++ " is no array")

/-- What an array holds. -/
def items (name : Raw) : Work (Dict Value) := do
  let n ← arrayOf name
  return (← memory).arrays.getD n Dict.empty

/-- Let an array hold something else. -/
def setItems (name : Raw) (d : Dict Value) : Work Unit := do
  let n ← arrayOf name
  change fun m => { m with arrays := m.arrays.set! n d }

/-! ## Rows -/

/-- A pattern from its text. -/
def patternOf (cs : Raw) : Work Regex := do
  match Regex.read { isExtended := true, hasEscapes := true } cs with
  | .ok r => return r
  | .error message =>
    fatal ("regular expression compile failed (" ++ message ++ ")\n" ++ cs.shown)

/-- The pieces of a text between matches. -/
def piecesBetween (r : Regex) (text : Raw) : List Raw :=
  let chars := text.toArray
  let found := (r.all chars).filter fun m => m.start < m.stop
  let (pieces, i) := found.foldl (fun (acc : List Raw × Nat) m =>
    ((chars.extract acc.2 m.start).toList :: acc.1, m.stop)) ([], 0)
  ((chars.extract i chars.size).toList :: pieces).reverse

/-- The words of a text between blanks. -/
def blankWords (text : Raw) : List Raw :=
  let (found, here) := text.foldl (fun (acc : List Raw × Raw) c =>
    if c = ' ' ∨ c = '\t' ∨ c = '\n' then
      if acc.2.isEmpty then acc else (acc.2.reverse :: acc.1, [])
    else (acc.1, c :: acc.2)) ([], [])
  (if here.isEmpty then found else here.reverse :: found).reverse

/-- A text parted at a separator. -/
def parted (separator text : Raw) (linesToo : Bool) : Work (List Raw) := do
  if text.isEmpty then return []
  else match separator with
    | [' '] => return blankWords text
    | [] => return text.map fun c => [c]
    | [c] =>
      if linesToo then return (Program.partsOf '\n' text).flatMap (Program.partsOf c)
      else return Program.partsOf c text
    | cs =>
      let r ← patternOf cs
      let r := if linesToo then Regex.either r (.one (· == '\n')) else r
      return piecesBetween r text

/-- The cells of the row in the order of their numbers. -/
def setCells (cells : List Value) : Work Unit := do
  change fun m => { m with cells := cells.toArray }
  setGlobal "NF" (count cells.length)

/-- Let the row be another. -/
def setRow (row : Raw) : Work Unit := do
  let linesToo := (← globalText "RS").isEmpty
  let words ← parted (← globalText "FS") row linesToo
  change fun m => { m with row }
  setCells (words.map .input)

/-- Let the row be what its cells make. -/
def joinRow : Work Unit := do
  let cells ← (← memory).cells.toList.mapM textOf
  let row := List.intercalate (← globalText "OFS") cells
  change fun m => { m with row }

/-- The cell of a number. Cell 0 is the row. -/
def cell (n : Nat) : Work Value := do
  let m ← memory
  if n = 0 then return .input m.row else return m.cells.getD (n - 1) .unset

/-- Let there be so many cells. -/
def resize (n : Nat) : Work Unit := do
  let cells := (← memory).cells.toList.take n
  setCells (cells ++ List.replicate (n - cells.length) .unset)
  joinRow

/-- Let a cell be another. -/
def setCell (n : Nat) (v : Value) : Work Unit := do
  if n = 0 then setRow (← textOf v)
  else
    let cells := (← memory).cells
    let cells := if cells.size < n then cells ++ Array.replicate (n - cells.size) .unset else cells
    setCells (cells.set! (n - 1) v).toList
    joinRow

/-- Let a name have a value. -/
def setName (name : Raw) (v : Value) : Work Unit := do
  match ← slot? name with
  | some (.array _) => fatal ("type error: " ++ name.shown ++ " is an array")
  | _ =>
    setSlot name (.value v)
    if name = raw "NF" then resize (natural v.toNumber)

/-- The first row of a text and what follows it, if there is one. -/
def takeRow (text : Raw) : Work (Option (Raw × Raw)) := do
  let upTo (c : Char) (text : Raw) : Raw × Raw :=
    let row := text.takeWhile (· != c)
    (row, text.drop (row.length + 1))
  match ← globalText "RS" with
  | [] =>
    let text := text.dropWhile (· == '\n')
    if text.isEmpty then return none
    else
      let (rows, rest) := paragraph [] text (text.length + 1)
      return some (rows, rest)
  | [c] => if text.isEmpty then return none else return some (upTo c text)
  | cs =>
    if text.isEmpty then return none
    else
      let r ← patternOf cs
      let chars := text.toArray
      match (r.all chars).find? fun m => m.start < m.stop with
      | some m => return some (text.take m.start, text.drop m.stop)
      | none => return some (if text.getLast? = some '\n' then text.dropLast else text, [])
where
  /-- The lines up to an empty one, and what follows that. -/
  paragraph (before : Raw) (text : Raw) : Nat → Raw × Raw
    | 0 => (before.reverse, text)
    | fuel + 1 =>
      match text with
      | '\n' :: '\n' :: rest => (before.reverse, rest.dropWhile (· == '\n'))
      | ['\n'] | [] => (before.reverse, [])
      | c :: rest => paragraph (c :: before) rest fuel

/-- Let a counter be one more. -/
def countUp (name : String) : Work Unit := do
  setGlobal name (.number ((← global name).toNumber + 1))

/-- Text with its escapes resolved. -/
def resolved : Nat → Raw → Raw
  | 0, cs => cs
  | fuel + 1, cs =>
    match cs with
    | '\\' :: '"' :: rest => '"' :: resolved fuel rest
    | '\\' :: c :: rest =>
      let (d, after) := escaped (c :: rest)
      d :: resolved fuel after
    | c :: rest => c :: resolved fuel rest
    | [] => []

/-- Carry out an assignment among the arguments. -/
def assignWord (word : Raw) : Work Unit := do
  let name := word.takeWhile (· != '=')
  let value := word.drop (name.length + 1)
  setName name (.input (resolved (value.length + 1) value))

/-- Open the next file among the arguments, or the input where there is none: whether there is more
to read. -/
def openNext : Nat → Work Bool
  | 0 => return false
  | fuel + 1 => do
    let m ← memory
    let n := m.feed.argument
    let last := natural (← global "ARGC").toNumber
    if last ≤ n then
      if m.feed.hasRead then return false
      else
        match ← (Act.look 0 : Act (Except Files.Fault Raw)) with
        | .ok text =>
          change fun m => { m with feed :=
            { m.feed with text, isOpen := true, isInput := true, hasRead := true } }
          return true
        | .error _ => return false
    else
      change fun m => { m with feed := { m.feed with argument := n + 1 } }
      let word ← match (← items (raw "ARGV")).find? (Text.Decimal.ofNat n) with
        | some v => textOf v
        | none => pure []
      if word.isEmpty then openNext fuel
      else if isName (word.takeWhile (· != '=')) && word.contains '=' then
        assignWord word
        openNext fuel
      else
        let isInput := word == ['-']
        let read : Act (Except Files.Fault Raw) := if isInput then Act.look 0 else Act.readPath word
        match ← read with
        | .ok text =>
          setGlobal "FILENAME" (.text word)
          setGlobal "FNR" (.number 0)
          change fun m => { m with feed :=
            { m.feed with text, isOpen := true, isInput, hasRead := true } }
          return true
        | .error f => fatal ("cannot open " ++ word.shown ++ " (" ++ f.words ++ ")")

/-- The next row of all there is to read. -/
def nextRow : Nat → Work (Option Raw)
  | 0 => return none
  | fuel + 1 => do
    let m ← memory
    if m.feed.isOpen then
      match ← takeRow m.feed.text with
      | some (row, text) =>
        change fun m => { m with feed := { m.feed with text } }
        return some row
      | none =>
        if m.feed.isInput then
          match ← (Act.look 0 : Act (Except Files.Fault Raw)) with
          | .ok all => (Act.skip 0 all.length true : Act Unit)
          | .error _ => pure ()
        change fun m => { m with feed := { m.feed with text := [], isOpen := false } }
        nextRow fuel
    else if ← openNext fuel then nextRow fuel
    else return none

end Work

end AgentPulse.Shell.Rows
