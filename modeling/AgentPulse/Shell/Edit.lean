import AgentPulse.Shell.Number
import AgentPulse.Shell.Regex

/-!
# Scripts that edit lines

A script is a list of steps. Each step says for which lines it is meant and what is done to them.
Groups and jumps are kept as the numbers of the steps that are gone on with.
-/

namespace AgentPulse.Shell.Edit

/-- What a line is chosen by. -/
inductive Address where
  | line (n : Nat)
  /-- Every so many lines from a first one on. -/
  | every (first step : Nat)
  | last
  /-- The lines in which something is found; where nothing is said, what was looked for last. -/
  | found (r : Option Regex)
  deriving Inhabited

/-- Where a range of lines ends. -/
inductive Bound where
  | at (a : Address)
  /-- So many lines later. -/
  | later (n : Nat)
  /-- At the next line whose number is a multiple. -/
  | multiple (n : Nat)
  deriving Inhabited

/-- The lines that a step is meant for. -/
structure Choice where
  first : Option Address := none
  bound : Option Bound := none
  /-- Whether all other lines are meant. -/
  isOpposite : Bool := false
  deriving Inhabited

/-- A piece of what a match is exchanged for. -/
inductive Piece where
  | text (cs : Raw)
  | group (n : Nat)
  /-- From here on letters are of another case: all of them, or the next one. -/
  | caseOf (letter : Char)
  deriving Inhabited

/-- An exchange of matches for other text. -/
structure Exchange where
  pattern : Option Regex
  pieces : List Piece
  /-- The number of the first match that is exchanged. -/
  start : Nat := 1
  isGlobal : Bool := false
  prints : Bool := false
  target : Option Raw := none
  deriving Inhabited

/-- What a step does. -/
inductive Deed where
  /-- The start of a group, and the number of the step behind it. -/
  | group (past : Nat)
  | nothing
  | exchange (x : Exchange)
  /-- Exchange characters for others. -/
  | swap (pairs : List (Char × Char))
  | append (text : Raw)
  | insert (text : Raw)
  | change (text : Raw)
  | delete
  | deleteLine
  | print
  | printLine
  | next
  | addNext
  | keep
  | keepMore
  | recall
  | recallMore
  | trade
  | clear
  | number
  | show (width : Option Nat)
  | fileName
  | quit (status : Nat) (isSilent : Bool)
  | jump (label : Raw)
  /-- Jump if something was exchanged, or if nothing was. -/
  | jumpIf (wanted : Bool) (label : Raw)
  | read (path : Raw)
  | readLine (path : Raw)
  | write (path : Raw)
  | writeLine (path : Raw)
  deriving Inhabited

/-- One step. -/
structure Step where
  choice : Choice
  deed : Deed
  deriving Inhabited

/-- A script. -/
structure Script where
  steps : Array Step := #[]
  labels : List (Raw × Nat) := []
  deriving Inhabited

/-! ## Texts -/

/-- The text up to a delimiter, and what follows it. A backslash before the delimiter goes away. -/
def upTo (delimiter : Char) (isPattern : Bool) : Raw → Option (Raw × Raw)
  | [] => none
  | '\\' :: c :: rest =>
    let kept : Raw :=
      if c = 'n' ∧ isPattern ∧ delimiter ≠ 'n' then ['\n']
      else if c = '\n' ∨ (c = delimiter ∧ (isPattern ∨ c ≠ '&')) then [c]
      else ['\\', c]
    (upTo delimiter isPattern rest).map fun r => (kept ++ r.1, r.2)
  | c :: rest =>
    if c = delimiter then some ([], rest)
    else if c = '\n' ∧ isPattern then none
    else (upTo delimiter isPattern rest).map fun r => (c :: r.1, r.2)

/-- The control character that a letter behind a backslash stands for. -/
def control? (c : Char) : Option Char :=
  match c with
  | 'a' => some '\x07'
  | 'f' => some '\x0c'
  | 'r' => some '\r'
  | 't' => some '\t'
  | 'v' => some '\x0b'
  | _ => none

/-- A character given by its number behind a letter, and what follows. -/
def numbered? (c : Char) (rest : Raw) : Option (Char × Raw) :=
  let read (base size : Nat) : Option (Char × Raw) :=
    let ds := (rest.take size).takeWhile fun d => (digitIn? base d).isSome
    if ds.isEmpty then none
    else
      let n := ds.foldl (fun n d => base * n + (digitIn? base d).getD 0) 0
      some (Char.ofNat (n % 256), rest.drop ds.length)
  match c with
  | 'x' => read 16 2
  | 'o' => read 8 3
  | 'd' => read 10 3
  | _ => none

/-- Let backslashes with letters be the characters that they stand for. Characters that would mean
something get a backslash. -/
def plainControls (special : Raw) : Nat → Raw → Raw
  | 0, cs => cs
  | fuel + 1, cs =>
    match cs with
    | '\\' :: c :: rest =>
      match control? c, numbered? c rest with
      | some d, _ => d :: plainControls special fuel rest
      | none, some (d, after) =>
        if special.contains d then '\\' :: d :: plainControls special fuel after
        else d :: plainControls special fuel after
      | none, none => '\\' :: c :: plainControls special fuel rest
    | c :: rest => c :: plainControls special fuel rest
    | [] => []

/-- A pattern as it is read. -/
def patternText (cs : Raw) : Raw := plainControls "$*.[\\]^+?(){}|".toList (cs.length + 1) cs

/-- The pieces of what matches are exchanged for. -/
def readPieces : Raw → List Piece
  | [] => []
  | '\\' :: c :: rest =>
    let p : Piece :=
      if c.isDigit then .group (c.toNat - '0'.toNat)
      else if c = 'n' then .text ['\n']
      else if "LUluE".contains c then .caseOf c
      else .text [c]
    p :: readPieces rest
  | '&' :: rest => .group 0 :: readPieces rest
  | c :: rest => .text [c] :: readPieces rest

/-- The number of the last group that pieces ask for. -/
def lastGroup (pieces : List Piece) : Nat :=
  pieces.foldl (fun n p => match p with
    | .group m => max n m
    | _ => n) 0

/-- Text to be added, up to the end of its last line, and what follows. -/
def readText : Raw → Raw × Raw
  | [] => ([], [])
  | '\n' :: rest => ([], rest)
  | '\\' :: c :: rest =>
    let (text, after) := readText rest
    let d := if c = 'n' then '\n' else (control? c).getD c
    (d :: text, after)
  | c :: rest =>
    let (text, after) := readText rest
    (c :: text, after)

/-! ## Reading -/

/-- What is wrong with a script: where reading had come to is what is left of it. -/
structure Mistake where
  message : String
  rest : Raw

/-- How far reading has come. -/
structure Reader where
  rest : Raw
  script : Script := {}
  /-- The groups that are open, the innermost first. -/
  groups : List Nat := []

/-- What is left behind blanks. -/
def skipBlanks (cs : Raw) : Raw := cs.dropWhile fun c => c == ' ' || c == '\t'

/-- The flags behind the pattern of an address. -/
def addressFlags (cs : Raw) : Bool × Raw :=
  let flags := cs.takeWhile fun c => c == 'I' || c == 'M'
  (flags.contains 'I', cs.drop flags.length)

/-- The pattern of a text. -/
def readPattern (d : Regex.Dialect) (foldsCase : Bool) (text rest : Raw) :
    Except Mistake (Option Regex) :=
  if text.isEmpty then .ok none
  else
    match Regex.read { d with foldsCase := d.foldsCase || foldsCase } (patternText text) with
    | .ok r => .ok (some r)
    | .error message => .error ⟨message, rest⟩

/-- An address, if there is one, and what follows it. -/
def readAddress (d : Regex.Dialect) (cs : Raw) : Except Mistake (Option Address × Raw) :=
  let found (delimiter : Char) (rest : Raw) : Except Mistake (Option Address × Raw) :=
    match upTo delimiter true rest with
    | none => .error ⟨"unterminated address regex", []⟩
    | some (text, rest) => do
      let (foldsCase, rest) := addressFlags rest
      let r ← readPattern d foldsCase text rest
      return (some (.found r), rest)
  match cs with
  | '/' :: rest => found '/' rest
  | '\\' :: c :: rest => found c rest
  | '$' :: rest => .ok (some .last, rest)
  | c :: _ =>
    if !c.isDigit then .ok (none, cs)
    else
      let ds := cs.takeWhile Char.isDigit
      let n := Text.Decimal.value ds
      match skipBlanks (cs.drop ds.length) with
      | '~' :: rest =>
        let rest := skipBlanks rest
        let step := rest.takeWhile Char.isDigit
        .ok (some (.every n (Text.Decimal.value step)), rest.drop step.length)
      | rest => .ok (some (.line n), rest)
  | [] => .ok (none, [])

/-- The end of a range, and what follows it. -/
def readBound (d : Regex.Dialect) (cs : Raw) : Except Mistake (Bound × Raw) := do
  let counted (make : Nat → Bound) (rest : Raw) : Except Mistake (Bound × Raw) :=
    let ds := rest.takeWhile Char.isDigit
    if ds.isEmpty then .error ⟨"expected number", rest⟩
    else .ok (make (Text.Decimal.value ds), rest.drop ds.length)
  match cs with
  | '+' :: rest => counted .later rest
  | '~' :: rest => counted .multiple rest
  | cs =>
    match ← readAddress d cs with
    | (some a, rest) => return (.at a, rest)
    | (none, rest) => .error ⟨"unexpected `,'", rest.drop 1⟩

/-- The lines that a step is meant for, and what follows. -/
def readChoice (d : Regex.Dialect) (cs : Raw) : Except Mistake (Choice × Raw) := do
  let opposite (c : Choice) (rest : Raw) : Except Mistake (Choice × Raw) :=
    match skipBlanks rest with
    | '!' :: rest =>
      match skipBlanks rest with
      | '!' :: rest => .error ⟨"multiple `!'s", rest⟩
      | rest => .ok ({ c with isOpposite := true }, rest)
    | rest => .ok (c, rest)
  match ← readAddress d cs with
  | (none, '+' :: rest) | (none, '~' :: rest) =>
    .error ⟨"invalid usage of +N or ~N as first address", rest⟩
  | (none, rest) => opposite {} rest
  | (some a, rest) =>
    let rest := skipBlanks rest
    let (bound, rest) : Option Bound × Raw ← match rest with
      | ',' :: rest => do
        let (b, rest) ← readBound d (skipBlanks rest)
        pure (some b, rest)
      | rest => pure (none, rest)
    let isFound : Bool := bound matches some (.at (.found _))
    if (a matches .line 0) && !isFound then
      .error ⟨"invalid usage of line address 0", rest⟩
    else opposite { first := some a, bound } rest

/-- What is left behind the end of a step. -/
def readEnd (cs : Raw) : Except Mistake Raw :=
  match skipBlanks cs with
  | [] => .ok []
  | '}' :: rest => .ok ('}' :: rest)
  | '#' :: rest => .ok ('#' :: rest)
  | '\n' :: rest | ';' :: rest => .ok rest
  | _ :: rest => .error ⟨"extra characters after command", rest⟩

/-- The flags of an exchange, whether case does not count, and what follows. -/
def readFlags (x : Exchange) (foldsCase hasNumber : Bool) :
    Nat → Raw → Except Mistake (Exchange × Bool × Raw)
  | 0, rest => .ok (x, foldsCase, rest)
  | fuel + 1, cs =>
    match cs with
    | [] => .ok (x, foldsCase, [])
    | '\n' :: rest | ';' :: rest => .ok (x, foldsCase, rest)
    | '}' :: _ | '#' :: _ => .ok (x, foldsCase, cs)
    | 'i' :: rest | 'I' :: rest => readFlags x true hasNumber fuel rest
    | 'm' :: rest | 'M' :: rest | ' ' :: rest => readFlags x foldsCase hasNumber fuel rest
    | 'g' :: rest =>
      if x.isGlobal then .error ⟨"multiple `g' options to `s' command", rest⟩
      else readFlags { x with isGlobal := true } foldsCase hasNumber fuel rest
    | 'p' :: rest =>
      if x.prints then .error ⟨"multiple `p' options to `s' command", rest⟩
      else readFlags { x with prints := true } foldsCase hasNumber fuel rest
    | 'w' :: rest =>
      let rest := skipBlanks rest
      let path := rest.takeWhile (· != '\n')
      if path.isEmpty then .error ⟨"missing filename in r/R/w/W commands", rest⟩
      else .ok ({ x with target := some path }, foldsCase, rest.drop (path.length + 1))
    | c :: rest =>
      if c.isDigit then
        let ds := cs.takeWhile Char.isDigit
        let after := cs.drop ds.length
        if hasNumber then .error ⟨"multiple number options to `s' command", after⟩
        else if Text.Decimal.value ds = 0 then
          .error ⟨"number option to `s' command may not be zero", after⟩
        else readFlags { x with start := Text.Decimal.value ds } foldsCase true fuel after
      else .error ⟨"unknown option to `s'", rest⟩

/-- An exchange, and what follows it. -/
def readExchange (d : Regex.Dialect) (cs : Raw) : Except Mistake (Deed × Raw) := do
  let unclosed : Except Mistake (Deed × Raw) := .error ⟨"unterminated `s' command", []⟩
  match cs with
  | [] | '\n' :: _ | '\\' :: _ => unclosed
  | delimiter :: rest =>
    match upTo delimiter true rest with
    | none => unclosed
    | some (pattern, rest) =>
      match upTo delimiter false rest with
      | none => unclosed
      | some (other, rest) =>
        let other := plainControls "&\\".toList (other.length + 1) other
        let pieces := readPieces other
        let (x, foldsCase, rest) ← readFlags { pattern := none, pieces } false false
          (rest.length + 1) rest
        let r ← readPattern d foldsCase pattern rest
        let isAsked (n : Nat) : Bool :=
          if d.isExtended then n ≤ (pattern.filter (· == '(')).length
          else n ≤ ((pattern.zip (pattern.drop 1)).filter fun e => e.1 == '\\' && e.2 == '(').length
        let n := lastGroup pieces
        if !pattern.isEmpty && !isAsked n then
          .error ⟨"invalid reference \\" ++ Text.Decimal.ofNat n ++ " on `s' command's RHS", rest⟩
        else return (.exchange { x with pattern := r }, rest)

/-- The characters of a list of characters that are swapped. -/
def swapChars : Raw → Raw
  | '\\' :: '\\' :: rest => '\\' :: swapChars rest
  | '\\' :: 'n' :: rest => '\n' :: swapChars rest
  | '\\' :: c :: rest => match control? c with
    | some d => d :: swapChars rest
    | none => '\\' :: c :: swapChars rest
  | c :: rest => c :: swapChars rest
  | [] => []

/-- Characters to be swapped, and what follows. -/
def readSwap (cs : Raw) : Except Mistake (Deed × Raw) := do
  let unclosed : Except Mistake (Deed × Raw) := .error ⟨"unterminated `y' command", []⟩
  match cs with
  | [] => unclosed
  | delimiter :: rest =>
    match upTo delimiter false rest with
    | none => unclosed
    | some (a, rest) =>
      match upTo delimiter false rest with
      | none => unclosed
      | some (b, rest) =>
        let a := swapChars a
        let b := swapChars b
        if a.length ≠ b.length then
          .error ⟨"strings for `y' command are different lengths", rest⟩
        else return (.swap (a.zip b), ← readEnd rest)

/-- Text for a step that adds some, and what follows. -/
def readAdded (cs : Raw) : Except Mistake (Raw × Raw) :=
  match skipBlanks cs with
  | [] => .error ⟨"expected \\ after `a', `c' or `i'", []⟩
  | '\\' :: rest =>
    match skipBlanks rest with
    | '\n' :: after =>
      let (text, rest) := readText after
      .ok (text ++ ['\n'], rest)
    | [] => .error ⟨"expected \\ after `a', `c' or `i'", []⟩
    | _ =>
      let (text, rest) := readText rest
      .ok (text ++ ['\n'], rest)
  | rest =>
    let (text, rest) := readText rest
    .ok (text ++ ['\n'], rest)

/-- A path up to the end of the line, and what follows. -/
def readPath (cs : Raw) : Except Mistake (Raw × Raw) :=
  let cs := skipBlanks cs
  let path := cs.takeWhile (· != '\n')
  if path.isEmpty then .error ⟨"missing filename in r/R/w/W commands", cs⟩
  else .ok (path, cs.drop (path.length + 1))

/-- A label, and what follows. -/
def readLabel (endsAtBrace : Bool) (cs : Raw) : Raw × Raw :=
  let cs := skipBlanks cs
  let label := cs.takeWhile fun c => !isSpace c && c != ';' && !(endsAtBrace && c == '}')
  (label, cs.drop label.length)

/-- A number that may be missing, and what follows the step. -/
def readCount (cs : Raw) : Except Mistake (Option Nat × Raw) := do
  let cs := skipBlanks cs
  let ds := cs.takeWhile Char.isDigit
  let rest ← readEnd (cs.drop ds.length)
  return (if ds.isEmpty then none else some (Text.Decimal.value ds), rest)

/-- Add a step. -/
def Reader.add (x : Reader) (choice : Choice) (deed : Deed) (rest : Raw) : Reader :=
  { x with rest, script := { x.script with steps := x.script.steps.push ⟨choice, deed⟩ } }

/-- Read a step that is meant for some lines. -/
def readDeed (d : Regex.Dialect) (x : Reader) (choice : Choice) (cs : Raw) :
    Except Mistake Reader := do
  let simple (deed : Deed) (rest : Raw) : Except Mistake Reader := do
    return x.add choice deed (← readEnd rest)
  let added (make : Raw → Deed) (rest : Raw) : Except Mistake Reader := do
    let (text, rest) ← readAdded rest
    return x.add choice (make text) rest
  let onFile (make : Raw → Deed) (rest : Raw) : Except Mistake Reader := do
    let (path, rest) ← readPath rest
    return x.add choice (make path) rest
  let toLabel (make : Raw → Deed) (rest : Raw) : Except Mistake Reader :=
    let (label, rest) := readLabel true rest
    .ok (x.add choice (make label) rest)
  match cs with
  | [] => .error ⟨"missing command", []⟩
  | c :: rest =>
    match c with
    | '\n' | ';' => .error ⟨"missing command", rest⟩
    | '#' =>
      if choice.first.isSome then .error ⟨"comments don't accept any addresses", rest⟩
      else return { x with rest := rest.dropWhile (· != '\n') }
    | '{' =>
      let y := x.add choice (.group 0) rest
      return { y with groups := x.script.steps.size :: x.groups }
    | '}' =>
      match x.groups with
      | [] => .error ⟨"unexpected `\x7d'", rest⟩
      | start :: outer =>
        if choice.first.isSome then .error ⟨"\x7d doesn't want any addresses", rest⟩
        else
          let rest ← readEnd rest
          let past := x.script.steps.size
          let steps := x.script.steps.modify start fun s => { s with deed := .group past }
          return { x with rest, groups := outer, script := { x.script with steps } }
    | ':' =>
      if choice.first.isSome then .error ⟨": doesn't want any addresses", rest⟩
      else
        let (label, rest) := readLabel false rest
        if label.isEmpty then .error ⟨"\":\" lacks a label", rest⟩
        else
          let labels := (label, x.script.steps.size) :: x.script.labels
          return { x with rest, script := { x.script with labels } }
    | 's' => do
      let (deed, rest) ← readExchange d rest
      return x.add choice deed rest
    | 'y' => do
      let (deed, rest) ← readSwap rest
      return x.add choice deed rest
    | 'a' => added .append rest
    | 'i' => added .insert rest
    | 'c' => added .change rest
    | 'b' => toLabel .jump rest
    | 't' => toLabel (.jumpIf true) rest
    | 'T' => toLabel (.jumpIf false) rest
    | 'r' => onFile .read rest
    | 'R' => onFile .readLine rest
    | 'w' => onFile .write rest
    | 'W' => onFile .writeLine rest
    | 'q' | 'Q' =>
      if choice.bound.isSome then .error ⟨"command only uses one address", rest⟩
      else
        let (n, rest) ← readCount rest
        return x.add choice (.quit (n.getD 0 % 256) (c == 'Q')) rest
    | 'l' => do
      let (n, rest) ← readCount rest
      return x.add choice (.show n) rest
    | 'd' => simple .delete rest
    | 'D' => simple .deleteLine rest
    | 'p' => simple .print rest
    | 'P' => simple .printLine rest
    | 'n' => simple .next rest
    | 'N' => simple .addNext rest
    | 'h' => simple .keep rest
    | 'H' => simple .keepMore rest
    | 'g' => simple .recall rest
    | 'G' => simple .recallMore rest
    | 'x' => simple .trade rest
    | 'z' => simple .clear rest
    | '=' => simple .number rest
    | 'F' => simple .fileName rest
    | c => .error ⟨"unknown command: `" ++ String.singleton c ++ "'", rest⟩

/-- Read steps up to the end. -/
def readSteps (d : Regex.Dialect) : Nat → Reader → Except Mistake Reader
  | 0, x => .ok x
  | fuel + 1, x => do
    match x.rest.dropWhile fun c => isSpace c || c == ';' with
    | [] => return { x with rest := [] }
    | cs =>
      let (choice, rest) ← readChoice d cs
      let y ← readDeed d x choice rest
      readSteps d fuel y

/-- The label that a step jumps to. -/
def Deed.label? : Deed → Option Raw
  | .jump label | .jumpIf _ label => some label
  | _ => none

/-- Read a script from parts, which are put on lines of their own. What is wrong is said with the
number of the part and how far it had been read. -/
def Script.read (d : Regex.Dialect) (parts : List Raw) : Except String Script := do
  let text := List.intercalate ['\n'] parts
  let place (rest : Raw) : String :=
    let read := text.length - rest.length
    let (n, before, _) := parts.foldl (fun (acc : Nat × Nat × Bool) p =>
      let (n, before, isFound) := acc
      if isFound || read ≤ before + p.length then (n, before, true)
      else (n + 1, before + p.length + 1, false)) (1, 0, false)
    "-e expression #" ++ Text.Decimal.ofNat n ++ ", char " ++
      Text.Decimal.ofNat (read - before) ++ ": "
  match readSteps d (2 * text.length + 2) { rest := text } with
  | .error m => .error (place m.rest ++ m.message)
  | .ok x =>
    if !x.groups.isEmpty then .error "-e expression #1, char 0: unmatched `\x7b'"
    else
      let isKnown (label : Raw) : Bool :=
        label.isEmpty || x.script.labels.any fun l => l.1 == label
      match (x.script.steps.toList.filterMap fun s => s.deed.label?).find? fun l => !isKnown l with
      | some label => .error ("can't find label for jump to `" ++ label.shown ++ "'")
      | none => return x.script

end AgentPulse.Shell.Edit
