import AgentPulse.Shell.Edit
import AgentPulse.Shell.Program.Folders

/-!
# Editing lines

A script of steps is carried out for each line. There are two texts: the line that is edited, and
one that is kept aside.
-/

namespace AgentPulse.Shell.Edit

/-- A line, and whether a break follows it. -/
structure Line where
  text : Raw
  isClosed : Bool
  deriving Inhabited

/-- The lines of a text. -/
def linesIn (mark : Char) (text : Raw) : List Line :=
  let (found, here) := text.foldl (fun (acc : List Line × Raw) c =>
    if c = mark then (⟨acc.2.reverse, true⟩ :: acc.1, []) else (acc.1, c :: acc.2)) ([], [])
  (if here.isEmpty then found else ⟨here.reverse, false⟩ :: found).reverse

/-- What has been written to one place: the last piece first, and whether a break is still missing
at the end. -/
structure Sheet where
  pieces : List Raw := []
  lacksBreak : Bool := false

/-- How far a range has come. -/
inductive Reach where
  | outside
  /-- Inside, up to the line of a number if that is known. -/
  | inside (stop : Option Nat)
  deriving Inhabited

/-- What a script works with. -/
structure Desk where
  line : Raw := []
  isClosed : Bool := true
  aside : Raw := []
  number : Nat := 0
  /-- The lines that are still to come. -/
  ahead : List Line
  /-- What is written before the next line comes, the last piece first. -/
  queued : List Raw := []
  output : Sheet := {}
  /-- What is written to files. -/
  files : List (Raw × Sheet) := []
  reaches : Array Reach
  isExchanged : Bool := false
  lastPattern : Option Regex := none
  /-- The lines that are left of files that are read line by line. -/
  readings : List (Raw × List Line) := []

/-- What a script is carried out with. -/
structure Setting where
  script : Script
  isSilent : Bool
  mark : Char
  width : Nat
  fileName : Raw
  contentOf : Raw → Option Raw

namespace Sheet

/-- Write more. -/
def write (s : Sheet) (mark : Char) (text : Raw) (isClosed : Bool) : Sheet :=
  let pieces := if s.lacksBreak then [mark] :: s.pieces else s.pieces
  { pieces := (if isClosed then text ++ [mark] else text) :: pieces, lacksBreak := !isClosed }

/-- Write what is complete in itself. -/
def add (s : Sheet) (mark : Char) (text : Raw) : Sheet :=
  let pieces := if s.lacksBreak then [mark] :: s.pieces else s.pieces
  { pieces := text :: pieces, lacksBreak := false }

/-- All that was written. -/
def text (s : Sheet) : Raw := s.pieces.reverse.flatten

end Sheet

/-- Where output goes instead of a file. -/
def outputPath : Raw := raw "/dev/stdout"

/-- How carrying out the steps for a line has come to its end. -/
inductive Close where
  | ended
  | deleted
  /-- What is left of the line is edited once more. -/
  | again
  | quit (status : Nat)
  | failed (message : String)

namespace Desk

/-- Write the line. -/
def writeLine (d : Desk) (e : Setting) (text : Raw) (isClosed : Bool) : Desk :=
  { d with output := d.output.write e.mark text isClosed }

/-- Write text that is complete in itself. -/
def writeText (d : Desk) (e : Setting) (text : Raw) : Desk :=
  { d with output := d.output.add e.mark text }

/-- Write a line to a file. -/
def writeTo (d : Desk) (e : Setting) (path text : Raw) (isClosed : Bool) : Desk :=
  if path = outputPath then d.writeLine e text isClosed
  else
    let s := ((d.files.lookup path).getD {}).write e.mark text isClosed
    { d with files := (path, s) :: d.files.filter fun f => f.1 != path }

/-- Write what is queued. -/
def flush (d : Desk) (e : Setting) : Desk :=
  { d.queued.reverse.foldl (fun (d : Desk) text => d.writeText e text) d with queued := [] }

/-- The next line, behind what has been read if that is kept. -/
def advance (d : Desk) (e : Setting) (isAdded : Bool) : Option Desk :=
  match d.ahead with
  | [] => none
  | l :: ahead =>
    let d := d.flush e
    let line := if isAdded then d.line ++ e.mark :: l.text else l.text
    some { d with line, isClosed := l.isClosed, ahead, number := d.number + 1 }

/-- The place where a pattern is found first in the line. -/
def isFound (d : Desk) (r : Option Regex) : Option (Bool × Desk) :=
  match r.or d.lastPattern with
  | none => none
  | some r => some (r.isIn d.line, { d with lastPattern := some r })

/-- Whether an address is that of the line. -/
def isAt (d : Desk) (a : Address) : Option (Bool × Desk) :=
  match a with
  | .line n => some (d.number == n, d)
  | .every first step =>
    let isSo := if step = 0 then d.number == first
      else decide (first ≤ d.number) && (d.number - first) % step == 0
    some (isSo, d)
  | .last => some (d.ahead.isEmpty, d)
  | .found r => d.isFound r

/-- Let a range have come so far. -/
def setReach (d : Desk) (i : Nat) (r : Reach) : Desk := { d with reaches := d.reaches.set! i r }

/-- A range starts at the line. -/
def enter (d : Desk) (i : Nat) (b : Bound) : Desk :=
  let upTo (n : Nat) : Desk :=
    if n ≤ d.number then d.setReach i .outside else d.setReach i (.inside (some n))
  match b with
  | .at (.line n) => upTo n
  | .at _ => d.setReach i (.inside none)
  | .later n => upTo (d.number + n)
  | .multiple n => upTo (if n = 0 then 0 else (d.number + n - 1) / n * n)

/-- Whether the step of a number is meant for the line. -/
def isChosen (d : Desk) (i : Nat) (c : Choice) : Option (Bool × Desk) := do
  let (isSo, d) ← match c.first, c.bound with
    | none, _ => some (true, d)
    | some a, none => d.isAt a
    | some a, some b =>
      match d.reaches.getD i .outside with
      | .outside =>
        let isFromStart : Bool := a matches .line 0
        if isFromStart && d.number == 1 then
          match b with
          | .at a => do
            let (isOver, d) ← d.isAt a
            return (true, if isOver then d else d.setReach i (.inside none))
          | _ => some (true, d)
        else
          let (isSo, d) ← d.isAt a
          if isSo then some (true, d.enter i b) else some (false, d)
      | .inside (some n) =>
        let isOver : Bool := n ≤ d.number
        let d' := if isOver then d.setReach i .outside else d
        if d.number ≤ n then some (true, d') else d'.isAt a
      | .inside none =>
        match b with
        | .at a => do
          let (isOver, d) ← d.isAt a
          return (true, if isOver then d.setReach i .outside else d)
        | _ => some (true, d)
  return (isSo != c.isOpposite, d)

end Desk

/-- How letters are changed: all that follow, and the next one. -/
structure Casing where
  all : Option Char := none
  next : Option Char := none

/-- Text with the case of its letters changed. -/
def Casing.apply (c : Casing) (text : Raw) : Raw × Casing :=
  let change (how : Option Char) (x : Char) : Char := match how with
    | some 'U' | some 'u' => x.toUpper
    | some 'L' | some 'l' => x.toLower
    | _ => x
  match text, c.next with
  | [], _ => ([], c)
  | x :: rest, some n => (change (some n) x :: rest.map (change c.all), { c with next := none })
  | text, none => (text.map (change c.all), c)

/-- What a match is exchanged for. -/
def replacement (pieces : List Piece) (m : Regex.Match) (text : Array Char) : Raw :=
  let step := fun (acc : List Raw × Casing) (p : Piece) =>
    let put (cs : Raw) : List Raw × Casing :=
      let (cs, casing) := acc.2.apply cs
      (cs :: acc.1, casing)
    match p with
    | .text cs => put cs
    | .group n => put (m.group text n)
    | .caseOf 'E' => (acc.1, {})
    | .caseOf c =>
      if c = 'u' ∨ c = 'l' then (acc.1, { acc.2 with next := some c })
      else (acc.1, { acc.2 with all := some c })
  (pieces.foldl step ([], {})).1.reverse.flatten

/-- A line with matches exchanged, if there are such. -/
def Exchange.apply (x : Exchange) (r : Regex) (line : Raw) : Option Raw :=
  let text := line.toArray
  let found := if x.isGlobal ∨ 1 < x.start then r.all text else (r.search? text).toList
  let found := found.drop (x.start - 1)
  let found := if x.isGlobal then found else found.take 1
  if found.isEmpty then none
  else
    let (pieces, i) := found.foldl (fun (acc : List Raw × Nat) m =>
      let between := (text.extract acc.2 m.start).toList
      (replacement x.pieces m text :: between :: acc.1, m.stop)) ([], 0)
    some (((text.extract i text.size).toList :: pieces).reverse.flatten)

/-- A character so that it can be seen. -/
def visible (c : Char) : Raw :=
  match c with
  | '\\' => raw "\\\\"
  | '\x07' => raw "\\a"
  | '\x08' => raw "\\b"
  | '\x0c' => raw "\\f"
  | '\n' => raw "\\n"
  | '\r' => raw "\\r"
  | '\t' => raw "\\t"
  | '\x0b' => raw "\\v"
  | c =>
    if ' ' ≤ c ∧ c ≤ '~' then [c]
    else
      let ds := Nat.toDigits 8 c.toNat
      '\\' :: List.replicate (3 - ds.length) '0' ++ ds

/-- A line so that all of it can be seen, in rows of some width. -/
def visibleLine (width : Nat) (line : Raw) : Raw :=
  let (pieces, _) := line.foldl (fun (acc : List Raw × Nat) c =>
    let v := visible c
    if 1 < width ∧ width - 1 < acc.2 + v.length then (v :: ['\\', '\n'] :: acc.1, v.length)
    else (v :: acc.1, acc.2 + v.length)) ([], 0)
  (['$', '\n'] :: pieces).reverse.flatten

/-- The first line of a text, and what is left if there is more than one. -/
def firstLine (mark : Char) (text : Raw) : Raw × Option Raw :=
  let first := text.takeWhile (· != mark)
  (first, if first.length < text.length then some (text.drop (first.length + 1)) else none)

/-- Carry out the steps from one on. -/
def follow (e : Setting) : Nat → Nat → Desk → Close × Desk
  | 0, _, d => (.ended, d)
  | fuel + 1, i, d =>
    match e.script.steps[i]? with
    | none => (.ended, d)
    | some step =>
      match d.isChosen i step.choice with
      | none => (.failed "no previous regular expression", d)
      | some (false, d) =>
        match step.deed with
        | .group past => follow e fuel past d
        | _ => follow e fuel (i + 1) d
      | some (true, d) =>
        let on (d : Desk) : Close × Desk := follow e fuel (i + 1) d
        let jump (label : Raw) (d : Desk) : Close × Desk :=
          let target := if label.isEmpty then none else e.script.labels.lookup label
          match target with
          | none => (.ended, d)
          | some n => follow e fuel n d
        match step.deed with
        | .group _ | .nothing => on d
        | .exchange x =>
          match x.pattern.or d.lastPattern with
          | none => (.failed "no previous regular expression", d)
          | some r =>
            let d := { d with lastPattern := some r }
            match x.apply r d.line with
            | none => on d
            | some line =>
              let d := { d with line, isExchanged := true }
              let d := if x.prints then d.writeLine e line d.isClosed else d
              match x.target with
              | some path => on (d.writeTo e path line d.isClosed)
              | none => on d
        | .swap pairs => on { d with line := d.line.map fun c => (pairs.lookup c).getD c }
        | .append text => on { d with queued := text :: d.queued }
        | .insert text => on (d.writeText e text)
        | .change text =>
          let isInside := step.choice.bound.isSome && (d.reaches.getD i .outside) matches .inside _
          (.deleted, if isInside then d else d.writeText e text)
        | .delete => (.deleted, d)
        | .deleteLine =>
          match firstLine e.mark d.line with
          | (_, none) => (.deleted, d)
          | (_, some rest) => (.again, { d with line := rest })
        | .print => on (d.writeLine e d.line d.isClosed)
        | .printLine => on (d.writeLine e (firstLine e.mark d.line).1 true)
        | .next =>
          if d.ahead.isEmpty then (.ended, d)
          else
            let d := if e.isSilent then d else d.writeLine e d.line d.isClosed
            match d.advance e false with
            | some d => on d
            | none => (.ended, d)
        | .addNext =>
          match d.advance e true with
          | some d => on d
          | none => (.ended, d)
        | .keep => on { d with aside := d.line }
        | .keepMore => on { d with aside := d.aside ++ e.mark :: d.line }
        | .recall => on { d with line := d.aside }
        | .recallMore => on { d with line := d.line ++ e.mark :: d.aside }
        | .trade => on { d with line := d.aside, aside := d.line }
        | .clear => on { d with line := [] }
        | .number => on (d.writeText e (Text.Decimal.digits d.number ++ ['\n']))
        | .show width => on (d.writeText e (visibleLine (width.getD e.width) d.line))
        | .fileName => on (d.writeText e (e.fileName ++ ['\n']))
        | .quit status isSilent =>
          let d := if isSilent ∨ e.isSilent then d else d.writeLine e d.line d.isClosed
          (.quit status, if isSilent then { d with queued := [] } else d)
        | .jump label => jump label d
        | .jumpIf wanted label =>
          let isSo := d.isExchanged == wanted
          let d := { d with isExchanged := false }
          if isSo then jump label d else on d
        | .read path =>
          match e.contentOf path with
          | some text => on { d with queued := text :: d.queued }
          | none => on d
        | .readLine path =>
          let lines := (d.readings.lookup path).getD
            (linesIn e.mark ((e.contentOf path).getD []))
          let d := { d with
            readings := (path, lines.drop 1) :: d.readings.filter fun r => r.1 != path }
          match lines with
          | l :: _ => on { d with queued := (l.text ++ [e.mark]) :: d.queued }
          | [] => on d
        | .write path => on (d.writeTo e path d.line d.isClosed)
        | .writeLine path => on (d.writeTo e path (firstLine e.mark d.line).1 true)

/-- More steps than a line needs. -/
def stepFuel : Nat := 1 <<< 40

/-- Edit line after line: the number that this ends with, or what is wrong. -/
def editLines (e : Setting) : Nat → Bool → Desk → Except String (Option Nat) × Desk
  | 0, _, d => (.ok none, d)
  | fuel + 1, isFresh, d =>
    let d := d.flush e
    match if isFresh then d.advance e false else some d with
    | none => (.ok none, d)
    | some d =>
      let d := if isFresh then { d with isExchanged := false } else d
      match follow e stepFuel 0 d with
      | (.ended, d) =>
        let d := if e.isSilent then d else d.writeLine e d.line d.isClosed
        editLines e fuel true d
      | (.deleted, d) => editLines e fuel true d
      | (.again, d) => editLines e fuel false d
      | (.quit status, d) => (.ok (some status), d.flush e)
      | (.failed message, d) => (.error message, d)

/-- The paths that a script writes to. -/
def Script.targets (s : Script) : List Raw :=
  s.steps.toList.filterMap fun step => match step.deed with
    | .exchange x => x.target
    | .write path | .writeLine path => some path
    | _ => none

/-- The paths that a script reads. -/
def Script.sources (s : Script) : List Raw :=
  s.steps.toList.filterMap fun step => match step.deed with
    | .read path | .readLine path => some path
    | _ => none

end AgentPulse.Shell.Edit

namespace AgentPulse.Shell.Program

open Edit

/-- The options of the editor as they are read. The ending of a file that is kept stands right
behind the letter. -/
def editArguments (args : List Raw) : Option Raw × List Raw :=
  args.foldr (fun (arg : Raw) acc =>
    match arg with
    | '-' :: 'i' :: ending => (some ending, acc.2)
    | arg =>
      if arg = raw "--in-place" then (some [], acc.2)
      else if (raw "--in-place=").isPrefixOf arg then (some (arg.drop 11), acc.2)
      else if arg = raw "-ni" then (some [], ['-', 'n'] :: acc.2)
      else if arg = raw "-Ei" ∨ arg = raw "-ri" then (some [], ['-', 'E'] :: acc.2)
      else (acc.1, arg :: acc.2)) (none, [])

/-- Edit lines as a script says. -/
def sed (args : List Raw) : Act Nat := do
  let (kept, args) := editArguments args
  let names := [("quiet", 'n'), ("silent", 'n'), ("expression", 'e'), ("file", 'f'),
    ("regexp-extended", 'E'), ("separate", 's'), ("null-data", 'z'), ("line-length", 'l'),
    ("posix", 'p'), ("unbuffered", 'u')]
  working "sed" (Flags.of "ne:f:Erszl:u" names) args fun a => do
    let given := a.options.filter fun o => o.1 == 'e' || o.1 == 'f'
    if given.isEmpty && a.operands.isEmpty then
      failed ("Usage: sed [OPTION]... \x7bscript-only-if-no-other-script\x7d [input-file]...")
    else
      let parts ← given.mapM fun o => do
        if o.1 = 'e' then return o.2
        else match ← readNamed o.2 with
          | .ok text => return if text.getLast? = some '\n' then text.dropLast else text
          | .error _ => return []
      let parts := if given.isEmpty then a.operands.take 1 else parts
      let paths := if given.isEmpty then a.operands.drop 1 else a.operands
      let paths := if paths.isEmpty then [['-']] else paths
      let dialect : Regex.Dialect := { isExtended := a.has 'E' || a.has 'r' }
      match Script.read dialect parts with
      | .error message => failed ("sed: " ++ message)
      | .ok script =>
        let first := parts.headD []
        let isMarked := first == ['#', 'n'] || (raw "#n\n").isPrefixOf first
        let sources ← script.sources.filterMapM fun (path : Raw) => do
          let isInput := path == raw "/dev/stdin"
          match ← if isInput then Act.readAll 0 else Act.readPath path with
          | .ok text => return some (path, text)
          | .error _ => return none
        let setting : Edit.Setting := {
          script
          isSilent := a.has 'n' || isMarked
          mark := if a.has 'z' then '\x00' else '\n'
          width := ((a.value? 'l').map Text.Decimal.value).getD 70
          fileName := paths.headD ['-']
          contentOf := fun path => sources.lookup path }
        let reaches := Array.replicate script.steps.size Reach.outside
        let isApart := kept.isSome || a.has 's'
        let (texts, status) ← paths.foldlM (fun (texts, status) (path : Raw) => do
          if status = 4 then return (texts, status)
          if kept.isSome && (← isFolder path) then
            Act.say ("sed: couldn't edit " ++ path.shown ++ ": not a regular file")
            return (texts, 4)
          match ← if path = ['-'] && kept.isNone then Act.look 0 else Act.readPath path with
          | .ok text => return ((path, text) :: texts, status)
          | .error .aFolder =>
            Act.say ("sed: read error on " ++ path.shown ++ ": Is a directory")
            return (texts, 4)
          | .error f =>
            Act.say ("sed: can't read " ++ path.shown ++ ": " ++ f.words)
            return (texts, 2)) (([] : List (Raw × Raw)), 0)
        let texts := texts.reverse
        let jobs : List (Raw × List Line) :=
          if isApart then texts.map fun e => (e.1, linesIn setting.mark e.2)
          else [(paths.headD ['-'], texts.flatMap fun e => linesIn setting.mark e.2)]
        let fuel := stepFuel
        let step := fun (acc : List (Raw × Sheet) × Sheet × Option (Except String Nat))
            (job : Raw × List Line) => do
          let (files, output, ended) := acc
          if ended.isSome then return (files, output, ended)
          let e := { setting with fileName := job.1 }
          let desk : Desk := {
            ahead := job.2, reaches, files
            output := if kept.isSome then {} else output }
          let (r, d) := editLines e fuel true desk
          let ended : Option (Except String Nat) := match r with
            | .ok none => none
            | .ok (some n) => some (.ok n)
            | .error message => some (.error message)
          match kept with
          | some ending =>
            if !ending.isEmpty then
              let old := (texts.lookup job.1).getD []
              let name := if ending.contains '*' then
                  ending.flatMap fun c => if c = '*' then lastName job.1 else [c]
                else job.1 ++ ending
              let _ ← Act.writePath name old
            let _ ← Act.writePath job.1 d.output.text
            return (d.files, output, ended)
          | none => return (d.files, d.output, ended)
        let (files, output, ended) ← jobs.foldlM step ([], {}, none)
        if paths.contains ['-'] then
          match ← Act.look 0 with
          | .ok text => Act.skip 0 text.length ended.isNone
          | .error _ => pure ()
        Act.out output.text
        let targets := (script.targets.filter fun path => path != outputPath).eraseDups
        targets.forM fun (path : Raw) => do
          let text := ((files.lookup path).map Sheet.text).getD []
          if path = raw "/dev/stderr" then Act.write 2 text
          else
            match ← Act.writePath path text with
            | .ok () => pure ()
            | .error f => Act.say ("sed: couldn't open file " ++ path.shown ++ ": " ++ f.words)
        match ended with
        | some (.error message) => failed ("sed: -e expression #1, char 0: " ++ message)
        | some (.ok n) => return n
        | none => return status

end AgentPulse.Shell.Program
