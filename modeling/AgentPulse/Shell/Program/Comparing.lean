import AgentPulse.Shell.Program.Folders

/-!
# Differences

The lines that two texts have in common are a longest sequence of lines that is in both. All others
make up changes: lines that are taken away, and lines that come in their place.
-/

namespace AgentPulse.Shell.Program

/-! ## Changes -/

/-- A change: where it starts in both texts, and how many lines it takes away and brings. -/
structure Change where
  start : Nat
  removed : Nat
  newStart : Nat
  added : Nat
  deriving Repr, Inhabited

/-- One line more on top of a table of how long the longest common sequence is from each pair of
places on: the row for a line, from the last column back. -/
def commonRow (same : Nat → Bool) (below : Array Nat) (columns : Nat) : Array Nat :=
  (List.range columns).foldr (fun j (row : Array Nat) =>
    let n := if same j then below.getD (j + 1) 0 + 1 else max (below.getD j 0) (row.getD (j + 1) 0)
    row.set! j n) (Array.replicate (columns + 1) 0)

/-- How long the longest common sequence is from each pair of places on. -/
def commonTable (a b : Array Raw) : Array (Array Nat) :=
  (List.range a.size).foldr (fun i (table : Array (Array Nat)) =>
    let below := table.getD (i + 1) #[]
    let row := commonRow (fun j => a[i]? == b[j]?) below b.size
    table.set! i row) (Array.replicate (a.size + 1) (Array.replicate (b.size + 1) 0))

/-- The changes from a pair of places on. `here` is the change that has been found so far, if the
lines just before belong to one. -/
def changesFrom (a b : Array Raw) (table : Array (Array Nat)) :
    Nat → Nat → Nat → Option Change → List Change
  | 0, _, _, here => here.toList
  | fuel + 1, i, j, here =>
    let c := here.getD ⟨i, 0, j, 0⟩
    let removing (_ : Unit) : List Change :=
      changesFrom a b table fuel (i + 1) j (some { c with removed := c.removed + 1 })
    let adding (_ : Unit) : List Change :=
      changesFrom a b table fuel i (j + 1) (some { c with added := c.added + 1 })
    if i < a.size then
      if j < b.size then
        if a[i]? == b[j]? then here.toList ++ changesFrom a b table fuel (i + 1) (j + 1) none
        else if (table.getD i #[]).getD (j + 1) 0 ≤ (table.getD (i + 1) #[]).getD j 0 then
          removing ()
        else adding ()
      else removing ()
    else if j < b.size then adding ()
    else here.toList

/-- How many lines two texts have in common at their starts. -/
def commonStart : List Raw → List Raw → Nat
  | x :: xs, y :: ys => if x == y then commonStart xs ys + 1 else 0
  | _, _ => 0

/-- The changes from one text to another. Lines in common at the start and at the end are set aside
first. -/
def changes (a b : Array Raw) : List Change :=
  let front := commonStart a.toList b.toList
  let (a, b) := (a.extract front a.size, b.extract front b.size)
  let back := commonStart a.toList.reverse b.toList.reverse
  let (a, b) := (a.extract 0 (a.size - back), b.extract 0 (b.size - back))
  (changesFrom a b (commonTable a b) (a.size + b.size + 1) 0 0 none).map fun c =>
    { c with start := c.start + front, newStart := c.newStart + front }

/-! ## Showing -/

/-- What is left out of account when lines are compared. -/
structure Leniency where
  foldsCase : Bool := false
  /-- Whether all blanks are left out, or how many there are. -/
  skipsBlanks : Bool := false
  joinsBlanks : Bool := false

/-- A line as it is compared. -/
def Leniency.key (l : Leniency) (line : Raw) : Raw :=
  let isBlank (c : Char) : Bool := c == ' ' || ('\t' ≤ c && c ≤ '\r')
  let line := if l.foldsCase then line.map Char.toLower else line
  if l.skipsBlanks then line.filter fun c => !isBlank c
  else if l.joinsBlanks then
    let words := line.splitBy fun a b => isBlank a == isBlank b
    let words := words.map fun w => if w.head?.any isBlank then [' '] else w
    (if words.getLast? = some [' '] then words.dropLast else words).flatten
  else line

/-- A text with its lines, and whether a break is missing at the end. -/
structure Sample where
  lines : Array Raw
  isOpen : Bool

/-- A text as it is compared. -/
def Sample.ofText (text : Raw) : Sample :=
  { lines := (linesOf text).toArray, isOpen := text.getLast?.any (· != '\n') }

/-- The lines as they are compared: a last one without a break is not the same as one with it. -/
def Sample.keys (s : Sample) (l : Leniency) : Array Raw :=
  let keys := s.lines.map l.key
  if s.isOpen then keys.modify (keys.size - 1) fun k => k ++ ['\n'] else keys

/-- A line with a mark in front. -/
def Sample.row (s : Sample) (mark : Raw) (i : Nat) : Raw :=
  let row := mark ++ s.lines.getD i [] ++ ['\n']
  if s.isOpen && i + 1 = s.lines.size then row ++ raw "\\ No newline at end of file\n" else row

/-- Some lines with a mark in front of each. -/
def Sample.rows (s : Sample) (mark : Raw) (start count : Nat) : Raw :=
  (List.range count).flatMap fun i => s.row mark (start + i)

/-- The numbers of lines. -/
def lineRange (start count : Nat) : Raw :=
  let digits (n : Nat) : Raw := Text.Decimal.digits n
  if count = 0 then digits start
  else if count = 1 then digits (start + 1)
  else digits (start + 1) ++ ',' :: digits (start + count)

/-- A change by its numbers, with the lines taken away and the lines that come. -/
def plainChange (a b : Sample) (c : Change) : Raw :=
  let letter : Char := if c.removed = 0 then 'a' else if c.added = 0 then 'd' else 'c'
  let isChange := letter = 'c'
  lineRange c.start c.removed ++ letter :: lineRange c.newStart c.added ++ ['\n'] ++
    a.rows ['<', ' '] c.start c.removed ++ (if isChange then raw "---\n" else []) ++
    b.rows ['>', ' '] c.newStart c.added

/-- Changes that are near one another, put together. -/
def gathered (context : Nat) (cs : List Change) : List (List Change) :=
  (cs.foldl (fun (groups : List (List Change)) c =>
    match groups with
    | (last :: more) :: rest =>
      if c.start ≤ last.start + last.removed + 2 * context then (c :: last :: more) :: rest
      else [c] :: (last :: more) :: rest
    | groups => [c] :: groups) []).reverse.map List.reverse

/-- The numbers of lines as they stand above a group of changes. -/
def groupRange (start count : Nat) : Raw :=
  let digits (n : Nat) : Raw := Text.Decimal.digits n
  if count = 1 then digits (start + 1)
  else digits (if count = 0 then start else start + 1) ++ ',' :: digits count

/-- Changes that are near one another, with lines around them. -/
def groupText (a b : Sample) (context : Nat) (cs : List Change) : Raw :=
  let first := cs.headD default
  let last := cs.getLastD default
  let low := first.start - context
  let newLow := first.newStart - (first.start - low)
  let high := min (last.start + last.removed + context) a.lines.size
  let newHigh := last.newStart + last.added + (high - (last.start + last.removed))
  let title := raw "@@ -" ++ groupRange low (high - low) ++ raw " +" ++
    groupRange newLow (newHigh - newLow) ++ raw " @@\n"
  let (text, i) := cs.foldl (fun (acc : Raw × Nat) c =>
    (acc.1 ++ a.rows [' '] acc.2 (c.start - acc.2) ++ a.rows ['-'] c.start c.removed ++
      b.rows ['+'] c.newStart c.added, c.start + c.removed)) ([], low)
  title ++ text ++ a.rows [' '] i (high - i)

/-! ## The program -/

/-- A file that is compared: its path, when it was changed, and its text. -/
structure Compared where
  path : Raw
  title : Raw
  text : Raw

/-- Show the differences of two files: whether there are any. -/
def showDifferences (a : Arguments) (x y : Compared) : Act Bool := do
  let l : Leniency := {
    foldsCase := a.has 'i', skipsBlanks := a.has 'w', joinsBlanks := a.has 'b' || a.has 'Z' }
  let s := Sample.ofText x.text
  let t := Sample.ofText y.text
  let context := ((a.value? 'U').map Text.Decimal.value).getD 3
  let isBinary := (x.text.contains '\x00' || y.text.contains '\x00') && !a.has 'a'
  if isBinary then
    if x.text == y.text then return false
    else
      Act.outLine (raw ("Binary files " ++ x.path.shown ++ " and " ++ y.path.shown ++ " differ"))
      return true
  else
    let cs := changes (s.keys l) (t.keys l)
    let isVoid (sample : Sample) (start count : Nat) : Bool :=
      (List.range count).all fun i => (sample.lines.getD (start + i) []).isEmpty
    let counts := cs.filter fun c =>
      !(a.has 'B' && isVoid s c.start c.removed && isVoid t c.newStart c.added)
    if counts.isEmpty then
      if a.has 's' then
        Act.outLine (raw ("Files " ++ x.path.shown ++ " and " ++ y.path.shown ++ " are identical"))
      return false
    else
      if a.has 'q' then
        Act.outLine (raw ("Files " ++ x.path.shown ++ " and " ++ y.path.shown ++ " differ"))
      else if a.has 'u' || a.has 'U' then
        Act.out (raw "--- " ++ x.title ++ raw "\n+++ " ++ y.title ++ ['\n'])
        (gathered context cs).forM fun (g : List Change) => Act.out (groupText s t context g)
      else counts.forM fun (c : Change) => Act.out (plainChange s t c)
      return true

/-- The title of a file above its differences. -/
def titleOf (s : State) (path : Raw) : Raw :=
  let time : Nat := match Files.fileAt s.tree s.folder path.toBytes with
    | .ok id => (s.tree.file id).time
    | .error _ => s.tree.now
  path ++ '\t' :: (Text.Moment.ofSeconds (time / 1000)).formatted (raw "%F %T.%N %z")
    (time % 1000 * 1000000)

/-- Whether two files, or two folders, are found to be different, or could not be read. -/
structure Verdict where
  isDifferent : Bool := false
  isUnread : Bool := false

/-- Both of two verdicts. -/
def Verdict.and (v w : Verdict) : Verdict :=
  ⟨v.isDifferent || w.isDifferent, v.isUnread || w.isUnread⟩

/-- Compare two files. -/
def compareFiles (a : Arguments) (labels : List Raw) (x y : Raw) : Act Verdict := do
  let read (path : Raw) : Act (Option Raw) := do
    match ← readNamed path with
    | .ok text => return some text
    | .error f =>
      if f matches .missing && a.has 'N' then return some []
      else
        Act.say ("diff: " ++ path.shown ++ ": " ++ f.words)
        return none
  let s ← get
  let before ← read x
  let after ← read y
  match before, after with
  | some before, some after =>
    let isDifferent ← showDifferences a
      ⟨x, labels.headD (titleOf s x), before⟩ ⟨y, (labels[1]?).getD (titleOf s y), after⟩
    return { isDifferent }
  | _, _ => return { isUnread := true }

/-- Compare two folders. -/
def compareFolders (a : Arguments) (words : List Raw) (x y : Raw) : Nat → Act Verdict
  | 0 => return {}
  | fuel + 1 => do
    let s ← get
    let inner (path : Raw) : List Raw :=
      match Files.folderAt s.tree s.folder path.toBytes with
      | .ok p => (s.tree.children p).map fun e => Raw.ofBytes e.1
      | .error _ => []
    let names := ((inner x ++ inner y).eraseDups).mergeSort Raw.le
    names.foldlM (fun (v : Verdict) (name : Raw) => do
      let (p, q) := (below x name, below y name)
      let only (folder : Raw) : Act Verdict := do
        Act.outLine (raw ("Only in " ++ folder.shown ++ ": " ++ name.shown))
        return { v with isDifferent := true }
      match (inner x).contains name, (inner y).contains name with
      | true, false => if a.has 'N' then return v.and (← compareFiles a [] p q) else only x
      | false, true => if a.has 'N' then return v.and (← compareFiles a [] p q) else only y
      | _, _ =>
        match ← isFolder p, ← isFolder q with
        | true, true =>
          if a.has 'r' then return v.and (← compareFolders a words p q fuel)
          else
            Act.outLine (raw ("Common subdirectories: " ++ p.shown ++ " and " ++ q.shown))
            return v
        | false, false =>
          let before := (← get).toInterpreter
          let here ← Act.newChannel (.pipe {})
          modify fun s => s.connect 1 here
          let w ← compareFiles a [] p q
          modify fun s => { s with toInterpreter := before }
          let text := (← get).pipeContent here
          if w.isDifferent && !a.has 'q' && !text.isEmpty then
            Act.outLine (List.intercalate [' '] (raw "diff" :: words ++ [p, q]))
          Act.out text
          return v.and w
        | isFirst, _ =>
          let kind (b : Bool) : String := if b then "directory" else "regular file"
          Act.outLine (raw ("File " ++ p.shown ++ " is a " ++ kind isFirst ++ " while file " ++
            q.shown ++ " is a " ++ kind (!isFirst)))
          return { v with isDifferent := true }) {}

/-- Show the differences of files. -/
def diff (args : List Raw) : Act Nat :=
  let names := [("brief", 'q'), ("report-identical-files", 's'), ("unified", 'u'),
    ("ignore-case", 'i'), ("ignore-all-space", 'w'), ("ignore-space-change", 'b'),
    ("ignore-blank-lines", 'B'), ("recursive", 'r'), ("new-file", 'N'), ("text", 'a'),
    ("label", 'L'), ("ignore-trailing-space", 'Z'), ("normal", 'n')]
  workingOr 2 "diff" (Flags.of "qsuU:iwbBrNaL:Z" names) args fun a => do
    match a.operands with
    | [] | [_] => misused "diff" ("missing operand after " ++
        quoted (a.operands.headD (raw "diff"))) 2
    | _ :: _ :: extra :: _ => misused "diff" ("extra operand " ++ quoted extra) 2
    | [x, y] =>
      let labels := (a.options.filter fun o => o.1 == 'L').map (·.2)
      let fuel := (← get).tree.entries.length + 2
      let words := args.filter fun w => w.head? == some '-' && 1 < w.length
      let v ← match ← isFolder x, ← isFolder y with
        | true, true => compareFolders a words x y fuel
        | true, false => compareFiles a labels (below x (lastName y)) y
        | false, true => compareFiles a labels x (below y (lastName x))
        | false, false => compareFiles a labels x y
      return if v.isUnread then 2 else if v.isDifferent then 1 else 0

end AgentPulse.Shell.Program
