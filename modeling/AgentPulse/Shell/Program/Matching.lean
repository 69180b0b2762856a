import AgentPulse.Shell.Program.Listing
import AgentPulse.Shell.Regex

/-!
# Programs that look for patterns

A program that shows the lines in which something is found, and one that finds the value of an
expression.
-/

namespace AgentPulse.Shell.Program

/-! ## Lines with matches -/

/-- What lines are looked for, and what is shown of them. -/
structure Hunt where
  patterns : List Regex
  isOpposite : Bool
  wholeWords : Bool
  wholeLines : Bool
  onlyMatches : Bool
  /-- Whether the path of the file, and the number of the line, are shown. -/
  showsPaths : Bool
  showsNumbers : Bool
  showsOffsets : Bool
  limit : Option Nat
  before : Nat
  after : Nat

namespace Hunt

/-- Whether a match is a word by itself. -/
def isWord (text : Array Char) (m : Regex.Match) : Bool :=
  let isFree (c : Option Char) : Bool := !c.any Regex.isWordChar
  (m.start = 0 || isFree text[m.start - 1]?) && isFree text[m.stop]?

/-- The matches of a pattern in a line that count. -/
def matchesOf (h : Hunt) (r : Regex) (text : Array Char) : List Regex.Match :=
  if h.wholeLines then
    match r.matchAt? text 0 with
    | some m => if m.stop = text.size then [m] else []
    | none => []
  else if h.wholeWords then (r.all text).filter (isWord text)
  else r.all text

/-- Whether a line is one of those that are looked for. -/
def accepts (h : Hunt) (line : Raw) : Bool :=
  let text := line.toArray
  let isFound := h.patterns.any fun r =>
    if h.wholeLines || h.wholeWords then !(h.matchesOf r text).isEmpty
    else (r.search? text).isSome
  isFound != h.isOpposite

/-- What is in front of a line. -/
def lead (h : Hunt) (path : Raw) (n offset : Nat) (mark : Char) : Raw :=
  (if h.showsPaths then path ++ [mark] else []) ++
  (if h.showsNumbers then Text.Decimal.digits n ++ [mark] else []) ++
  (if h.showsOffsets then Text.Decimal.digits offset ++ [mark] else [])

/-- The lines of a text with their numbers and where they start. -/
def numbered (text : Raw) : List (Raw × Nat × Nat) :=
  let step := fun (acc : List (Raw × Nat × Nat) × Nat × Nat) (l : Raw) =>
    ((l, acc.2.1, acc.2.2) :: acc.1, acc.2.1 + 1, acc.2.2 + l.length + 1)
  ((linesOf text).foldl step ([], 1, 0)).1.reverse

/-- The first lines that are looked for. -/
def found (h : Hunt) (lines : List (Raw × Nat × Nat)) : List (Raw × Nat × Nat) :=
  let all := lines.filter fun l => h.accepts l.1
  match h.limit with
  | some n => all.take n
  | none => all

/-- The rows that are shown for a file. -/
def rows (h : Hunt) (path : Raw) (lines hits : List (Raw × Nat × Nat)) : List Raw :=
  if h.onlyMatches then
    if h.isOpposite then []
    else hits.flatMap fun (l, n, offset) =>
      let text := l.toArray
      let all := h.patterns.flatMap fun r => h.matchesOf r text
      let all := (all.filter fun m => m.start < m.stop).mergeSort fun a b =>
        decide (a.start < b.start) || (a.start == b.start && decide (b.stop ≤ a.stop))
      let (kept, _) := all.foldl (fun (acc : List Regex.Match × Nat) m =>
        if acc.2 ≤ m.start then (m :: acc.1, m.stop) else acc) ([], 0)
      kept.reverse.map fun m => h.lead path n (offset + m.start) ':' ++ m.text text
  else if h.before = 0 ∧ h.after = 0 then
    hits.map fun (l, n, offset) => h.lead path n offset ':' ++ l
  else
    let marks := hits.map fun e => e.2.1
    let last := (marks.getLast?.getD 0) + h.after
    let near (n : Nat) : Bool := marks.any fun m => m ≤ n + h.before && n ≤ m + h.after
    let shown := lines.filter fun e => e.2.1 ≤ last && near e.2.1
    let step := fun (acc : List Raw × Nat) (e : Raw × Nat × Nat) =>
      let (l, n, offset) := e
      let gap : List Raw := if acc.2 ≠ 0 ∧ acc.2 + 1 < n then [['-', '-']] else []
      let mark : Char := if marks.contains n then ':' else '-'
      ((h.lead path n offset mark ++ l) :: gap ++ acc.1, n)
    (shown.foldl step ([], 0)).1.reverse

end Hunt

/-- The paths of all files in a folder. -/
def filesBelow (s : State) (path : Raw) (place : Files.Place) : Nat → List Raw
  | 0 => []
  | fuel + 1 =>
    let inner := (s.tree.children place).mergeSort fun a b => (Raw.ofBytes a.1).le (Raw.ofBytes b.1)
    inner.flatMap fun e =>
      let name := Raw.ofBytes e.1
      let path := if path.isEmpty then name else below path name
      match e.2 with
      | .folder _ => filesBelow s path (place ++ [e.1]) fuel
      | .file _ => [path]
      | .link _ => []

/-- How patterns are spelled. -/
inductive Spelling where
  | basic
  | extended
  | fixed
  deriving DecidableEq, Repr

/-- Show the lines in which a pattern is found. -/
def grep (usual : Spelling) (name : String) (args : List Raw) : Act Nat :=
  let names := [("ignore-case", 'i'), ("invert-match", 'v'), ("count", 'c'), ("line-number", 'n'),
    ("quiet", 'q'), ("silent", 'q'), ("only-matching", 'o'), ("word-regexp", 'w'),
    ("line-regexp", 'x'), ("extended-regexp", 'E'), ("fixed-strings", 'F'), ("recursive", 'r'),
    ("files-with-matches", 'l'), ("files-without-match", 'L'), ("max-count", 'm'),
    ("no-filename", 'h'), ("with-filename", 'H'), ("no-messages", 's'), ("regexp", 'e'),
    ("file", 'f'), ("after-context", 'A'), ("before-context", 'B'), ("context", 'C'),
    ("basic-regexp", 'G'), ("perl-regexp", 'P'), ("text", 'a'), ("byte-offset", 'b'),
    ("include", 'I')]
  let flags := Flags.of "aA:bB:cC:e:Ef:FGhHiI:lLm:noPqrRsvwxyz" names
  let args := args.filter fun arg => !(raw "--color").isPrefixOf arg
  workingOr 2 name flags args fun a => do
    let given := a.options.filter fun o => o.1 == 'e' || o.1 == 'f'
    let usage := "Usage: " ++ name ++ " [OPTION]... PATTERNS [FILE]...\nTry '" ++ name ++
      " --help' for more information."
    if given.isEmpty && a.operands.isEmpty then failed usage 2
    else
      let words ← given.mapM fun o => do
        if o.1 = 'e' then return partsOf '\n' o.2
        else match ← readNamed o.2 with
          | .ok text => return linesOf text
          | .error _ => return []
      let words := if given.isEmpty then partsOf '\n' (a.operands.headD []) else words.flatten
      let paths := if given.isEmpty then a.operands.drop 1 else a.operands
      let spelling := match a.last? ['E', 'F', 'G', 'P'] with
        | some 'F' => Spelling.fixed
        | some 'G' => .basic
        | some _ => .extended
        | none => usual
      let dialect : Regex.Dialect :=
        { isExtended := spelling == .extended, foldsCase := a.has 'i' || a.has 'y' }
      let read (w : Raw) : Except String Regex :=
        if spelling = .fixed then .ok (Regex.ofText dialect w) else Regex.read dialect w
      match words.mapM read with
      | .error message => failed (name ++ ": " ++ message) 2
      | .ok patterns =>
        let number (c : Char) : Option Nat := (a.value? c).map Text.Decimal.value
        let isDeep := a.has 'r' || a.has 'R'
        let s ← get
        let around := number 'C'
        let paths := if paths.isEmpty && isDeep then [[]] else paths
        let isMany := 1 < paths.length || isDeep
        let h : Hunt := {
          patterns
          isOpposite := a.has 'v'
          wholeWords := a.has 'w'
          wholeLines := a.has 'x'
          onlyMatches := a.has 'o'
          showsPaths := (isMany || a.has 'H') && a.last? ['h', 'H'] != some 'h'
          showsNumbers := a.has 'n'
          showsOffsets := a.has 'b'
          limit := number 'm'
          before := ((number 'B').or around).getD 0
          after := ((number 'A').or around).getD 0 }
        let fuel := s.tree.entries.length + 2
        let isWanted (path : Raw) : Bool := match a.value? 'I' with
          | some p => Pattern.standsFor (p.map fun c => ⟨c, false⟩) (lastName path)
          | none => true
        let all := (if paths.isEmpty then [['-']] else paths).flatMap fun (path : Raw) =>
          let folder : Raw := if path.isEmpty then ['.'] else path
          if !isDeep then [path]
          else match Files.folderAt s.tree s.folder folder.toBytes with
            | .ok place => (filesBelow s path place fuel).filter isWanted
            | .error _ => [path]
        let isQuiet := a.has 'q'
        let (isFine, hasHit, _) ← all.foldlM (fun (isFine, hasHit, hadRows) (path : Raw) => do
          if isQuiet && hasHit then return (isFine, hasHit, hadRows)
          -- Where only one match is wanted, nothing is read behind it.
          let read ← if path = ['-'] then Act.look 0 else readNamed path
          match read with
          | .error f =>
            if !a.has 's' then Act.say (name ++ ": " ++ path.shown ++ ": " ++ f.words)
            return (false, hasHit, hadRows)
          | .ok text =>
            let lines := Hunt.numbered text
            let hits := if isQuiet || a.has 'l' then (lines.find? fun l => h.accepts l.1).toList
              else h.found lines
            if path = ['-'] then
              let isEnough := (isQuiet && !hits.isEmpty) || h.limit = some hits.length
              Act.skip 0 text.length (!isEnough)
            let shownPath := if path = ['-'] then raw "(standard input)" else path
            let isHit := !hits.isEmpty
            if isQuiet then return (isFine, hasHit || isHit, hadRows)
            else if a.has 'l' then
              if isHit then Act.outLine shownPath
              return (isFine, hasHit || isHit, hadRows)
            else if a.has 'L' then
              if !isHit then Act.outLine shownPath
              return (isFine, hasHit || !isHit, hadRows)
            else if a.has 'c' then
              let lead := if h.showsPaths then shownPath ++ [':'] else []
              Act.outLine (lead ++ Text.Decimal.digits hits.length)
              return (isFine, hasHit || isHit, hadRows)
            else
              let rows := h.rows shownPath lines hits
              let isParted := hadRows && !rows.isEmpty && (h.before ≠ 0 || h.after ≠ 0)
              if isParted then Act.outLine ['-', '-']
              Act.out (unlines rows)
              return (isFine, hasHit || isHit, hadRows || !rows.isEmpty)) (true, false, false)
        return if isQuiet && hasHit then 0
          else if !isFine then 2 else if hasHit then 0 else 1

/-! ## Values of expressions -/

/-- Why an expression has no value. -/
inductive NoValue where
  | missingOperand
  | missingBehind (word : Raw)
  | unexpected (word : Raw)
  | notInteger
  | divisionByZero
  | unclosed (word : Raw)
  | badPattern (message : String)

/-- What is said where an expression has no value. -/
def NoValue.message : NoValue → String
  | .missingOperand => "missing operand\n" ++ tryHelp "expr"
  | .missingBehind word => "syntax error: missing argument after " ++ quoted word
  | .unexpected word => "syntax error: unexpected argument " ++ quoted word
  | .notInteger => "non-integer argument"
  | .divisionByZero => "division by zero"
  | .unclosed word => "syntax error: expecting ')' after " ++ quoted word
  | .badPattern message => message

/-- The words that are left, and the last one that was used. -/
structure Words where
  rest : List Raw
  last : Raw := []

/-- A value and what is left. -/
abbrev Valued := Except NoValue (Raw × Words)

/-- The integer that a word is. -/
def wholeNumber? (cs : Raw) : Option Int :=
  match cs with
  | '-' :: ds =>
    if !ds.isEmpty && ds.all Char.isDigit then some (-(Text.Decimal.value ds : Int)) else none
  | ds => if !ds.isEmpty && ds.all Char.isDigit then some (Text.Decimal.value ds) else none

/-- Whether a value counts as none. -/
def isVoid (v : Raw) : Bool :=
  v.isEmpty || (v.any (· == '0') && v.all (fun c => c == '0' || c == '-'))

/-- The value of a text against a pattern for its start: the first group, or how much of the text
was matched. -/
def matchValue (text pattern : Raw) : Except NoValue Raw :=
  match Regex.read {} pattern with
  | .error message => .error (.badPattern message)
  | .ok r =>
    let chars := text.toArray
    let hasGroup := (pattern.zip (pattern.drop 1)).any fun e => e.1 == '\\' && e.2 == '('
    match r.matchAt? chars 0 with
    | some m => .ok (if hasGroup then m.group chars 1 else Text.Decimal.digits m.stop)
    | none => .ok (if hasGroup then [] else ['0'])

/-- The operators by how tightly they bind, the loosest first. -/
def valueLevels : List (List String) :=
  [["|"], ["&"], ["<", "<=", "=", "==", "!=", ">=", ">"], ["+", "-"], ["*", "/", "%"], [":"]]

/-- The value of an operation. -/
def operate (op : String) (a b : Raw) : Except NoValue Raw :=
  let truth (t : Bool) : Raw := if t then ['1'] else ['0']
  let counted (f : Int → Int → Except NoValue Int) : Except NoValue Raw :=
    match wholeNumber? a, wholeNumber? b with
    | some n, some m => do return raw (Text.Decimal.ofInt (← f n m))
    | _, _ => .error .notInteger
  let ordered (f : Ordering → Bool) : Except NoValue Raw :=
    match wholeNumber? a, wholeNumber? b with
    | some n, some m => .ok (truth (f (compare n m)))
    | _, _ => .ok (truth (f (if a == b then .eq else if a.le b then .lt else .gt)))
  match op with
  | "|" => .ok (if !isVoid a then a else if !isVoid b then b else ['0'])
  | "&" => .ok (if isVoid a || isVoid b then ['0'] else a)
  | "<" => ordered (· == .lt)
  | "<=" => ordered (· != .gt)
  | "=" | "==" => ordered (· == .eq)
  | "!=" => ordered (· != .eq)
  | ">=" => ordered (· != .lt)
  | ">" => ordered (· == .gt)
  | "+" => counted fun n m => .ok (n + m)
  | "-" => counted fun n m => .ok (n - m)
  | "*" => counted fun n m => .ok (n * m)
  | "/" => counted fun n m => if m = 0 then .error .divisionByZero else .ok (Int.tdiv n m)
  | "%" => counted fun n m => if m = 0 then .error .divisionByZero else .ok (Int.tmod n m)
  | _ => matchValue a b

mutual
/-- The value of the operators of some levels. -/
def readValue (levels : List (List String)) (w : Words) : Nat → Valued
  | 0 => .error .missingOperand
  | fuel + 1 => do
    match levels with
    | [] => readOperand w fuel
    | ops :: tighter =>
      let (a, w) ← readValue tighter w fuel
      readFurther ops tighter a w fuel

/-- What the operators of one level join to a value. -/
def readFurther (ops : List String) (tighter : List (List String)) (a : Raw) (w : Words) :
    Nat → Valued
  | 0 => .error .missingOperand
  | fuel + 1 => do
    match w.rest with
    | op :: rest =>
      if ops.contains (String.ofList op) then
        let (b, w) ← readValue tighter { rest, last := op } fuel
        let v ← operate (String.ofList op) a b
        readFurther ops tighter v w fuel
      else return (a, w)
    | [] => return (a, w)

/-- A word, a function of words, or an expression in parentheses. -/
def readOperand (w : Words) : Nat → Valued
  | 0 => .error .missingOperand
  | fuel + 1 => do
    match w.rest with
    | [] => .error (if w.last.isEmpty then .missingOperand else .missingBehind w.last)
    | word :: rest =>
      let w : Words := { rest, last := word }
      match String.ofList word with
      | "(" =>
        let (v, w) ← readValue valueLevels w fuel
        match w.rest with
        | [')'] :: rest => return (v, { rest, last := [')'] })
        | [] => .error (.unclosed w.last)
        | other :: _ => .error (.unexpected other)
      | ")" => .error (.unexpected word)
      | "+" =>
        match rest with
        | text :: rest => return (text, { rest, last := text })
        | [] => .error (.missingBehind word)
      | "length" =>
        let (v, w) ← readOperand w fuel
        return (Text.Decimal.digits v.length, w)
      | "match" =>
        let (a, w) ← readOperand w fuel
        let (b, w) ← readOperand w fuel
        let v ← matchValue a b
        return (v, w)
      | "index" =>
        let (a, w) ← readOperand w fuel
        let (b, w) ← readOperand w fuel
        let n := (a.findIdx? b.contains).map (· + 1)
        return (Text.Decimal.digits (n.getD 0), w)
      | "substr" =>
        let (a, w) ← readOperand w fuel
        let (b, w) ← readOperand w fuel
        let (c, w) ← readOperand w fuel
        match wholeNumber? b, wholeNumber? c with
        | some n, some m =>
          return (if n ≤ 0 ∨ m ≤ 0 then [] else (a.drop (n.toNat - 1)).take m.toNat, w)
        | _, _ => return ([], w)
      | _ => return (word, w)
end

/-- Find the value of an expression. -/
def expr (args : List Raw) : Act Nat := do
  let args := if args.head? = some ['-', '-'] then args.drop 1 else args
  let value : Except NoValue Raw := do
    let (v, w) ← readValue valueLevels { rest := args } (16 * args.length + 16)
    match w.rest with
    | [] => return v
    | word :: _ => .error (.unexpected word)
  match value with
  | .error e => failed ("expr: " ++ e.message) 2
  | .ok v =>
    Act.outLine v
    return if isVoid v then 1 else 0

end AgentPulse.Shell.Program
