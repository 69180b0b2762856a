import AgentPulse.Shell.Number
import AgentPulse.Shell.Program.Basic

/-!
# Programs that show content

Programs that write out files as they are, or a part of them, or what they consist of in numbers.
-/

namespace AgentPulse.Shell.Program

/-! ## Numbers in options -/

/-- The factors that a letter behind a number stands for. -/
def factorOf? (suffix : Raw) : Option Nat :=
  match String.ofList suffix with
  | "" => some 1
  | "b" => some 512
  | "K" | "k" | "KiB" => some 1024
  | "kB" | "KB" => some 1000
  | "M" | "m" | "MiB" => some 1048576
  | "MB" => some 1000000
  | "G" | "GiB" => some 1073741824
  | "GB" => some 1000000000
  | _ => none

/-- A number with a letter behind it. -/
def sized? (cs : Raw) : Option Nat := do
  let ds := cs.takeWhile Char.isDigit
  if ds.isEmpty then none
  let factor ← factorOf? (cs.drop ds.length)
  return Text.Decimal.value ds * factor

/-- How much of a text is wanted: from its start or its end, or all but that. -/
structure Amount where
  /-- The sign in front of the number. -/
  sign : Option Char
  count : Nat
  isBytes : Bool
  deriving Repr, Inhabited

/-- Read an amount. -/
def amount? (isBytes : Bool) (cs : Raw) : Option Amount :=
  match cs with
  | '-' :: rest => (sized? rest).map (⟨some '-', ·, isBytes⟩)
  | '+' :: rest => (sized? rest).map (⟨some '+', ·, isBytes⟩)
  | cs => (sized? cs).map (⟨none, ·, isBytes⟩)

/-- An amount that is given as an option by itself, as in `-5`, becomes one of the usual form. -/
def modernized (args : List Raw) : List Raw :=
  match args with
  | ('-' :: d :: cs) :: rest =>
    if d.isDigit then
      let ds := (d :: cs).takeWhile Char.isDigit
      let letters := (d :: cs).drop ds.length
      let unit : Raw := if letters.contains 'c' then raw "-c" else raw "-n"
      (unit ++ ds) :: rest
    else args
  | args => args

/-! ## Starts and ends -/

/-- The first characters of a text up to and with so many line breaks, in reverse, and how many were
missing. -/
def takeLines (before : Raw) : Nat → Raw → Raw × Nat
  | 0, _ => (before, 0)
  | n + 1, [] => (before, n + 1)
  | n + 1, '\n' :: rest => takeLines ('\n' :: before) n rest
  | n + 1, c :: rest => takeLines (c :: before) (n + 1) rest

/-- How many lines there are in a text, the last one without a break among them. -/
def countLines (text : Raw) : Nat :=
  let breaks := text.count '\n'
  if text.getLast?.any (· != '\n') then breaks + 1 else breaks

/-- What is at the start of a text, and whether there could have been more of it. -/
def startOf (m : Amount) (text : Raw) : Raw × Bool :=
  match m.sign, m.isBytes with
  | some '-', true => (text.take (text.length - m.count), true)
  | some '-', false => ((takeLines [] (countLines text - m.count) text).1.reverse, true)
  | _, true => (text.take m.count, text.length < m.count)
  | _, false =>
    let (start, missing) := takeLines [] m.count text
    (start.reverse, 0 < missing)

/-- What is at the end of a text. -/
def endOf (m : Amount) (text : Raw) : Raw :=
  match m.sign, m.isBytes with
  | some '+', true => text.drop (m.count - 1)
  | some '+', false => text.drop (takeLines [] (m.count - 1) text).1.length
  | _, true => text.drop (text.length - m.count)
  | _, false => text.drop (takeLines [] (countLines text - m.count) text).1.length

/-- Text is read off pipes in blocks of this size. -/
def blockSize : Nat := 8192

/-- Read some text off the input that only the start of is needed for. A pipe is read in blocks. -/
def readStart (m : Amount) : Act (Except Files.Fault Raw) := do
  match ← Act.look 0 with
  | .error f => return .error f
  | .ok text =>
    let (start, wantsMore) := startOf m text
    let isPipe := match (← get).channel? 0 with
      | some (.pipe _) => true
      | _ => false
    let used := if isPipe then (start.length + blockSize - 1) / blockSize * blockSize
      else start.length
    Act.skip 0 (min used text.length) wantsMore
    return .ok start

/-- Show a part of each of some files, under titles where there are several. -/
def showParts (program : String) (a : Arguments) (part : Raw → Act (Except Files.Fault Raw)) :
    Act Nat := do
  let paths := if a.operands.isEmpty then [['-']] else a.operands
  let isTitled := (1 < paths.length && !a.has 'q') || a.has 'v'
  let (isFine, _) ← paths.foldlM (fun (isFine, isFirst) (path : Raw) => do
    let title : Act Unit := do
      if isTitled then
        let name := if path = ['-'] then raw "standard input" else path
        let gap : Raw := if isFirst then [] else ['\n']
        Act.out (gap ++ raw "==> " ++ name ++ raw " <==\n")
    match ← part path with
    | .ok text =>
      title
      Act.out text
      return (isFine, false)
    | .error .aFolder =>
      title
      Act.say (program ++ ": error reading " ++ quoted path ++ ": Is a directory")
      return (false, false)
    | .error f =>
      Act.say (program ++ ": cannot open " ++ quoted path ++ " for reading: " ++ f.words)
      return (false, isFirst)) (true, true)
  return code isFine

/-- The amount that options ask for. -/
def amountFor (program : String) (a : Arguments) : Except String Amount :=
  let unit := a.last? ['n', 'c']
  match unit.bind a.value?, unit with
  | some text, some unit =>
    match amount? (unit == 'c') text with
    | some m => .ok m
    | none =>
      .error (program ++ ": invalid number of " ++ (if unit = 'c' then "bytes" else "lines") ++
        ": " ++ quoted text)
  | _, _ => .ok ⟨none, 10, false⟩

/-- Show the start of files. -/
def head (args : List Raw) : Act Nat :=
  let flags := Flags.of "c:n:qvz"
    [("bytes", 'c'), ("lines", 'n'), ("quiet", 'q'), ("silent", 'q'), ("verbose", 'v')]
  working "head" flags (modernized args) fun a => do
    match amountFor "head" a with
    | .error message => failed message
    | .ok m =>
      let m := if m.sign = some '+' then { m with sign := none } else m
      showParts "head" a fun path => do
        if path = ['-'] then readStart m
        else match ← Act.readPath path with
          | .ok text => return .ok (startOf m text).1
          | .error f => return .error f

/-- Show the end of files. -/
def tail (args : List Raw) : Act Nat :=
  let flags := Flags.of "c:n:fFqvz"
    [("bytes", 'c'), ("lines", 'n'), ("quiet", 'q'), ("silent", 'q'), ("verbose", 'v')]
  let args := match args with
    | ('+' :: cs) :: rest => (raw "-n+" ++ cs) :: rest
    | args => modernized args
  working "tail" flags args fun a => do
    match amountFor "tail" a with
    | .error message => failed message
    | .ok m =>
      showParts "tail" a fun path => do
        match ← readNamed path with
        | .ok text => return .ok (endOf m text)
        | .error f => return .error f

/-! ## All of it -/

/-- What `cat` is asked to show beside the text. -/
structure CatStyle where
  numbersAll : Bool
  numbersFilled : Bool
  squeezes : Bool
  showsEnds : Bool
  showsTabs : Bool
  showsOthers : Bool

/-- A number in front of a line. -/
def lineNumber (width n : Nat) : Raw :=
  let ds := Text.Decimal.digits n
  List.replicate (width - ds.length) ' ' ++ ds

/-- A character as it is shown where all characters are to be seen. -/
def shownChar (s : CatStyle) (c : Char) : Raw :=
  let plain (n : Nat) : Raw :=
    if n = 127 then ['^', '?']
    else if n < 32 then ['^', Char.ofNat (n + 64)]
    else [Char.ofNat n]
  if c = '\t' then if s.showsTabs then ['^', 'I'] else [c]
  else if !s.showsOthers then [c]
  else if c.toNat < 128 then plain c.toNat
  else 'M' :: '-' :: plain (c.toNat - 128)

/-- A text in the style that is asked for, line by line. -/
def styled (s : CatStyle) (text : Raw) : Raw :=
  let lines := linesOf text
  let isWhole := text.isEmpty || text.getLast? == some '\n'
  let step := fun (acc : List Raw × Nat × Bool) (l : Raw) =>
    let (rows, n, wasEmpty) := acc
    if s.squeezes && wasEmpty && l.isEmpty then acc
    else
      let isNumbered := if s.numbersFilled then !l.isEmpty else s.numbersAll
      let lead := if isNumbered then lineNumber 6 n ++ ['\t'] else []
      let row := lead ++ l.flatMap (shownChar s) ++ if s.showsEnds then ['$'] else []
      (row :: rows, if isNumbered then n + 1 else n, l.isEmpty)
  let (rows, _, _) := lines.foldl step ([], 1, false)
  match isWhole, rows with
  | true, rows => unlines rows.reverse
  | false, [] => []
  | false, last :: rows =>
    unlines rows.reverse ++ if s.showsEnds then last.dropLast else last

/-- Show the content of files, one after the other. -/
def cat (args : List Raw) : Act Nat :=
  let flags := Flags.of "AbeEnstTuv"
    [("show-all", 'A'), ("number-nonblank", 'b'), ("show-ends", 'E'), ("number", 'n'),
      ("squeeze-blank", 's'), ("show-tabs", 'T'), ("show-nonprinting", 'v')]
  working "cat" flags args fun a => do
    let s : CatStyle := {
      numbersAll := a.has 'n'
      numbersFilled := a.has 'b'
      squeezes := a.has 's'
      showsEnds := a.has 'E' || a.has 'A' || a.has 'e'
      showsTabs := a.has 'T' || a.has 'A' || a.has 't'
      showsOthers := a.has 'v' || a.has 'A' || a.has 'e' || a.has 't' }
    let isPlain := !(s.numbersAll || s.numbersFilled || s.squeezes || s.showsEnds || s.showsTabs
      || s.showsOthers)
    let paths := if a.operands.isEmpty then [['-']] else a.operands
    if isPlain then
      let isFine ← forAll paths fun path => do
        match ← readNamed path with
        | .ok text =>
          Act.out text
          return true
        | .error f =>
          Act.say (usualComplaint "cat" path f)
          return false
      return code isFine
    else
      let (texts, isFine) ← gather paths (usualComplaint "cat")
      Act.out (styled s (texts.flatMap (·.2)))
      return code isFine

/-- The lines of a text, the last one first, each with its break. -/
def recordsOf (text : Raw) : List Raw :=
  let lines := linesInto [] [] text
  match text.getLast? with
  | some '\n' | none => lines.map (· ++ ['\n'])
  | some _ =>
    match lines with
    | [] => []
    | last :: rest => last :: rest.map (· ++ ['\n'])

/-- Show the lines of files, the last one first. -/
def tac (args : List Raw) : Act Nat :=
  working "tac" (Flags.of "brs:" [("before", 'b'), ("separator", 's')]) args fun a => do
    let complaint (path : Raw) (f : Files.Fault) : String :=
      if f = .aFolder then "tac: " ++ named path ++ ": read error: " ++ f.words
      else "tac: failed to open " ++ quoted path ++ " for reading: " ++ f.words
    let (texts, isFine) ← gather a.operands complaint
    texts.forM fun t => Act.out (recordsOf t.2).flatten
    return code isFine

/-- Write the input to the output and to files. -/
def tee (args : List Raw) : Act Nat :=
  working "tee" (Flags.of "aip" [("append", 'a'), ("ignore-interrupts", 'i')]) args fun a => do
    match ← Act.readAll 0 with
    | .error f => failed ("tee: read error: " ++ f.words)
    | .ok text =>
      let isFine ← forAll a.operands fun path => do
        match ← Act.writePath path text (if a.has 'a' then .appending else .emptied) with
        | .ok () => return true
        | .error f =>
          Act.say (usualComplaint "tee" path f)
          return false
      Act.out text
      return code isFine

/-- Number the lines of files. -/
def nl (args : List Raw) : Act Nat :=
  let flags := Flags.of "b:d:f:h:i:l:n:ps:v:w:"
    [("body-numbering", 'b'), ("number-format", 'n'), ("number-separator", 's'),
      ("starting-line-number", 'v'), ("number-width", 'w'), ("line-increment", 'i')]
  working "nl" flags args fun a => do
    let (texts, isFine) ← gather a.operands (usualComplaint "nl")
    let number (c : Char) (usual : Nat) : Nat :=
      ((a.value? c).map fun v => Text.Decimal.value (v.filter Char.isDigit)).getD usual
    let width := number 'w' 6
    let separator := (a.value? 's').getD ['\t']
    let kind := ((a.value? 'b').bind List.head?).getD 't'
    let format := String.ofList ((a.value? 'n').getD (raw "rn"))
    let shown (n : Nat) : Raw :=
      let ds := Text.Decimal.digits n
      let fill (c : Char) : Raw := List.replicate (width - ds.length) c
      match format with
      | "ln" => ds ++ fill ' '
      | "rz" => fill '0' ++ ds
      | _ => fill ' ' ++ ds
    let step := fun (acc : List Raw × Nat) (l : Raw) =>
      if kind = 'a' ∨ (kind = 't' ∧ !l.isEmpty) then
        ((shown acc.2 ++ separator ++ l) :: acc.1, acc.2 + number 'i' 1)
      else ((List.replicate (width + separator.length) ' ' ++ l) :: acc.1, acc.2)
    let (rows, _) := (texts.flatMap fun t => linesOf t.2).foldl step ([], number 'v' 1)
    Act.out (unlines rows.reverse)
    return code isFine

/-- Turn lines around. -/
def rev (args : List Raw) : Act Nat := do
  let (texts, isFine) ← gather args fun p f =>
    "rev: cannot open " ++ p.shown ++ ": " ++ f.words
  let turned (t : Raw) : Raw :=
    let rows := (linesOf t).map List.reverse
    if t.isEmpty || t.getLast? == some '\n' then unlines rows else (unlines rows).dropLast
  Act.out (texts.flatMap fun t => turned t.2)
  return code isFine

/-! ## Counting -/

/-- What there is in a text. -/
structure Counts where
  lines : Nat := 0
  words : Nat := 0
  bytes : Nat := 0
  /-- The length of the longest line. -/
  width : Nat := 0
  /-- The length of the line that has been reached. -/
  here : Nat := 0
  inWord : Bool := false

/-- Count one character more. -/
def Counts.add (n : Counts) (c : Char) : Counts :=
  let n := { n with bytes := n.bytes + 1 }
  let closed := { n with inWord := false, words := if n.inWord then n.words + 1 else n.words }
  if c = '\n' then
    { closed with lines := n.lines + 1, width := max n.width n.here, here := 0 }
  else if c = '\t' then { closed with here := n.here + 8 - n.here % 8 }
  else if c = ' ' then { closed with here := n.here + 1 }
  else if isSpace c then
    if c = '\r' ∨ c = '\x0c' then { closed with width := max n.width n.here, here := 0 }
    else closed
  else if ' ' < c ∧ c ≤ '~' then { n with inWord := true, here := n.here + 1 }
  else n

/-- What there is in a text. -/
def countsOf (text : Raw) : Counts :=
  let n := text.foldl Counts.add {}
  { n with words := if n.inWord then n.words + 1 else n.words, width := max n.width n.here }

/-- Count lines, words and bytes. -/
def wc (args : List Raw) : Act Nat :=
  let flags := Flags.of "clLmw"
    [("bytes", 'c'), ("lines", 'l'), ("chars", 'm'), ("words", 'w'), ("max-line-length", 'L')]
  working "wc" flags args fun a => do
    let wanted (n : Counts) : List Nat :=
      if a.options.isEmpty then [n.lines, n.words, n.bytes]
      else
        (if a.has 'l' then [n.lines] else []) ++ (if a.has 'w' then [n.words] else []) ++
        (if a.has 'm' then [n.bytes] else []) ++ (if a.has 'c' then [n.bytes] else []) ++
        (if a.has 'L' then [n.width] else [])
    let paths := if a.operands.isEmpty then [['-']] else a.operands
    -- The size of each file, where it is known before reading.
    let s ← get
    let size (path : Raw) : Option Nat :=
      if path = ['-'] then
        match s.channel? 0 with
        | some (.file id _ _) => some (s.tree.content id).length
        | _ => none
      else match Files.fileAt s.tree s.folder path.toBytes with
        | .ok id => some (s.tree.content id).length
        | .error .aFolder => none
        | .error _ => some 0
    let sizes := paths.map size
    let total := sizes.foldl (fun n e => n + e.getD 0) 0
    let digits := (Text.Decimal.digits total).length
    let width :=
      if paths.length = 1 ∧ (wanted {}).length = 1 then 1
      else if sizes.contains none then max digits 7 else digits
    let row (counts : Counts) (name : Raw) : Raw :=
      let cells := (wanted counts).map (lineNumber width)
      List.intercalate [' '] (cells ++ if name.isEmpty then [] else [name]) ++ ['\n']
    let (sum, isFine) ← paths.foldlM (fun (sum, isFine) (path : Raw) => do
      let name := if a.operands.isEmpty then [] else path
      match ← readNamed path with
      | .ok text =>
        let n := countsOf text
        Act.out (row n name)
        return (({ lines := sum.lines + n.lines, words := sum.words + n.words
                   bytes := sum.bytes + n.bytes, width := max sum.width n.width } : Counts),
          isFine)
      | .error f =>
        Act.say (usualComplaint "wc" path f)
        if f = .aFolder then Act.out (row {} name)
        return (sum, false)) (({} : Counts), true)
    if 1 < paths.length then Act.out (row sum (raw "total"))
    return code isFine

/-! ## Comparing -/

/-- Compare two files byte by byte. -/
def cmp (args : List Raw) : Act Nat :=
  workingOr 2 "cmp" (Flags.of "bi:ln:s" [("silent", 's'), ("quiet", 's')]) args fun a => do
    let first := a.operands.headD []
    let second := (a.operands[1]?).getD ['-']
    if a.operands.isEmpty then misused "cmp" "missing operand after 'cmp'" 2
    else
      match ← readNamed first, ← readNamed second with
      | .ok x, .ok y =>
        let same := ((x.zip y).takeWhile fun e => e.1 == e.2).length
        let start := x.take same
        let line := start.count '\n' + 1
        if x.length = y.length ∧ same = x.length then return 0
        else
          if !a.has 's' then
            if same < x.length ∧ same < y.length then
              Act.outLine (first ++ ' ' :: second ++ raw (" differ: byte " ++
                Text.Decimal.ofNat (same + 1) ++ ", line " ++ Text.Decimal.ofNat line))
            else
              let short := if x.length < y.length then first else second
              if same = 0 then Act.say ("cmp: EOF on " ++ short.shown ++ " which is empty")
              else
                let isBroken := start.getLast? == some '\n'
                Act.say ("cmp: EOF on " ++ short.shown ++ " after byte " ++
                  Text.Decimal.ofNat same ++ ", " ++ (if isBroken then "" else "in ") ++
                  "line " ++ Text.Decimal.ofNat (if isBroken then line - 1 else line))
          return 1
      | .error f, _ =>
        failed (usualComplaint "cmp" first f) 2
      | _, .error f =>
        failed (usualComplaint "cmp" second f) 2

/-! ## Bytes in numbers -/

/-- How bytes are shown by `od`. -/
inductive Dump where
  | number (base size : Nat) (isSigned : Bool)
  | character
  deriving DecidableEq, Repr

/-- The form that is asked for by its letters. -/
def Dump.ofText? (cs : Raw) : Option Dump :=
  let size (rest : Raw) (usual : Nat) : Nat :=
    match rest with
    | 'C' :: _ => 1
    | 'S' :: _ => 2
    | 'I' :: _ => 4
    | 'L' :: _ => 8
    | rest =>
      let ds := rest.takeWhile Char.isDigit
      if ds.isEmpty then usual else Text.Decimal.value ds
  match cs with
  | 'c' :: _ | 'a' :: _ => some .character
  | 'x' :: rest => some (.number 16 (size rest 4) false)
  | 'o' :: rest => some (.number 8 (size rest 4) false)
  | 'u' :: rest => some (.number 10 (size rest 4) false)
  | 'd' :: rest => some (.number 10 (size rest 4) true)
  | _ => none

/-- How wide a number of so many bytes is at most. -/
def Dump.width : Dump → Nat
  | .character => 3
  | .number base size isSigned =>
    let widest := (Nat.toDigits base (Nat.pow 256 size - 1)).length
    if isSigned then (Nat.toDigits base (Nat.pow 256 size / 2)).length + 1 else widest

/-- One unit of bytes. -/
def Dump.cell (d : Dump) (bytes : Raw) : Raw :=
  let padded (w : Nat) (cs : Raw) : Raw := List.replicate (w - cs.length) ' ' ++ cs
  match d with
  | .character =>
    match bytes with
    | c :: _ =>
      let text : Raw := match c with
        | '\x00' => raw "\\0"
        | '\x07' => raw "\\a"
        | '\x08' => raw "\\b"
        | '\x0c' => raw "\\f"
        | '\n' => raw "\\n"
        | '\r' => raw "\\r"
        | '\t' => raw "\\t"
        | '\x0b' => raw "\\v"
        | c =>
          if ' ' ≤ c ∧ c ≤ '~' then [c]
          else
            let ds := Nat.toDigits 8 c.toNat
            List.replicate (3 - ds.length) '0' ++ ds
      ' ' :: padded 3 text
    | [] => []
  | .number base size isSigned =>
    let n := bytes.reverse.foldl (fun n c => n * 256 + c.toNat) 0
    let limit := Nat.pow 256 size
    if isSigned then
      let text := if limit / 2 ≤ n then '-' :: Nat.toDigits 10 (limit - n) else Nat.toDigits 10 n
      ' ' :: padded d.width text
    else
      let ds := Nat.toDigits base n
      let fill : Char := if base = 10 then ' ' else '0'
      ' ' :: List.replicate (d.width - ds.length) fill ++ ds

/-- How many bytes there are in a unit. -/
def Dump.size : Dump → Nat
  | .character => 1
  | .number _ size _ => max size 1

/-- Split into pieces of a size. -/
def chunksOf (size : Nat) (cs : Raw) : Nat → List Raw
  | 0 => []
  | fuel + 1 => if cs.isEmpty then [] else cs.take size :: chunksOf size (cs.drop size) fuel

/-- Show bytes in numbers. -/
def od (args : List Raw) : Act Nat :=
  let flags := Flags.of "A:abcdDefFhHiIj:lLN:oOsS:t:vw:xX"
    [("address-radix", 'A'), ("format", 't'), ("skip-bytes", 'j'), ("read-bytes", 'N'),
      ("width", 'w'), ("output-duplicates", 'v')]
  working "od" flags args fun a => do
    let (texts, isFine) ← gather a.operands (usualComplaint "od")
    let text := texts.flatMap (·.2)
    let skipped := ((a.value? 'j').bind sized?).getD 0
    let text := text.drop skipped
    let text := match (a.value? 'N').bind sized? with
      | some n => text.take n
      | none => text
    let forms : List Dump := a.options.filterMap fun o =>
      match o.1 with
      | 't' => Dump.ofText? o.2
      | 'b' => some (.number 8 1 false)
      | 'c' => some .character
      | 'd' => some (.number 10 2 false)
      | 'o' => some (.number 8 2 false)
      | 'x' => some (.number 16 2 false)
      | _ => none
    let forms := if forms.isEmpty then [Dump.number 8 2 false] else forms
    let width := ((a.value? 'w').bind sized?).getD 16
    let base : Option Nat := match ((a.value? 'A').bind List.head?).getD 'o' with
      | 'n' => none
      | 'd' => some 10
      | 'x' => some 16
      | _ => some 8
    let address (n : Nat) : Raw := match base with
      | none => []
      | some b =>
        let ds := Nat.toDigits b n
        List.replicate ((if b = 16 then 6 else 7) - ds.length) '0' ++ ds
    -- Units of all forms that cover the same bytes end in the same column.
    let unit := forms.foldl (fun m d => max m d.size) 1
    let needed := forms.foldl (fun m (d : Dump) => max m ((unit / d.size) * (d.width + 1))) 1
    let row (d : Dump) (bytes : Raw) : Raw :=
      let each := needed / (unit / d.size)
      (chunksOf d.size bytes (bytes.length + 1)).flatMap fun b =>
        let cell := d.cell b
        List.replicate (each - cell.length) ' ' ++ cell
    let rows := (chunksOf width text (text.length + 1)).zipIdx
    let step := fun (acc : List Raw × Option Raw × Bool) (r : Raw × Nat) =>
      let (out, last, isStarred) := acc
      if last = some r.1 ∧ !a.has 'v' ∧ r.1.length = width ∧ r.2 + 1 < rows.length then
        (if isStarred then out else raw "*\n" :: out, last, true)
      else
        let shown := forms.zipIdx.flatMap fun d =>
          let lead := address (skipped + r.2 * width)
          (if d.2 = 0 then lead else List.replicate lead.length ' ') ++ row d.1 r.1 ++ ['\n']
        (shown :: out, some r.1, false)
    let (out, _, _) := rows.foldl step ([], none, false)
    Act.out out.reverse.flatten
    if base.isSome then Act.outLine (address (skipped + text.length))
    return code isFine

end AgentPulse.Shell.Program
