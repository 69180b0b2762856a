import AgentPulse.Shell.Escape
import AgentPulse.Shell.Pattern
import AgentPulse.Shell.Printing
import AgentPulse.Shell.Program.Basic

/-!
# Programs on characters and fields

Programs that cut lines apart, put them together, and exchange characters; and those that write
lines of their own.
-/

namespace AgentPulse.Shell.Program

/-! ## Fields -/

/-- A list of places: each from one number to another, or to the end. -/
abbrev Ranges := List (Nat × Option Nat)

/-- Read a list of places. -/
def readRanges (isFields : Bool) (cs : Raw) : Except String Ranges := do
  let what := if isFields then "field" else "byte/character"
  let bad : String := "invalid " ++ what ++ (if isFields then " value " else " position ")
  (partsOf ',' (cs.map fun c => if c = ' ' then ',' else c)).mapM fun part => do
    let low := part.takeWhile (· != '-')
    let isRange := low.length < part.length
    let high := part.drop (low.length + 1)
    if !low.all Char.isDigit || !high.all Char.isDigit then .error (bad ++ quoted part)
    else if part.isEmpty then .error "fields are numbered from 1"
    else if isRange && low.isEmpty && high.isEmpty then
      .error "invalid range with no endpoint: -"
    else
      let n := if low.isEmpty then 1 else Text.Decimal.value low
      let m := Text.Decimal.value high
      if n = 0 then
        .error (if isFields then "fields are numbered from 1"
          else "byte/character positions are numbered from 1")
      else if !isRange then return (n, some n)
      else if high.isEmpty then return (n, none)
      else if m < n then .error "invalid decreasing range"
      else return (n, some m)

/-- Whether a place is in a list. -/
def inRanges (ranges : Ranges) (n : Nat) : Bool :=
  ranges.any fun r => r.1 ≤ n && r.2.all (n ≤ ·)

/-- Cut fields or characters out of lines. -/
def cut (args : List Raw) : Act Nat :=
  let flags := Flags.of "b:c:d:f:nszCO:"
    [("bytes", 'b'), ("characters", 'c'), ("delimiter", 'd'), ("fields", 'f'),
      ("only-delimited", 's'), ("complement", 'C'), ("output-delimiter", 'O')]
  working "cut" flags args fun a => do
    let list := a.last? ['b', 'c', 'f']
    let isFields := list = some 'f'
    let separator := a.value? 'd'
    match list.bind a.value? with
    | none => misused "cut" "you must specify a list of bytes, characters, or fields"
    | some text =>
      if (a.options.filter fun o => o.1 == 'b' || o.1 == 'c' || o.1 == 'f').length > 1 then
        misused "cut" "only one list may be specified"
      else if separator.any (1 < ·.length) then
        misused "cut" "the delimiter must be a single character"
      else if !isFields && separator.isSome then
        misused "cut" "an input delimiter may be specified only when operating on fields"
      else match readRanges isFields text with
        | .error message => misused "cut" message
        | .ok ranges =>
          let wanted (n : Nat) : Bool := inRanges ranges n != a.has 'C'
          let pick {α : Type} (l : List α) : List α :=
            (l.zipIdx.filter fun e => wanted (e.2 + 1)).map (·.1)
          let c := (separator.bind List.head?).getD '\t'
          let between := (a.value? 'O').getD [c]
          let row (l : Raw) : List Raw :=
            if !isFields then [pick l]
            else if l.contains c then [List.intercalate between (pick (partsOf c l))]
            else if a.has 's' then [] else [l]
          let (texts, isFine) ← gather a.operands (usualComplaint "cut")
          texts.forM fun t => Act.out (unlines ((linesOf t.2).flatMap row))
          return code isFine

/-- Join the lines of several files, or all lines of each one. -/
def paste (args : List Raw) : Act Nat :=
  working "paste" (Flags.of "d:sz" [("delimiters", 'd'), ("serial", 's')]) args fun a => do
    let given := (a.value? 'd').getD ['\t']
    let separators : List Raw := (resolve given).map fun c => if c = '\x00' then [] else [c]
    let separators := if separators.isEmpty then [[]] else separators
    let between (n : Nat) : Raw := (separators[n % separators.length]?).getD []
    let joined (ls : List Raw) : Raw :=
      (ls.zipIdx.flatMap fun e => (if e.2 = 0 then [] else between (e.2 - 1)) ++ e.1)
    let (texts, isFine) ← gather a.operands (usualComplaint "paste")
    let columns := texts.map fun t => linesOf t.2
    if a.has 's' then Act.out (unlines (columns.map joined))
    else
      let columns : List (List Raw) := match columns with
        | first :: rest =>
          -- The input is shared by all columns that read it.
          if a.operands.length > 1 && a.operands.all (· == ['-']) then
            let k := a.operands.length
            (List.range k).map fun (n : Nat) =>
              (first.zipIdx.filter fun (e : Raw × Nat) => e.2 % k == n).map (·.1)
          else first :: rest
        | [] => []
      let count := columns.foldl (fun n (c : List Raw) => max n c.length) 0
      let row (n : Nat) : Raw := joined (columns.map fun (row : List Raw) => (row[n]?).getD [])
      Act.out (unlines ((List.range count).map row))
    return code isFine
where
  /-- The separators that a text stands for. -/
  resolve : Raw → Raw
    | '\\' :: c :: rest => (if c = '0' then '\x00' else (controlLetter? c).getD c) :: resolve rest
    | c :: rest => c :: resolve rest
    | [] => []

/-- Break lines that are too long. -/
def fold (args : List Raw) : Act Nat :=
  let args := match args with
    | ('-' :: d :: cs) :: rest => if d.isDigit then (raw "-w" ++ d :: cs) :: rest else args
    | args => args
  working "fold" (Flags.of "bsw:" [("bytes", 'b'), ("spaces", 's'), ("width", 'w')]) args
    fun a => do
      let width := max 1 (((a.value? 'w').map Text.Decimal.value).getD 80)
      let (texts, isFine) ← gather a.operands (usualComplaint "fold")
      texts.forM fun t => do
        let rows := (linesOf t.2).flatMap fun l => broken (a.has 's') width l (l.length + 1)
        let text := unlines rows
        let isWhole := t.2.isEmpty || t.2.getLast? == some '\n'
        Act.out (if isWhole then text else text.dropLast)
      return code isFine
where
  /-- The pieces of a line. -/
  broken (atBlanks : Bool) (width : Nat) (l : Raw) : Nat → List Raw
    | 0 => [l]
    | fuel + 1 =>
      if l.length ≤ width then [l]
      else
        let piece := l.take width
        let tail := piece.reverse.takeWhile (· != ' ')
        let piece := if atBlanks ∧ tail.length < piece.length then
            piece.take (piece.length - tail.length) else piece
        piece :: broken atBlanks width (l.drop piece.length) fuel

/-- Put blanks in the place of tabs. -/
def expandTabs (args : List Raw) : Act Nat :=
  working "expand" (Flags.of "it:" [("tabs", 't'), ("initial", 'i')]) args fun a => do
    let size := max 1 (((a.value? 't').map Text.Decimal.value).getD 8)
    let (texts, isFine) ← gather a.operands (usualComplaint "expand")
    let step := fun (acc : Raw × Nat) (c : Char) =>
      if c = '\t' then
        let n := size - acc.2 % size
        (List.replicate n ' ' ++ acc.1, acc.2 + n)
      else if c = '\n' then (c :: acc.1, 0)
      else (c :: acc.1, acc.2 + 1)
    texts.forM fun t => Act.out (t.2.foldl step ([], 0)).1.reverse
    return code isFine

/-! ## Characters -/

/-- All characters of bytes. -/
def allChars : Raw := (List.range 256).map Char.ofNat

/-- A set of characters as it is written: characters with their escapes resolved, each with whether
it was protected by a backslash. -/
def setChars : Nat → Raw → List (Char × Bool)
  | 0, _ => []
  | fuel + 1, cs =>
    match cs with
    | '\\' :: e :: rest =>
      if isOctal e then
        let (c, rest) := octalByte (e :: rest)
        (c, true) :: setChars fuel rest
      else ((controlLetter? e).getD e, true) :: setChars fuel rest
    | c :: rest => (c, false) :: setChars fuel rest
    | [] => []

/-- A part of a set: characters, or one that is repeated to fill the set up. -/
inductive SetPart where
  | chars (cs : Raw)
  | fill (c : Char)
  deriving Repr

/-- Read the ranges, the classes and the repetitions of a set. -/
def readSet (fuel : Nat) (cs : List (Char × Bool)) : Except String (List SetPart) :=
  match fuel with
  | 0 => .ok []
  | fuel + 1 =>
    let plain (c : Char) (rest : List (Char × Bool)) : Except String (List SetPart) := do
      return .chars [c] :: (← readSet fuel rest)
    match cs with
    | [] => .ok []
    | ('[', false) :: (':', false) :: rest =>
      let name := (rest.takeWhile fun c => c.1 != ':').map (·.1)
      match rest.drop name.length with
      | (':', false) :: (']', false) :: after =>
        match Pattern.namedClass? (String.ofList name) with
        | some f => do return .chars (allChars.filter f) :: (← readSet fuel after)
        | none => .error ("invalid character class " ++ quoted name)
      | _ => plain '[' ((':', false) :: rest)
    | ('[', false) :: ('=', false) :: c :: ('=', false) :: (']', false) :: rest => do
      return .chars [c.1] :: (← readSet fuel rest)
    | ('[', false) :: c :: ('*', false) :: rest =>
      let ds := (rest.takeWhile fun c => c.1.isDigit).map (·.1)
      match rest.drop ds.length with
      | (']', false) :: after => do
        let isOctalNumber := ds.head? = some '0'
        let n := if isOctalNumber then
            ds.foldl (fun n d => 8 * n + (d.toNat - '0'.toNat)) 0 else Text.Decimal.value ds
        let part := if n = 0 then SetPart.fill c.1 else .chars (List.replicate n c.1)
        return part :: (← readSet fuel after)
      | _ => plain '[' (c :: ('*', false) :: rest)
    | a :: ('-', false) :: b :: rest =>
      if b.1 < a.1 then
        .error ("range-endpoints of '" ++ Raw.shown [a.1, '-', b.1] ++
          "' are in reverse collating sequence order")
      else do
        let range := (List.range (b.1.toNat + 1 - a.1.toNat)).map fun n =>
          Char.ofNat (a.1.toNat + n)
        return .chars range :: (← readSet fuel rest)
    | c :: rest => plain c.1 rest

/-- The characters of a set, filled up to a length where that is asked for. -/
def fillSet (length : Nat) (parts : List SetPart) : Raw :=
  let known := parts.foldl (fun n p =>
    match p with
    | .chars cs => n + cs.length
    | .fill _ => n) 0
  parts.flatMap fun
    | .chars cs => cs
    | .fill c => List.replicate (length - known) c

/-- Keep one of several equal neighbours that are in a set. -/
def squeeze (isIn : Char → Bool) (text : Raw) : Raw :=
  (text.foldl (fun (kept : Raw) c =>
    if kept.head? = some c ∧ isIn c then kept else c :: kept) []).reverse

/-- Exchange, delete or squeeze characters. -/
def tr (args : List Raw) : Act Nat :=
  let flags := Flags.of "cCdst"
    [("complement", 'c'), ("delete", 'd'), ("squeeze-repeats", 's'), ("truncate-set1", 't')] false
  working "tr" flags args fun a => do
    let isOpposite := a.has 'c' || a.has 'C'
    let deletes := a.has 'd'
    let squeezes := a.has 's'
    let read (cs : Raw) : Except String (List SetPart) :=
      let chars := setChars (cs.length + 1) cs
      readSet (chars.length + 1) chars
    match a.operands with
    | [] => misused "tr" "missing operand"
    | [first] =>
      if deletes && squeezes then
        failed ("tr: missing operand after " ++ quoted first ++
          "\nTwo strings must be given when both deleting and squeezing repeats.\n" ++
          tryHelp "tr")
      else if !deletes && !squeezes then
        failed ("tr: missing operand after " ++ quoted first ++
          "\nTwo strings must be given when translating.\n" ++ tryHelp "tr")
      else go isOpposite deletes squeezes false (read first) none
    | [first, second] =>
      if deletes && !squeezes then
        failed ("tr: extra operand " ++ quoted second ++
          "\nOnly one string may be given when deleting without squeezing repeats.\n" ++
          tryHelp "tr")
      else if second.isEmpty && !deletes && !a.has 't' then
        failed "tr: when not truncating set1, string2 must be non-empty"
      else go isOpposite deletes squeezes (a.has 't') (read first) (some (read second))
    | _ :: _ :: extra :: _ => misused "tr" ("extra operand " ++ quoted extra)
where
  /-- Change the input, given the sets. -/
  go (isOpposite deletes squeezes isShort : Bool) (first : Except String (List SetPart))
      (second : Option (Except String (List SetPart))) : Act Nat := do
    match first, second.getD (.ok []) with
    | .error message, _ | _, .error message => failed ("tr: " ++ message)
    | .ok first, .ok parts =>
      let own := fillSet 0 first
      let set := if isOpposite then allChars.filter fun c => !own.contains c else own
      let other := fillSet set.length parts
      let set := if isShort then set.take other.length else set
      let isIn : Array Bool := (List.range 256).toArray.map fun n => set.contains (Char.ofNat n)
      let inSet (c : Char) : Bool := isIn.getD c.toNat false
      match ← Act.readAll 0 with
      | .error f => failed ("tr: read error: " ++ f.words)
      | .ok text =>
        let text :=
          if deletes then
            let kept := text.filter fun c => !inSet c
            if squeezes then squeeze (other.contains ·) kept else kept
          else if second.isNone then squeeze inSet text
          else
            -- Where a character is in the set more than once, its last place counts.
            let swaps : Array Char := (set.zipIdx).foldl (fun (swaps : Array Char) e =>
              swaps.set! e.1.toNat ((other[e.2]?).getD (other.getLastD e.1))) allChars.toArray
            let text := text.map fun c => swaps.getD c.toNat c
            if squeezes then squeeze (other.contains ·) text else text
        Act.out text
        return 0

/-! ## Lines of their own -/

/-- A decimal number: a whole number and how many of its digits are behind the point. -/
structure Scaled where
  mantissa : Int
  places : Nat
  /-- How long it was as it was written. -/
  width : Nat
  deriving Repr, Inhabited

/-- Read a decimal number. -/
def scaled? (cs : Raw) : Option Scaled :=
  let (isNegative, body) := match cs with
    | '-' :: rest => (true, rest)
    | '+' :: rest => (false, rest)
    | rest => (false, rest)
  let whole := body.takeWhile Char.isDigit
  let rest := body.drop whole.length
  let places := match rest with
    | '.' :: ds => if ds.all Char.isDigit then some ds else none
    | [] => some []
    | _ => none
  match places with
  | none => none
  | some ds =>
    if whole.isEmpty && ds.isEmpty then none
    else
      let n : Int := Text.Decimal.value (whole ++ ds)
      some ⟨if isNegative then -n else n, ds.length,
        (if isNegative then 1 else 0) + max 1 whole.length⟩

/-- The same number with so many places. -/
def Scaled.at (s : Scaled) (places : Nat) : Int := s.mantissa * Nat.pow 10 (places - s.places)

/-- A whole number with a point in it. -/
def pointed (places : Nat) (n : Int) : Raw :=
  let ds := Text.Decimal.digits n.natAbs
  let ds := List.replicate (places + 1 - ds.length) '0' ++ ds
  let text := ds.take (ds.length - places) ++
    if places = 0 then [] else '.' :: ds.drop (ds.length - places)
  if n < 0 then '-' :: text else text

/-- Count from one number to another. -/
def seq (args : List Raw) : Act Nat := do
  -- Numbers below zero look like options.
  let (options, numbers) := split args
  let flags := Flags.of "f:s:w" [("format", 'f'), ("separator", 's'), ("equal-width", 'w')]
  working "seq" flags options fun a => do
    match numbers, numbers.find? fun n => (scaled? n).isNone with
    | [], _ => misused "seq" "missing operand"
    | _ :: _ :: _ :: extra :: _, _ => misused "seq" ("extra operand " ++ quoted extra)
    | _, some n => misused "seq" ("invalid floating point argument: " ++ quoted n)
    | numbers, none =>
      let one : Scaled := ⟨1, 0, 1⟩
      let (first, stride, last) := match numbers.filterMap scaled? with
        | [x] => (one, one, x)
        | [x, y] => (x, one, y)
        | [x, y, z] => (x, y, z)
        | _ => (one, one, one)
      if stride.mantissa = 0 then
        misused "seq" ("invalid Zero increment value: " ++ quoted ((numbers[1]?).getD []))
      else
        let places := max first.places stride.places
        let scale := max places last.places
        let low := first.at scale
        let step := stride.at scale
        let high := last.at scale
        let count :=
          if (0 < step ∧ high < low) ∨ (step < 0 ∧ low < high) then 0
          else if 0 < step then ((high - low + step).tdiv step).toNat
          else ((low - high - step).tdiv (-step)).toNat
        let values := (List.range count).map fun (i : Nat) =>
          pointed places ((low + i * step) / Nat.pow 10 (scale - places))
        let extra := if places = 0 then 0 else places + 1
        let width := max (first.width + extra)
          (max (last.width + extra) (((values.getLast?.map List.length).getD 0)))
        let padded (v : Raw) : Raw :=
          match v with
          | '-' :: ds => '-' :: List.replicate (width - v.length) '0' ++ ds
          | ds => List.replicate (width - v.length) '0' ++ ds
        let rows := match a.value? 'f' with
          | some format => values.map fun v => (printed format [v]).text
          | none => if a.has 'w' then values.map padded else values
        let separator := (a.value? 's').getD ['\n']
        if !rows.isEmpty then Act.out (List.intercalate separator rows ++ ['\n'])
        return 0
where
  /-- Options and numbers. -/
  split : List Raw → List Raw × List Raw
    | [] => ([], [])
    | ['-', '-'] :: rest => ([], rest)
    | ('-' :: c :: cs) :: rest =>
      if c.isDigit || c == '.' then ([], ('-' :: c :: cs) :: rest)
      else if (c = 'f' ∨ c = 's') ∧ cs.isEmpty then
        match rest with
        | value :: rest =>
          let (options, numbers) := split rest
          (['-', c] :: value :: options, numbers)
        | [] => ([['-', c]], [])
      else
        let (options, numbers) := split rest
        (('-' :: c :: cs) :: options, numbers)
    | numbers => ([], numbers)

/-- Say the same again and again. -/
def yes (args : List Raw) : Act Nat := do
  let line := (if args.isEmpty then ['y'] else List.intercalate [' '] args) ++ ['\n']
  let room := match (← get).channel? 1 with
    | some (.pipe p) => p.room.getD Act.endless
    | _ => Act.endless
  Act.out (List.replicate (room / line.length + 1) line).flatten
  return 0

/-- Print the arguments with blanks between them. -/
def echo (args : List Raw) : Act Nat := do
  let rec flags : List Raw → Bool × Bool × List Raw
    | ('-' :: c :: cs) :: rest =>
      if (c :: cs).all fun c => c == 'n' || c == 'e' || c == 'E' then
        let (isBare, resolves, others) := flags rest
        (isBare || (c :: cs).contains 'n', resolves || (c :: cs).contains 'e', others)
      else (false, false, ('-' :: c :: cs) :: rest)
    | rest => (false, false, rest)
  let (isBare, resolves, words) := flags args
  let text := List.intercalate [' '] words
  let (text, isCut) := if resolves then resolveEscapes text else (text, false)
  Act.out (if isBare || isCut then text else text ++ ['\n'])
  return 0

/-- Print arguments as a format says. -/
def printf (args : List Raw) : Act Nat := do
  let args := if args.head? = some ['-', '-'] then args.drop 1 else args
  match args with
  | [] => misused "printf" "missing operand"
  | format :: args =>
    let p := printed format args
    Act.out p.text
    p.complaints.forM fun (c : String) => Act.say ("printf: " ++ c)
    match p.failure with
    | some message => failed ("printf: " ++ message)
    | none => return code p.complaints.isEmpty

end AgentPulse.Shell.Program
