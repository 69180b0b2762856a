import AgentPulse.Double.Literal
import AgentPulse.Shell.Number
import AgentPulse.Shell.Program.Basic

/-!
# Programs on lines in order

Programs that put lines in order, and those that work on lines that are in order already. An order
is given by keys: parts of a line, compared in one of several ways.
-/

namespace AgentPulse.Shell.Program

/-! ## Comparing lines -/

/-- Compare texts byte by byte. -/
def compareRaw : Raw → Raw → Ordering
  | [], [] => .eq
  | [], _ => .lt
  | _, [] => .gt
  | a :: as, b :: bs => if a < b then .lt else if b < a then .gt else compareRaw as bs

/-- Whether a character separates fields where nothing else is said. -/
def isGap (c : Char) : Bool := c == ' ' || c == '\t'

/-- The number at the start of a text: its sign, the digits before the point and those behind it. -/
structure Written where
  isNegative : Bool
  whole : Raw
  places : Raw

/-- Read the number at the start of a text. -/
def writtenNumber (cs : Raw) : Written :=
  let cs := cs.dropWhile isGap
  let (isNegative, cs) := match cs with
    | '-' :: rest => (true, rest)
    | rest => (false, rest)
  let whole := cs.takeWhile Char.isDigit
  let places := match cs.drop whole.length with
    | '.' :: rest => rest.takeWhile Char.isDigit
    | _ => []
  ⟨isNegative, whole.dropWhile (· == '0'), (places.reverse.dropWhile (· == '0')).reverse⟩

/-- Compare numbers without their signs. -/
def compareSizes (a b : Written) : Ordering :=
  (compare a.whole.length b.whole.length).then
    ((compareRaw a.whole b.whole).then (compareRaw a.places b.places))

/-- Compare numbers. -/
def compareNumbers (a b : Written) : Ordering :=
  let isZero (w : Written) : Bool := w.whole.isEmpty && w.places.isEmpty
  let sign (w : Written) : Int := if isZero w then 0 else if w.isNegative then -1 else 1
  (compare (sign a) (sign b)).then
    (if sign a = -1 then compareSizes b a else compareSizes a b)

/-- The rank of the letter behind a number that stands for its factor. -/
def factorRank (cs : Raw) : Nat :=
  let cs := cs.dropWhile isGap
  let cs := if cs.head? = some '-' then cs.drop 1 else cs
  let rest := cs.dropWhile fun c => c.isDigit || c == '.'
  match rest.head? with
  | some 'k' | some 'K' => 1
  | some 'M' => 2
  | some 'G' => 3
  | some 'T' => 4
  | some 'P' => 5
  | _ => 0

/-- The rank of a month by the first letters of its name; zero where there is none. -/
def monthRank (cs : Raw) : Nat :=
  let word := String.ofList (((cs.dropWhile isGap).take 3).map Char.toUpper)
  match ["JAN", "FEB", "MAR", "APR", "MAY", "JUN", "JUL", "AUG", "SEP", "OCT", "NOV",
      "DEC"].idxOf? word with
  | some n => n + 1
  | none => 0

/-- Compare texts in which numbers count by their value: other characters come first, a tilde before
the end, letters before all else. -/
def compareVersions (a b : Raw) : Nat → Ordering
  | 0 => .eq
  | fuel + 1 =>
    let rank (c : Char) : Int :=
      if c == '~' then -1 else if c.isAlpha then c.toNat else c.toNat + 256
    let x := a.takeWhile fun c => !c.isDigit
    let y := b.takeWhile fun c => !c.isDigit
    let width := max x.length y.length
    let ranks (cs : Raw) : List Int := cs.map rank ++ List.replicate (width - cs.length) 0
    match (ranks x).zip (ranks y) |>.find? fun e => e.1 != e.2 with
    | some e => compare e.1 e.2
    | none =>
      let a := a.drop x.length
      let b := b.drop y.length
      if a.isEmpty && b.isEmpty then .eq
      else
        let n := a.takeWhile Char.isDigit
        let m := b.takeWhile Char.isDigit
        (compare (Text.Decimal.value n) (Text.Decimal.value m)).then
          (compareVersions (a.drop n.length) (b.drop m.length) fuel)

/-- The double at the start of a text as something that can be compared: what is no number comes
first. -/
def compareDoubles (a b : Raw) : Ordering :=
  let value (cs : Raw) : Option Double.Extended := (Double.literal? cs).map (·.value)
  let rank (d : Option Double.Extended) : Nat :=
    match d with
    | none => 0
    | some (.undefined _) => 1
    | some (.infinite true) => 2
    | some (.finite _) => 3
    | some (.infinite false) => 4
  let x := value a
  let y := value b
  match x, y with
  | some (.finite d), some (.finite e) =>
    let (n, dn) := d.fraction
    let (m, dm) := e.fraction
    let sign (isNegative : Bool) (n : Nat) : Int := if isNegative then -(n : Int) else n
    compare (sign d.negative (n * dm)) (sign e.negative (m * dn))
  | x, y => compare (rank x) (rank y)

/-! ## Keys -/

/-- How a key is compared: the letters that were given for it. -/
abbrev Ways := List Char

/-- A part of a line that decides about the order. Fields and characters count from 1; the end is
the end of the line if nothing is said about it. -/
structure Key where
  startField : Nat := 1
  startChar : Nat := 1
  endField : Option Nat := none
  endChar : Nat := 0
  ways : Ways := []
  endWays : Ways := []
  deriving Repr, Inhabited

/-- A place in a key: a field, maybe a character in it, and letters. -/
def readKeyPlace (cs : Raw) : Option (Nat × Option Nat × Ways × Raw) :=
  let field := cs.takeWhile Char.isDigit
  if field.isEmpty then none
  else
    let rest := cs.drop field.length
    let (char, rest) := match rest with
      | '.' :: more =>
        let ds := more.takeWhile Char.isDigit
        (some (Text.Decimal.value ds), more.drop ds.length)
      | rest => (none, rest)
    let ways := rest.takeWhile Char.isAlpha
    some (Text.Decimal.value field, char, ways, rest.drop ways.length)

/-- Read a key. -/
def readKey? (cs : Raw) : Option Key := do
  let (field, char, ways, rest) ← readKeyPlace cs
  if field = 0 then none
  let k : Key := { startField := field, startChar := char.getD 1, ways }
  match rest with
  | [] => return k
  | ',' :: rest =>
    let (field, char, endWays, rest) ← readKeyPlace rest
    if rest.isEmpty then
      return { k with
        endField := some field, endChar := char.getD 0, ways := ways ++ endWays, endWays }
    else none
  | _ => none

/-- What is left of a line behind so many fields. Fields start with the blanks in front of them,
unless a separator is given. -/
def dropFields (separator : Option Char) : Nat → Raw → Raw
  | 0, cs => cs
  | n + 1, cs =>
    match separator with
    | some c => dropFields separator n ((cs.dropWhile (· != c)).drop 1)
    | none => dropFields separator n ((cs.dropWhile isGap).dropWhile fun c => !isGap c)

/-- The first so many fields of a line. -/
def takeFields (separator : Option Char) (n : Nat) (cs : Raw) : Raw :=
  match separator with
  | none => cs.take (cs.length - (dropFields none n cs).length)
  | some c =>
    let behind := dropFields separator n cs
    let front := cs.take (cs.length - behind.length)
    if n < (partsOf c cs).length then front.dropLast else front

/-- The part of a line that a key names. -/
def Key.part (k : Key) (separator : Option Char) (skipsBlanks : Bool) (line : Raw) : Raw :=
  let skip (isAsked : Bool) (cs : Raw) : Raw := if isAsked then cs.dropWhile isGap else cs
  let before := dropFields separator (k.startField - 1) line
  let start := skip (skipsBlanks || k.ways.contains 'b') before
  let start := start.drop (k.startChar - 1)
  match k.endField with
  | none => start
  | some f =>
    let stop :=
      if k.endChar = 0 then (takeFields separator f line).length
      else
        let before := dropFields separator (f - 1) line
        let inside := skip (skipsBlanks || k.endWays.contains 'b') before
        line.length - (inside.drop k.endChar).length
    start.take (stop - (line.length - start.length))

/-- Compare two texts in the ways that are asked for. -/
def compareIn (ways : Ways) (a b : Raw) : Ordering :=
  let cleaned (cs : Raw) : Raw :=
    let cs := if ways.contains 'd' then cs.filter fun c => isGap c || c.isAlphanum else cs
    let cs := if ways.contains 'i' then cs.filter fun c => ' ' ≤ c && c ≤ '~' else cs
    if ways.contains 'f' then cs.map Char.toUpper else cs
  if ways.contains 'n' then compareNumbers (writtenNumber a) (writtenNumber b)
  else if ways.contains 'g' then compareDoubles a b
  else if ways.contains 'h' then
    let x := writtenNumber a
    let y := writtenNumber b
    let rank (w : Written) (cs : Raw) : Int :=
      let n : Int := factorRank cs
      if w.isNegative then -n else n
    (compare (rank x a) (rank y b)).then (compareNumbers x y)
  else if ways.contains 'M' then compare (monthRank a) (monthRank b)
  else if ways.contains 'V' then compareVersions a b (a.length + b.length + 1)
  else compareRaw (cleaned a) (cleaned b)

/-- How lines are put in order. -/
structure Sorting where
  keys : List Key
  /-- What holds for keys that say nothing themselves, and for whole lines. -/
  ways : Ways
  separator : Option Char
  isStable : Bool

/-- Compare two lines by the keys alone. -/
def Sorting.byKeys (s : Sorting) (a b : Raw) : Ordering :=
  let keys := if s.keys.isEmpty then [({} : Key)] else s.keys
  keys.foldl (fun (o : Ordering) k =>
    match o with
    | .eq =>
      let own := k.ways.filter (· != 'b')
      let ways := if k.ways.isEmpty then s.ways else k.ways
      let skips := k.ways.isEmpty && s.ways.contains 'b'
      let part (l : Raw) : Raw := k.part s.separator skips l
      let r := compareIn ways (part a) (part b)
      if (if k.ways.isEmpty then s.ways else own).contains 'r' then r.swap else r
    | o => o) .eq

/-- Compare two lines. Lines that are equal by the keys are compared as they are. -/
def Sorting.compare (s : Sorting) (a b : Raw) : Ordering :=
  match s.byKeys a b with
  | .eq =>
    if s.isStable then .eq
    else
      let r := compareRaw a b
      if s.ways.contains 'r' then r.swap else r
  | o => o

/-- Put lines in order. -/
def sort (args : List Raw) : Act Nat :=
  let flags := Flags.of "bcCdfghik:mMno:rRsS:t:T:uVz"
    [("reverse", 'r'), ("unique", 'u'), ("numeric-sort", 'n'), ("key", 'k'), ("output", 'o'),
      ("field-separator", 't'), ("stable", 's'), ("check", 'c'), ("ignore-case", 'f'),
      ("general-numeric-sort", 'g'), ("human-numeric-sort", 'h'), ("version-sort", 'V'),
      ("ignore-leading-blanks", 'b'), ("dictionary-order", 'd'), ("month-sort", 'M'),
      ("zero-terminated", 'z'), ("merge", 'm')]
  workingOr 2 "sort" flags args fun a => do
    let keyTexts := (a.options.filter fun o => o.1 == 'k').map (·.2)
    let keys := keyTexts.map readKey?
    match keyTexts.find? fun t => (readKey? t).isNone with
    | some t =>
      if t.head?.any Char.isDigit then
        failed ("sort: -: invalid field specification " ++ quoted t) 2
      else
        failed ("sort: invalid number at field start: invalid count at start of " ++ quoted t) 2
    | none =>
      let separator := match a.value? 't' with
        | some ['\\', '0'] => some '\x00'
        | some (c :: _) => some c
        | _ => none
      let s : Sorting := {
        keys := keys.filterMap id
        ways := (a.options.map (·.1)).filter fun c => "bdfghiMnrV".contains c
        separator
        isStable := a.has 's' || a.has 'u' }
      let complaint (path : Raw) (f : Files.Fault) : String :=
        if f = .aFolder then "sort: read failed: " ++ named path ++ ": " ++ f.words
        else "sort: cannot read: " ++ named path ++ ": " ++ f.words
      let (texts, isFine) ← gather a.operands complaint
      if !isFine then return 2
      let finish : Char := if a.has 'z' then '\x00' else '\n'
      let lines := texts.flatMap fun t =>
        if a.has 'z' then
          let parts := partsOf '\x00' t.2
          if parts.getLast? = some [] then parts.dropLast else parts
        else linesOf t.2
      if a.has 'c' || a.has 'C' then
        let isWrong (e : Raw × Raw) : Bool :=
          let o := s.compare e.1 e.2
          o == .gt || (a.has 'u' && o == .eq)
        match (lines.zip (lines.drop 1)).zipIdx.find? fun e => isWrong e.1 with
        | none => return 0
        | some ((_, line), n) =>
          if a.has 'C' then return 1
          else
            failed ("sort: " ++ (a.operands.headD ['-']).shown ++ ":" ++
              Text.Decimal.ofNat (n + 2) ++ ": disorder: " ++ line.shown)
      else
        let ordered := lines.mergeSort fun a b => s.compare a b != .gt
        let ordered := if a.has 'u' then
            (ordered.foldl (fun (kept : List Raw) l =>
              match kept with
              | last :: _ => if s.byKeys last l == .eq then kept else l :: kept
              | [] => [l]) []).reverse
          else ordered
        let text := ordered.flatMap (· ++ [finish])
        match a.value? 'o' with
        | none =>
          Act.out text
          return 0
        | some path =>
          match ← Act.writePath path text with
          | .ok () => return 0
          | .error f => failed ("sort: open failed: " ++ named path ++ ": " ++ f.words) 2

/-! ## Lines next to each other -/

/-- Keep one of several equal lines in a row, or those that are alone or not. -/
def uniq (args : List Raw) : Act Nat :=
  let flags := Flags.of "cdDf:is:uw:z"
    [("count", 'c'), ("repeated", 'd'), ("unique", 'u'), ("ignore-case", 'i'),
      ("skip-fields", 'f'), ("skip-chars", 's'), ("check-chars", 'w')]
  working "uniq" flags args fun a => do
    let number (c : Char) : Option Nat := (a.value? c).map Text.Decimal.value
    let path := a.operands.headD ['-']
    match ← readNamed path with
    | .error .aFolder => failed ("uniq: error reading " ++ quoted path)
    | .error f => failed (usualComplaint "uniq" path f)
    | .ok text =>
      let key (l : Raw) : Raw :=
        let l := (dropFields none ((number 'f').getD 0) l).drop ((number 's').getD 0)
        let l := match number 'w' with
          | some n => l.take n
          | none => l
        if a.has 'i' then l.map Char.toLower else l
      let groups := (linesOf text).splitBy fun a b => key a == key b
      let groups := groups.filter fun g =>
        (!(a.has 'd' || a.has 'D') || 1 < g.length) && (!a.has 'u' || g.length == 1)
      let shown (g : List Raw) : List Raw :=
        if a.has 'D' then g
        else
          let ds := Text.Decimal.digits g.length
          let count := List.replicate (7 - ds.length) ' ' ++ ds ++ [' ']
          [(if a.has 'c' then count else []) ++ g.headD []]
      let out := unlines (groups.flatMap shown)
      match a.operands[1]? with
      | none =>
        Act.out out
        return 0
      | some goal =>
        match ← Act.writePath goal out with
        | .ok () => return 0
        | .error f => failed (usualComplaint "uniq" goal f)

/-- Go through two lists of lines in order: those only in the first, only in the second, and in
both, each with the number of its column. -/
def mergeLines (a b : List Raw) : Nat → List (Nat × Raw)
  | 0 => []
  | fuel + 1 =>
    match a, b with
    | [], [] => []
    | x :: xs, [] => (1, x) :: mergeLines xs [] fuel
    | [], y :: ys => (2, y) :: mergeLines [] ys fuel
    | x :: xs, y :: ys =>
      match compareRaw x y with
      | .lt => (1, x) :: mergeLines xs b fuel
      | .gt => (2, y) :: mergeLines a ys fuel
      | .eq => (3, x) :: mergeLines xs ys fuel

/-- Compare two files whose lines are in order. -/
def comm (args : List Raw) : Act Nat :=
  let flags := Flags.of "123z" [("total", 't')]
  working "comm" flags args fun a => do
    match a.operands with
    | [first, second] =>
      match ← readNamed first, ← readNamed second with
      | .ok x, .ok y =>
        let xs := linesOf x
        let ys := linesOf y
        let hides (n : Nat) : Bool := a.has (Char.ofNat ('0'.toNat + n))
        let row (e : Nat × Raw) : List Raw :=
          if hides e.1 then []
          else
            let tabs := ((List.range (e.1 - 1)).filter fun n => !hides (n + 1)).length
            [List.replicate tabs '\t' ++ e.2]
        Act.out (unlines ((mergeLines xs ys (xs.length + ys.length + 1)).flatMap row))
        return 0
      | .error f, _ => failed (usualComplaint "comm" first f)
      | _, .error f => failed (usualComplaint "comm" second f)
    | [] => misused "comm" "missing operand"
    | [first] => misused "comm" ("missing operand after " ++ quoted first)
    | _ :: _ :: extra :: _ => misused "comm" ("extra operand " ++ quoted extra)

/-- Join the lines of two files that have a field in common. -/
def join (args : List Raw) : Act Nat :=
  let flags := Flags.of "1:2:a:e:ij:o:t:v:" []
  working "join" flags args fun a => do
    match a.operands with
    | [first, second] =>
      match ← readNamed first, ← readNamed second with
      | .ok x, .ok y =>
        let separator := (a.value? 't').bind List.head?
        let fieldsIn (l : Raw) : List Raw := match separator with
          | some c => partsOf c l
          | none => (partsOf ' ' (l.map fun c => if c = '\t' then ' ' else c)).filter
              fun p => !p.isEmpty
        let number (c : Char) : Nat :=
          (((a.value? c).or (a.value? 'j')).map Text.Decimal.value).getD 1
        let rows (text : Raw) (key : Nat) : List (Raw × List Raw) :=
          (linesOf text).map fun l =>
            let fs := fieldsIn l
            ((fs[key - 1]?).getD [], fs.eraseIdx (key - 1))
        let xs := rows x (number '1')
        let ys := rows y (number '2')
        let between := separator.getD ' '
        let both := xs.flatMap fun p =>
          (ys.filter fun q => q.1 == p.1).map fun q => (p.1, p.1 :: p.2 ++ q.2)
        let alone (l other : List (Raw × List Raw)) : List (Raw × List Raw) :=
          (l.filter fun p => !other.any fun q => q.1 == p.1).map fun p => (p.1, p.1 :: p.2)
        let wants (c : Char) (n : Raw) : Bool := a.options.any fun o => o.1 == c && o.2 == n
        let first := if wants 'a' ['1'] || wants 'v' ['1'] then alone xs ys else []
        let second := if wants 'a' ['2'] || wants 'v' ['2'] then alone ys xs else []
        let all := (if a.has 'v' then [] else both) ++ first ++ second
        let ordered := all.mergeSort fun p q => compareRaw p.1 q.1 != .gt
        Act.out (unlines (ordered.map fun p => List.intercalate [between] p.2))
        return 0
      | .error f, _ => failed (usualComplaint "join" first f)
      | _, .error f => failed (usualComplaint "join" second f)
    | [] => misused "join" "missing operand"
    | [first] => misused "join" ("missing operand after " ++ quoted first)
    | _ :: _ :: extra :: _ => misused "join" ("extra operand " ++ quoted extra)

end AgentPulse.Shell.Program
