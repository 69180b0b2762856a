import AgentPulse.Shell.Program.Content
import AgentPulse.Shell.Program.Folders

/-!
# Programs that take things apart

Programs that copy blocks, that part a file into several ones, that part numbers into primes, and
that put things into an order in which each comes before those that need it.
-/

namespace AgentPulse.Shell.Program

/-! ## Blocks -/

/-- The options of the program that copies blocks, by name. -/
abbrev BlockOptions := List (String × Raw)

/-- A size, which may be a product. -/
def blockCount? (cs : Raw) : Option Nat :=
  (partsOf 'x' cs).foldl (fun n p => n.bind fun n => (sized? p).map (n * ·)) (some 1)

/-- What conversions make of a text. -/
def converted (conversions : List Raw) (text : Raw) : Raw :=
  let text := if conversions.contains (raw "ucase") then text.map Char.toUpper else text
  if conversions.contains (raw "lcase") then text.map Char.toLower else text

/-- Copy blocks. -/
def dd (args : List Raw) : Act Nat := do
  let options : BlockOptions := args.map fun arg =>
    (String.ofList (arg.takeWhile (· != '=')), arg.drop ((arg.takeWhile (· != '=')).length + 1))
  let known := ["if", "of", "bs", "ibs", "obs", "cbs", "count", "skip", "seek", "conv", "status",
    "iflag", "oflag"]
  let wrong := args.find? fun arg =>
    !arg.contains '=' || !known.contains (String.ofList (arg.takeWhile (· != '=')))
  let size (name : String) : Option Nat := (options.lookup name).bind blockCount?
  let sizes := ["bs", "ibs", "obs", "count", "skip", "seek"]
  let badSize := sizes.find? fun n => (options.lookup n).isSome && (size n).isNone
  match wrong, badSize with
  | some arg, _ => misused "dd" ("unrecognized operand " ++ quoted arg)
  | none, some n => failed ("dd: invalid number: " ++ quoted ((options.lookup n).getD []))
  | none, none =>
    let inSize := ((size "bs").or (size "ibs")).getD 512
    let outSize := ((size "bs").or (size "obs")).getD 512
    let conversions := partsOf ',' ((options.lookup "conv").getD [])
    let skip := inSize * (size "skip").getD 0
    let all := (size "count").map (inSize * ·)
    let read : Except String Raw ← match options.lookup "if" with
      | some path => do
        match ← Act.readPath path with
        | .ok text => pure (.ok ((text.drop skip).take (all.getD text.length)))
        | .error f =>
          let what := if f matches .aFolder then "error reading " else "failed to open "
          pure (.error ("dd: " ++ what ++ quoted path ++ ": " ++ f.words))
      | none => do
        match ← Act.look 0 with
        | .ok text =>
          let used := match all with
            | some n => skip + n
            | none => text.length
          Act.skip 0 used (all.isNone || text.length < used)
          pure (.ok ((text.drop skip).take (all.getD text.length)))
        | .error f => pure (.error ("dd: error reading 'standard input': " ++ f.words))
    match read with
    | .error message => failed message
    | .ok text =>
      let text := converted conversions text
      let seek := outSize * (size "seek").getD 0
      let fault : Option String ← match options.lookup "of" with
        | none => do
          Act.out text
          pure none
        | some path => do
          let old := match ← Act.readPath path with
            | .ok old => old
            | .error _ => []
          let front := old.take seek
          let gap : Raw := List.replicate (seek - front.length) '\x00'
          let keeps := conversions.contains (raw "notrunc")
          let rest := if keeps then old.drop (seek + text.length) else []
          let whole := front ++ gap ++ text ++ rest
          match ← Act.writePath path whole with
          | .ok () => pure none
          | .error f => pure (some ("dd: failed to open " ++ quoted path ++ ": " ++ f.words))
      match fault with
      | some message => failed message
      | none =>
        let status := String.ofList ((options.lookup "status").getD [])
        let counts (size : Nat) : String :=
          Text.Decimal.ofNat (text.length / size) ++ "+" ++
            (if text.length % size = 0 then "0" else "1")
        if status != "none" then
          Act.say (counts inSize ++ " records in\n" ++ counts outSize ++ " records out")
          if status != "noxfer" then
            Act.say (Text.Decimal.ofNat text.length ++
              (if text.length = 1 then " byte" else " bytes") ++ " copied, 0 s, 0 B/s")
        return 0

/-! ## Files in parts -/

/-- The name of a part by its number. -/
def partName (digits : Nat) (base : Nat) (first : Char) (n : Nat) : Raw :=
  (List.range digits).foldl (fun (acc : Raw × Nat) _ =>
    (Char.ofNat (first.toNat + acc.2 % base) :: acc.1, acc.2 / base)) (([] : Raw), n) |>.1

/-- Parts of so many lines. -/
def linesInParts (count : Nat) : Nat → Raw → List Raw
  | 0, _ => []
  | fuel + 1, text =>
    if text.isEmpty then []
    else
      let (front, _) := takeLines [] count text
      front.reverse :: linesInParts count fuel (text.drop front.length)

/-- Part a file into several ones. -/
def split (args : List Raw) : Act Nat :=
  let names := [("lines", 'l'), ("bytes", 'b'), ("suffix-length", 'a'), ("numeric-suffixes", 'd'),
    ("additional-suffix", 'x'), ("number", 'n')]
  working "split" (Flags.of "l:b:a:dx:n:" names) args fun a => do
    match a.operands with
    | _ :: _ :: extra :: _ => misused "split" ("extra operand " ++ quoted extra)
    | operands =>
      let path := operands.headD ['-']
      let start := (operands[1]?).getD ['x']
      let lines := (a.value? 'l').map sized?
      let bytes := (a.value? 'b').map sized?
      let parts := (a.value? 'n').map sized?
      match lines, bytes, parts with
      | some none, _, _ | some (some 0), _, _ =>
        failed ("split: invalid number of lines: " ++ quoted ((a.value? 'l').getD []))
      | _, some none, _ | _, some (some 0), _ =>
        failed ("split: invalid number of bytes: " ++ quoted ((a.value? 'b').getD []))
      | _, _, some none | _, _, some (some 0) =>
        failed ("split: invalid number of chunks: " ++ quoted ((a.value? 'n').getD []))
      | _, _, _ =>
        match ← readNamed path with
        | .error f =>
          failed ("split: cannot open " ++ quoted path ++ " for reading: " ++ f.words)
        | .ok text =>
          let fuel := text.length + 1
          let pieces := match bytes, parts with
            | some (some n), _ => chunksOf n text fuel
            | _, some (some k) =>
              (List.range k).map fun i =>
                let size := text.length / k
                if i + 1 = k then text.drop (i * size) else (text.drop (i * size)).take size
            | _, _ => linesInParts ((lines.bind id).getD 1000) fuel text
          let digits := ((a.value? 'a').map Text.Decimal.value).getD 2
          let ending := (a.value? 'x').getD []
          let name (i : Nat) : Raw :=
            start ++ (if a.has 'd' then partName digits 10 '0' i else partName digits 26 'a' i) ++
              ending
          let isFine ← forAll (pieces.zipIdx.map fun e => name e.2) fun (path : Raw) => do
            let i := (pieces.zipIdx.find? fun e => name e.2 == path).map (·.1)
            match ← Act.writePath path (i.getD []) with
            | .ok () => return true
            | .error f =>
              Act.say ("split: " ++ path.shown ++ ": " ++ f.words)
              return false
          return code isFine

/-! ## Numbers in primes -/

/-- The primes of a number that are not below a divisor. -/
def primesOf (n d : Nat) : Nat → List Nat
  | 0 => [n]
  | fuel + 1 =>
    if n < 2 then []
    else if n < d * d then [n]
    else if n % d = 0 then d :: primesOf (n / d) d fuel
    else primesOf n (d + 1) fuel

/-- Show the primes of numbers. -/
def factor (args : List Raw) : Act Nat :=
  working "factor" (Flags.of "h" [("exponents", 'h')]) args fun a => do
    let words ← if a.operands.isEmpty then do
        match ← Act.readAll 0 with
        | .ok text =>
          let blank (c : Char) : Bool := c == ' ' || c == '\t' || c == '\n'
          pure ((text.splitBy fun x y => blank x == blank y).filter fun w => !w.any blank)
        | .error _ => pure []
      else pure a.operands
    let isFine ← forAll words fun (word : Raw) => do
      let digits := if word.head? = some '+' then word.drop 1 else word
      if digits.isEmpty || !digits.all Char.isDigit then
        Act.say ("factor: " ++ quoted word ++ " is not a valid positive integer")
        return false
      else
        let n := Text.Decimal.value digits
        let ps := (primesOf n 2 (1 <<< 24)).flatMap fun p => ' ' :: Text.Decimal.digits p
        Act.outLine (Text.Decimal.digits n ++ ':' :: ps)
        return true
    return code isFine

/-! ## Order -/

/-- Things in an order in which each comes before those that need it, as far as there is one. Of
those that may come next the one that has been ready for longest comes first. -/
def orderedBy (pairs : List (Raw × Raw)) (ready done : List Raw) : Nat → List Raw
  | 0 => done.reverse
  | fuel + 1 =>
    match ready with
    | [] => done.reverse
    | x :: rest =>
      let left := pairs.filter fun e => e.1 != x
      let heirs := ((pairs.filter fun e => e.1 == x).map (·.2)).reverse.eraseDups
      let free := heirs.filter fun y => !left.any fun e => e.2 == y
      orderedBy left (rest ++ free) (x :: done) fuel

/-- Put things into an order in which each comes before those that need it. -/
def tsort (args : List Raw) : Act Nat :=
  working "tsort" (Flags.of "") args fun a => do
    let path := a.operands.headD ['-']
    match ← readNamed path with
    | .error f => failed (usualComplaint "tsort" path f)
    | .ok text =>
      let blank (c : Char) : Bool := c == ' ' || c == '\t' || c == '\n'
      let words := (text.splitBy fun x y => blank x == blank y).filter fun w => !w.any blank
      if words.length % 2 ≠ 0 then
        failed ("tsort: " ++ path.shown ++ ": input contains an odd number of tokens")
      else
        let indexed := words.zipIdx
        let firsts := (indexed.filter fun e => e.2 % 2 == 0).map (·.1)
        let seconds := (indexed.filter fun e => e.2 % 2 == 1).map (·.1)
        let pairs := (firsts.zip seconds).filter fun e => e.1 != e.2
        let things := words.eraseDups.mergeSort Raw.le
        let ready := things.filter fun x => !pairs.any fun e => e.2 == x
        let order := orderedBy pairs ready [] (things.length + 1)
        let stuck := things.filter fun x => !order.contains x
        Act.out (unlines order)
        if stuck.isEmpty then return 0
        else
          Act.say ("tsort: " ++ path.shown ++ ": input contains a loop:")
          stuck.forM fun (x : Raw) => Act.say ("tsort: " ++ x.shown)
          Act.out (unlines stuck)
          return 1

/-! ## Blanks -/

/-- Blanks at the start of a line, or anywhere, put together to tabs. `column` is the place that has
been reached and `gap` the number of blanks before it that have not been written. -/
def tabbed (size : Nat) (isAll : Bool) (inside : Bool) (column gap : Nat) : Raw → Raw
  | [] => List.replicate gap ' '
  | c :: rest =>
    if c = '\n' then List.replicate gap ' ' ++ '\n' :: tabbed size isAll false 0 0 rest
    else if inside && !isAll then c :: tabbed size isAll true (column + 1) 0 rest
    else if c = ' ' then
      if (column + 1) % size = 0 ∧ (0 < gap ∨ size = 1) then
        '\t' :: tabbed size isAll inside (column + 1) 0 rest
      else tabbed size isAll inside (column + 1) (gap + 1) rest
    else if c = '\t' then
      '\t' :: tabbed size isAll inside ((column / size + 1) * size) 0 rest
    else List.replicate gap ' ' ++ c :: tabbed size isAll true (column + 1) 0 rest

/-- Put blanks together to tabs. -/
def unexpand (args : List Raw) : Act Nat :=
  let names := [("all", 'a'), ("tabs", 't'), ("first-only", 'f')]
  working "unexpand" (Flags.of "at:f" names) args fun a => do
    let size := max 1 (((a.value? 't').map Text.Decimal.value).getD 8)
    let isAll := (a.has 'a' || a.has 't') && !a.has 'f'
    let (texts, isFine) ← gather a.operands (usualComplaint "unexpand")
    texts.forM fun (e : Raw × Raw) => Act.out (tabbed size isAll false 0 0 e.2)
    return code isFine

end AgentPulse.Shell.Program
