import AgentPulse.Shell.Rows.Memory

/-!
# Carrying out scripts for rows

Expressions have values, and statements change the memory and write. Both take fuel, which a script
uses up by nesting and by repeating.
-/

namespace AgentPulse.Shell.Rows

open Work

/-- A number computed from two others. -/
def compute (op : Char) (x y : Float) : Float :=
  match op with
  | '+' => x + y
  | '-' => x - y
  | '*' => x * y
  | '/' => x / y
  | '%' => x - y * whole (x / y)
  | _ => Float.pow x y

/-- What a match is exchanged for. -/
def replacement (pattern found : Raw) : Raw :=
  match pattern with
  | '\\' :: '&' :: rest => '&' :: replacement rest found
  | '\\' :: '\\' :: rest => '\\' :: replacement rest found
  | '&' :: rest => found ++ replacement rest found
  | c :: rest => c :: replacement rest found
  | [] => []

/-- A text with matches exchanged, and how many there were. -/
def exchanged (r : Regex) (isGlobal : Bool) (pattern text : Raw) : Raw × Nat :=
  let chars := text.toArray
  let found := if isGlobal then r.all chars else (r.search? chars).toList
  let (pieces, i) := found.foldl (fun (acc : List Raw × Nat) m =>
    let between := (chars.extract acc.2 m.start).toList
    (replacement pattern (m.text chars) :: between :: acc.1, m.stop)) ([], 0)
  (((chars.extract i chars.size).toList :: pieces).reverse.flatten, found.length)

/-- A number rounded to the nearest integer, a half to the even one. -/
def rounded (x : Float) : Int :=
  let low := x.floor
  let n := (integer? low).getD 0
  let rest := x - low
  if rest < 0.5 then n else if 0.5 < rest then n + 1 else if n % 2 = 0 then n else n + 1

/-- Part of a text, from a place on. -/
def part (text : Raw) (start : Float) (size : Option Float) : Raw :=
  let first := rounded start
  let past : Int := match size with
    | some n => rounded (start + n)
    | none => text.length + 1
  let low := max first 1
  if past ≤ low then [] else (text.drop (low - 1).toNat).take (past - low).toNat

/-- Where a text is in another one; places are counted from one on, and none is found at zero. -/
def placeOf (text other : Raw) : Nat → Nat → Nat
  | 0, _ => 0
  | fuel + 1, i =>
    if other.isPrefixOf text then i
    else match text with
      | [] => 0
      | _ :: rest => placeOf rest other fuel (i + 1)

/-- Values for items, counted from one on. -/
def listing (cells : List Raw) : Dict Value :=
  (cells.zipIdx 1).foldl (fun d e => d.insert (Text.Decimal.ofNat e.2) (.input e.1)) Dict.empty

/-- Run a command: what it wrote if that is asked for, and how it ended. -/
def runCommand (launch : Launch) (text : Raw) (input : Option Raw) (isKept : Bool) :
    Act (Raw × Nat) := do
  let given ← Act.newChannel (.pipe { front := input.getD [] })
  let kept ← Act.newChannel (.pipe {})
  let change (s : State) : State :=
    let s := if input.isSome then s.connect 0 given else s
    if isKept then s.connect 1 kept else s
  let r ← Act.apart change (launch [raw "sh", ['-', 'c'], text])
  let status := match r with
    | .ok e => e.status
    | .error _ => 127
  return ((← get).pipeContent kept, status)

/-- Write to a place. -/
def writeTo (o : Option (Char × Raw)) (text : Raw) : Work Unit := do
  let file (path : Raw) (how : Act.Opening) : Work Unit := do
    match (← memory).outlets.lookup path with
    | some n => (Act.writeTo n text : Act Unit)
    | none =>
      match ← (Act.openToWrite path how : Act (Except Files.Fault Nat)) with
      | .ok n =>
        change fun m => { m with outlets := (path, n) :: m.outlets }
        (Act.writeTo n text : Act Unit)
      | .error f => fatal ("cannot open \"" ++ path.shown ++ "\" for output (" ++ f.words ++ ")")
  match o with
  | none => (Act.out text : Act Unit)
  | some (how, path) =>
    if how = '|' then
      change fun m =>
        match m.commands.lookup path with
        | some _ => { m with commands := m.commands.map fun c =>
            if c.1 = path then (path, text :: c.2) else c }
        | none => { m with commands := (path, [text]) :: m.commands }
    else if path = raw "/dev/stdout" ∨ path = ['-'] then (Act.out text : Act Unit)
    else if path = raw "/dev/stderr" then (Act.write 2 text : Act Unit)
    else file path (if how = 'a' then .appending else .emptied)

/-- Let a command that was written to run. -/
def finishCommand (launch : Launch) (path : Raw) : Work Nat := do
  match (← memory).commands.lookup path with
  | none => return 0
  | some pieces =>
    change fun m => { m with commands := m.commands.filter fun c => c.1 != path }
    let (_, status) ← (runCommand launch path (some pieces.reverse.flatten) false : Act (Raw × Nat))
    return status

/-- The key of an item. -/
def keyOf (keys : List Value) : Work String := do
  let texts ← keys.mapM textOf
  match texts with
  | [cs] => return String.ofList cs
  | texts => return String.ofList (List.intercalate (← globalText "SUBSEP") texts)

/-- Put back into the names of the caller what a function has made of arguments that stood for
nothing. -/
def giveBack (inner : Dict (Option Slot)) (unbound : List (Raw × Raw)) : Work Unit :=
  unbound.forM fun e => do
    match inner.find? (String.ofList e.1) with
    | some (some (.array n)) => setSlot e.2 (.array n)
    | _ => pure ()

/-- What a script is carried out with. -/
structure Setting where
  script : Script
  launch : Launch

mutual
/-- The value of an expression. -/
def value (e : Setting) : Nat → Expr → Work Value
  | 0, _ => fatal "program too deep"
  | fuel + 1, x => do
    match x with
    | .number n => return .number n
    | .text cs => return .text cs
    | .pattern r _ => return truth (r.isIn (← memory).row)
    | .named name =>
      match ← slot? name with
      | some (.value v) => return v
      | some (.array _) => fatal ("type error in arg: " ++ name.shown ++ " is an array")
      | none => return .unset
    | .item name keys =>
      let key ← keyOf (← valuesOf e fuel keys)
      let d ← items name
      match d.find? key with
      | some v => return v
      | none =>
        setItems name (d.insert key .unset)
        return .unset
    | .cell n => cell (natural (← value e fuel n).toNumber)
    | .assign target x =>
      let v ← value e fuel x
      put e fuel target v
      return v
    | .update op target x =>
      let b := (← value e fuel x).toNumber
      let a := (← value e fuel target).toNumber
      let v := Value.number (compute op a b)
      put e fuel target v
      return v
    | .count isUp isBefore target =>
      let a := (← value e fuel target).toNumber
      let b := if isUp then a + 1 else a - 1
      put e fuel target (.number b)
      return .number (if isBefore then b else a)
    | .choose c a b => if (← value e fuel c).holds then value e fuel a else value e fuel b
    | .both a b =>
      if (← value e fuel a).holds then return truth (← value e fuel b).holds else return truth false
    | .either a b =>
      if (← value e fuel a).holds then return truth true else return truth (← value e fuel b).holds
    | .opposite a => return truth !(← value e fuel a).holds
    | .signed isNegative a =>
      let n := (← value e fuel a).toNumber
      return .number (if isNegative then -n else n)
    | .contains keys name =>
      let key ← keyOf (← valuesOf e fuel keys)
      return truth ((← items name).contains key)
    | .fits isOpposite a p =>
      let text ← textOf (← value e fuel a)
      let r ← regex e fuel p
      return truth (r.isIn text != isOpposite)
    | .compared r a b =>
      let v ← value e fuel a
      let w ← value e fuel b
      return truth (Value.compare (← globalText "CONVFMT") r v w)
    | .joined a b =>
      let v ← textOf (← value e fuel a)
      let w ← textOf (← value e fuel b)
      return .text (v ++ w)
    | .computed op a b =>
      let v := (← value e fuel a).toNumber
      let w := (← value e fuel b).toNumber
      return .number (compute op v w)
    | .group [a] => value e fuel a
    | .group es => return .text (← keyOf (← valuesOf e fuel es)).toList
    | .call name args => call e fuel name args
    | .builtin name args => builtin e fuel name args
    | .readRow target source place => readRow e fuel target source place

/-- The values of expressions. -/
def valuesOf (e : Setting) : Nat → List Expr → Work (List Value)
  | 0, _ => fatal "program too deep"
  | _, [] => return []
  | fuel + 1, x :: rest => do
    let v ← value e fuel x
    let vs ← valuesOf e fuel rest
    return v :: vs

/-- The pattern that an expression stands for. -/
def regex (e : Setting) : Nat → Expr → Work Regex
  | 0, _ => fatal "program too deep"
  | fuel + 1, x => do
    match x with
    | .pattern r _ => return r
    | .group [a] => regex e fuel a
    | x => patternOf (← textOf (← value e fuel x))

/-- Put a value into a place. -/
def put (e : Setting) : Nat → Expr → Value → Work Unit
  | 0, _, _ => fatal "program too deep"
  | fuel + 1, target, v => do
    match target with
    | .named name => setName name v
    | .item name keys =>
      let key ← keyOf (← valuesOf e fuel keys)
      setItems name ((← items name).insert key v)
    | .cell n => setCell (natural (← value e fuel n).toNumber) v
    | .group [a] => put e fuel a v
    | _ => return

/-- The value of a function of the script. -/
def call (e : Setting) : Nat → Raw → List Expr → Work Value
  | 0, _, _ => fatal "program too deep"
  | fuel + 1, name, args => do
    match e.script.functions.lookup name with
    | none => fatal ("function " ++ name.shown ++ " never defined")
    | some f =>
      let (slots, unbound) ← bind e fuel f.parameters args
      let outer := (← memory).locals
      change fun m => { m with locals := some slots }
      let r ← (try
          carryOut e fuel f.body
          pure Value.unset
        catch
          | .back v => pure v
          | s =>
            change fun m => { m with locals := outer }
            throw s)
      let inner := (← memory).locals.getD Dict.empty
      change fun m => { m with locals := outer }
      giveBack inner unbound
      return r

/-- The names of a function with its arguments, and the arguments that stand for nothing yet. -/
def bind (e : Setting) : Nat → List Raw → List Expr →
    Work (Dict (Option Slot) × List (Raw × Raw))
  | 0, _, _ => fatal "program too deep"
  | _, [], _ => return (Dict.empty, [])
  | fuel + 1, p :: ps, args => do
    let key := String.ofList p
    match args with
    | .named n :: rest =>
      let s ← slot? n
      let (d, unbound) ← bind e fuel ps rest
      return (d.insert key s, if s.isNone then (p, n) :: unbound else unbound)
    | a :: rest =>
      let v ← value e fuel a
      let (d, unbound) ← bind e fuel ps rest
      return (d.insert key (some (.value v)), unbound)
    | [] =>
      let (d, unbound) ← bind e fuel ps []
      return (d.insert key none, unbound)

/-- Read a row on demand: one if there was one, zero at the end, and less where nothing can be
read. -/
def readRow (e : Setting) : Nat → Option Expr → Source → Option Expr → Work Value
  | 0, _, _, _ => fatal "program too deep"
  | fuel + 1, target, source, place => do
    let keep (row : Raw) : Work Unit := do
      match target with
      | some t => put e fuel t (.input row)
      | none => setRow row
    match source, place with
    | .input, _ | _, none =>
      match ← nextRow (fuel + 1) with
      | none => return count 0
      | some row =>
        countUp "NR"
        countUp "FNR"
        keep row
        return count 1
    | source, some place =>
      let key ← textOf (← value e fuel place)
      let known := (← memory).sources.lookup key
      let text : Option Raw ← match known, source with
        | some text, _ => pure (some text)
        | none, .command =>
          let (text, _) ← (runCommand e.launch key none true : Act (Raw × Nat))
          pure (some text)
        | none, _ =>
          let isInput := key == ['-'] || key == raw "/dev/stdin"
          let read : Act (Except Files.Fault Raw) :=
            if isInput then Act.readAll 0 else Act.readPath key
          match ← read with
          | .ok text => pure (some text)
          | .error _ => pure none
      match text with
      | none => return .number (-1)
      | some text =>
        match ← takeRow text with
        | none =>
          change fun m => { m with
            sources := (key, []) :: m.sources.filter fun s => s.1 != key }
          return count 0
        | some (row, rest) =>
          change fun m => { m with
            sources := (key, rest) :: m.sources.filter fun s => s.1 != key }
          if source == .command then countUp "NR"
          keep row
          return count 1

/-- The value of a function that every script has. -/
def builtin (e : Setting) : Nat → String → List Expr → Work Value
  | 0, _, _ => fatal "program too deep"
  | fuel + 1, name, args => do
    let numeric (f : Float → Float) : Work Value := do
      match args with
      | a :: _ => return .number (f (← value e fuel a).toNumber)
      | [] => return .number (f 0)
    let textAt (i : Nat) : Work Raw := do
      match args[i]? with
      | some a => textOf (← value e fuel a)
      | none => return []
    let numberAt (i : Nat) : Work (Option Float) := do
      match args[i]? with
      | some a => return some (← value e fuel a).toNumber
      | none => return none
    match name with
    | "length" =>
      match args with
      | [] => return count (← memory).row.length
      | [.named n] =>
        match ← slot? n with
        | some (.array _) => return count (← items n).size
        | _ => return count (← textAt 0).length
      | _ => return count (← textAt 0).length
    | "substr" =>
      let text ← textAt 0
      let start ← numberAt 1
      let size ← numberAt 2
      return .text (part text (start.getD 0) size)
    | "index" =>
      let text ← textAt 0
      let other ← textAt 1
      return count (placeOf text other (text.length + 1) 1)
    | "split" =>
      let text ← textAt 0
      match args with
      | [_, .named a] =>
        let cells ← parted (← globalText "FS") text false
        setItems a (listing cells)
        return count cells.length
      | [_, .named a, .pattern r _] =>
        let cells := if text.isEmpty then [] else piecesBetween r text
        setItems a (listing cells)
        return count cells.length
      | [_, .named a, _] =>
        let cells ← parted (← textAt 2) text false
        setItems a (listing cells)
        return count cells.length
      | _ => fatal "wrong number of arguments in call to split"
    | "sub" | "gsub" =>
      match args with
      | p :: rest =>
        let r ← regex e fuel p
        let pattern ← textAt 1
        let target := (rest[1]?).getD (.cell (.number 0))
        let text ← textOf (← value e fuel target)
        let (new, n) := exchanged r (name == "gsub") pattern text
        if 0 < n then put e fuel target (.input new)
        return count n
      | [] => fatal ("wrong number of arguments in call to " ++ name)
    | "match" =>
      let text ← textAt 0
      match args with
      | [_, p] =>
        let r ← regex e fuel p
        let (start, size) : Nat × Int := match r.search? text.toArray with
          | some m => (m.start + 1, (m.stop - m.start : Nat))
          | none => (0, -1)
        setGlobal "RSTART" (count start)
        setGlobal "RLENGTH" (.number (if size < 0 then -1 else size.toNat.toFloat))
        return count start
      | _ => fatal "wrong number of arguments in call to match"
    | "sprintf" =>
      let vs ← valuesOf e fuel args
      match vs with
      | [] => fatal "wrong number of arguments in call to sprintf"
      | f :: vs => return .text (formatted (← globalText "CONVFMT") (← textOf f) vs)
    | "tolower" => return .text ((← textAt 0).map Char.toLower)
    | "toupper" => return .text ((← textAt 0).map Char.toUpper)
    | "sin" => numeric Float.sin
    | "cos" => numeric Float.cos
    | "exp" => numeric Float.exp
    | "log" => numeric Float.log
    | "sqrt" => numeric Float.sqrt
    | "int" => numeric whole
    | "atan2" =>
      let y ← numberAt 0
      let x ← numberAt 1
      return .number (Float.atan2 (y.getD 0) (x.getD 0))
    | "srand" =>
      let before := (← memory).seed
      let seed ← numberAt 0
      change fun m => { m with seed := natural (seed.getD 0) }
      return count before
    | "rand" =>
      let seed := ((← memory).seed * 1103515245 + 12345) % 2147483648
      change fun m => { m with seed }
      return .number (seed.toFloat / 2147483648)
    | "system" =>
      let text ← textAt 0
      let (_, status) ← (runCommand e.launch text none false : Act (Raw × Nat))
      return count status
    | "close" =>
      let path ← textAt 0
      let m ← memory
      let isKnown := (m.outlets.lookup path).isSome || (m.sources.lookup path).isSome ||
        (m.commands.lookup path).isSome
      let status ← finishCommand e.launch path
      change fun m => { m with
        outlets := m.outlets.filter fun o => o.1 != path
        sources := m.sources.filter fun s => s.1 != path }
      return if isKnown then count status else .number (-1)
    | _ => return count 0

/-- Where output goes. -/
def outletOf (e : Setting) : Nat → Option Outlet → Work (Option (Char × Raw))
  | 0, _ => fatal "program too deep"
  | fuel + 1, o => do
    match o with
    | none => return none
    | some (.file x) => return some ('>', ← textOf (← value e fuel x))
    | some (.fileEnd x) => return some ('a', ← textOf (← value e fuel x))
    | some (.command x) => return some ('|', ← textOf (← value e fuel x))

/-- Carry out a statement. -/
def carryOut (e : Setting) : Nat → Statement → Work Unit
  | 0, _ => fatal "program too deep"
  | fuel + 1, s => do
    match s with
    | .nothing => return
    | .value x => let _ ← value e fuel x
    | .print args outlet =>
      let format ← globalText "OFMT"
      let words ← match args with
        | [] => do pure [(← memory).row]
        | args => do pure ((← valuesOf e fuel args).map (Value.toText format))
      let o ← outletOf e fuel outlet
      let text := List.intercalate (← globalText "OFS") words
      writeTo o (text ++ (← globalText "ORS"))
    | .format args outlet =>
      match ← valuesOf e fuel args with
      | [] => fatal "no format"
      | f :: vs =>
        let text := formatted (← globalText "CONVFMT") (← textOf f) vs
        let o ← outletOf e fuel outlet
        writeTo o text
    | .branch c a b =>
      if (← value e fuel c).holds then carryOut e fuel a else carryOut e fuel b
    | .repeats c body step => repeatWhile e fuel c body step
    | .atLeastOnce body c =>
      if ← once e fuel body then repeatWhile e fuel (some c) body .nothing
    | .forKeys name array body =>
      let keys := (← items array).keys
      forKeys e fuel name keys body
    | .sequence ss => carryOutAll e fuel ss
    | .next => throw .next
    | .exit x =>
      match x with
      | some x =>
        let n := (← value e fuel x).toNumber
        change fun m => { m with status := ((integer? (whole n)).getD 0 % 256).toNat }
      | none => pure ()
      throw .exit
    | .leave => throw .leave
    | .again => throw .again
    | .back x =>
      match x with
      | some x => throw (.back (← value e fuel x))
      | none => throw (.back .unset)
    | .remove name keys =>
      if keys.isEmpty then setItems name Dict.empty
      else
        let key ← keyOf (← valuesOf e fuel keys)
        setItems name ((← items name).erase key)

/-- Carry out statements one after the other. -/
def carryOutAll (e : Setting) : Nat → List Statement → Work Unit
  | 0, _ => fatal "program too deep"
  | _, [] => return
  | fuel + 1, s :: rest => do
    carryOut e fuel s
    carryOutAll e fuel rest

/-- Carry out the body of a loop once: whether the loop goes on. -/
def once (e : Setting) : Nat → Statement → Work Bool
  | 0, _ => fatal "program too deep"
  | fuel + 1, body => do
    try
      carryOut e fuel body
      return true
    catch
      | .leave => return false
      | .again => return true
      | s => throw s

/-- Repeat a body while a condition holds. -/
def repeatWhile (e : Setting) : Nat → Option Expr → Statement → Statement → Work Unit
  | 0, _, _, _ => fatal "program too deep"
  | fuel + 1, c, body, step => do
    let isSo ← match c with
      | some c => do pure (← value e fuel c).holds
      | none => pure true
    if isSo then
      if ← once e fuel body then
        carryOut e fuel step
        repeatWhile e fuel c body step

/-- Carry out a body for each of some keys. -/
def forKeys (e : Setting) : Nat → Raw → List String → Statement → Work Unit
  | 0, _, _, _ => fatal "program too deep"
  | _, _, [], _ => return
  | fuel + 1, name, key :: rest, body => do
    setName name (.text key.toList)
    if ← once e fuel body then forKeys e fuel name rest body
end

/-- More than a script needs. -/
def runFuel : Nat := 1 <<< 40

/-- Whether a rule is meant for the row. -/
def isMeant (e : Setting) (m : Moment) : Work Bool := do
  match m with
  | .start | .finish => return false
  | .always => return true
  | .whenever x => return (← value e runFuel x).holds
  | .range n first last =>
    let wasInside := (← memory).inside.contains n
    let isInside ← if wasInside then pure true else do pure (← value e runFuel first).holds
    if isInside then
      let isOver := (← value e runFuel last).holds
      change fun m => { m with
        inside := if isOver then m.inside.filter (· != n) else n :: m.inside.filter (· != n) }
    return isInside

/-- Carry out the rules that are meant for rows, row by row. -/
def eachRow (e : Setting) : Nat → Work Unit
  | 0 => return
  | fuel + 1 => do
    match ← nextRow runFuel with
    | none => return
    | some row =>
      countUp "NR"
      countUp "FNR"
      setRow row
      try
        e.script.rules.forM fun r => do
          if ← isMeant e r.moment then carryOut e runFuel r.body
      catch
        | .next => pure ()
        | s => throw s
      eachRow e fuel

/-- Carry out the rules of a moment. -/
def rulesAt (e : Setting) (isStart : Bool) : Work Unit :=
  e.script.rules.forM fun r =>
    match r.moment with
    | .start => if isStart then carryOut e runFuel r.body else pure ()
    | .finish => if isStart then pure () else carryOut e runFuel r.body
    | _ => pure ()

/-- Whether something ends a script, and then what is wrong. -/
def settled (w : Work Unit) : Work Bool := do
  try
    w
    return false
  catch
    | .exit => return true
    | .next | .leave | .again | .back _ => return false
    | s => throw s

/-- Carry out a script: the number that it ends with. -/
def runScript (e : Setting) : Work Nat := do
  let hasRows := e.script.rules.any fun r => !(r.moment matches .start)
  let isOver ← settled (rulesAt e true)
  if hasRows then
    if !isOver then let _ ← settled (eachRow e runFuel)
    let _ ← settled (rulesAt e false)
  let m ← memory
  if m.feed.isOpen && m.feed.isInput then
    match ← (Act.look 0 : Act (Except Files.Fault Raw)) with
    | .ok all =>
      let used := all.length - m.feed.text.length
      (Act.skip 0 ((used + 4095) / 4096 * 4096) m.feed.text.isEmpty : Act Unit)
    | .error _ => pure ()
  m.commands.reverse.forM fun c => do let _ ← finishCommand e.launch c.1
  return (← memory).status

end AgentPulse.Shell.Rows
