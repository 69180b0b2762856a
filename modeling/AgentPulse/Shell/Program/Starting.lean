import AgentPulse.Shell.Builtin.Names
import AgentPulse.Shell.Program.Cutting

/-!
# Programs that start others

Programs that start others with other variables, with arguments from the input, or for some time
only, and the one that lets time go by.
-/

namespace AgentPulse.Shell.Program

/-! ## Time -/

/-- A time in thousandths of a second, or none for a time without end. -/
abbrev Span := Option Nat

/-- Read a time. -/
def span? (cs : Raw) : Option Span :=
  let (cs, factor) : Raw × Nat := match cs.getLast? with
    | some 's' => (cs.dropLast, 1000)
    | some 'm' => (cs.dropLast, 60 * 1000)
    | some 'h' => (cs.dropLast, 3600 * 1000)
    | some 'd' => (cs.dropLast, 86400 * 1000)
    | _ => (cs, 1000)
  if cs = raw "infinity" ∨ cs = raw "inf" then some none
  else match scaled? cs with
    | some s =>
      if s.mantissa < 0 then none
      else some (some (s.mantissa.toNat * factor / Nat.pow 10 s.places))
    | none => none

/-- Let time go by, until the process is killed at the latest. -/
def pass (t : Span) : Act Unit := modify fun s =>
  let now := match t, s.death with
    | some n, some (time, _) => min (s.tree.now + n) (max s.tree.now time)
    | some n, none => s.tree.now + n
    | none, some (time, _) => max s.tree.now time
    | none, none => s.tree.now
  { s with tree := { s.tree with now } }

/-- Do nothing for some time. -/
def sleep (args : List Raw) : Act Nat :=
  working "sleep" (Flags.of "") args fun a => do
    match a.operands with
    | [] => misused "sleep" "missing operand"
    | times =>
      let wrong := times.filter fun t => (span? t).isNone
      if wrong.isEmpty then
        pass ((times.filterMap span?).foldl
          (fun (all : Span) t => all.bind fun n => t.map fun m => n + m) (some 0))
        return 0
      else
        wrong.forM fun (t : Raw) => Act.say ("sleep: invalid time interval " ++ quoted t)
        failed (tryHelp "sleep")

/-! ## One program -/

/-- The number that stands for a program that could not be started. -/
def absence (f : Files.Fault) : Nat := match f with
  | .missing => 127
  | _ => 126

/-- Start a program in the place of another, or complain. -/
def becoming (launch : Launch) (complaint : String) (words : List Raw) : Act Ending := do
  match ← launch words with
  | .ok e => return e
  | .error f =>
    Act.say (complaint ++ quoted (words.headD []) ++ ": " ++ f.words)
    return .exit (absence f)

/-- Give arguments that have been told apart to a program that starts others. -/
def startingWith (failure : Nat) (name : String) (flags : Flags) (args : List Raw)
    (work : Arguments → Act Ending) : Act Ending := do
  match flags.arguments args with
  | .ok a => work a
  | .error message => return .exit (← misused name message failure)

/-- Whether a word gives a variable a value. -/
def isSetting (word : Raw) : Bool := word.contains '='

/-- Start a program with other variables, or show the variables. -/
def env (launch : Launch) (args : List Raw) : Act Ending :=
  let names := [("ignore-environment", 'i'), ("null", '0'), ("unset", 'u'), ("chdir", 'C')]
  startingWith 125 "env" (Flags.of "i0u:C:" names false) args fun a => do
    let isBare := a.has 'i' || a.operands.head? = some ['-']
    let words := if a.operands.head? = some ['-'] then a.operands.drop 1 else a.operands
    let settings := words.takeWhile isSetting
    let words := words.dropWhile isSetting
    let outer ← get
    if isBare then modify fun s => { s with values := Dict.empty }
    a.options.forM fun (o : Char × Raw) =>
      if o.1 = 'u' then modify fun s => s.putVariable o.2 none else pure ()
    settings.forM fun (w : Raw) => do
      let name := w.takeWhile (· != '=')
      let value := w.drop (name.length + 1)
      modify fun s => s.putVariable name (some { value := some value, isExported := true })
    let folder : Except (Raw × Files.Fault) Files.Place := match a.value? 'C' with
      | none => .ok outer.folder
      | some path =>
        match Files.folderAt outer.tree outer.folder path.toBytes with
        | .ok p => .ok p
        | .error f => .error (path, f)
    match folder with
    | .error (path, f) =>
      Act.say ("env: cannot change directory to " ++ quoted path ++ ": " ++ f.words)
      return .exit 125
    | .ok folder =>
      if words.isEmpty then
        let close : Char := if a.has '0' then '\x00' else '\n'
        let all := (← get).environment
        let given := settings.map fun w =>
          (w.takeWhile (· != '='), w.drop ((w.takeWhile (· != '=')).length + 1))
        let shown := if isBare then given else all
        shown.forM fun (e : Raw × Raw) => Act.out (e.1 ++ '=' :: e.2 ++ [close])
        return .exit 0
      else
        if (a.value? 'C').isSome then
          modify fun s => { s with folder, route := Builtin.pathOf folder }
        becoming launch "env: " words

/-- Start a program that goes on when the terminal is gone. -/
def nohup (launch : Launch) (args : List Raw) : Act Ending :=
  startingWith 125 "nohup" (Flags.of "" [] false) args fun a => do
    if a.operands.isEmpty then return .exit (← misused "nohup" "missing operand" 125)
    else becoming launch "nohup: failed to run command " a.operands

/-- Start a program that is in less of a hurry. -/
def nice (launch : Launch) (args : List Raw) : Act Ending :=
  let isShort (arg : Raw) : Bool := match arg with
    | '-' :: c :: _ => c.isDigit
    | _ => false
  let args := args.dropWhile isShort
  startingWith 125 "nice" (Flags.of "n:" [("adjustment", 'n')] false) args fun a => do
    if a.operands.isEmpty then
      Act.outLine ['0']
      return .exit 0
    else becoming launch "nice: " a.operands

/-- Start a program in a session of its own. -/
def setsid (launch : Launch) (args : List Raw) : Act Ending :=
  startingWith 1 "setsid" (Flags.of "cfw" [("fork", 'f'), ("wait", 'w')] false) args fun a => do
    if a.operands.isEmpty then return .exit (← misused "setsid" "no command specified")
    else match ← launch a.operands with
      | .ok e => return e
      | .error f =>
        Act.say ("setsid: failed to execute " ++ (a.operands.headD []).shown ++ ": " ++ f.words)
        return .exit (absence f)

/-- Start a program that keeps less of what it writes to itself. -/
def stdbuf (launch : Launch) (args : List Raw) : Act Ending :=
  let names := [("input", 'i'), ("output", 'o'), ("error", 'e')]
  startingWith 125 "stdbuf" (Flags.of "i:o:e:" names false) args fun a => do
    if a.operands.isEmpty then return .exit (← misused "stdbuf" "missing operand" 125)
    else if a.options.isEmpty then
      return .exit (← misused "stdbuf" "you must specify a buffering mode option" 125)
    else becoming launch "stdbuf: failed to run command " a.operands

/-- Start a program that is killed after some time. -/
def timeout (launch : Launch) (args : List Raw) : Act Ending :=
  let names := [("signal", 's'), ("kill-after", 'k'), ("preserve-status", 'p'),
    ("foreground", 'f'), ("verbose", 'v')]
  startingWith 125 "timeout" (Flags.of "s:k:v" names false) args fun a => do
    let wrongUse (message : String) : Act Ending := do
      return .exit (← misused "timeout" message 125)
    match a.operands with
    | [] | [_] => wrongUse "missing operand"
    | time :: words =>
      match span? time, Signal.ofText? 0 ((a.value? 's').getD (raw "TERM")) with
      | none, _ => wrongUse ("invalid time interval " ++ quoted time)
      | _, none => wrongUse (quoted ((a.value? 's').getD []) ++ ": invalid signal")
      | some t, some signal =>
        let outer := (← get).death
        let now := (← get).tree.now
        let own : Option (Nat × Nat) := match t with
          | some 0 | none => none
          | some n => some (now + n, signal)
        let isFirst : Bool := match own, outer with
          | some (n, _), some (m, _) => n < m
          | some _, none => true
          | none, _ => false
        if isFirst then modify fun s => { s with death := own }
        let e ← becoming launch "timeout: failed to run command " words
        let stop := (← get).tree.now
        let isOver := isFirst && own.any fun d => d.1 ≤ stop
        modify fun s => { s with death := outer }
        if !isOver then return e
        else
          if a.has 'v' then
            Act.say ("timeout: sending signal " ++ Signal.name signal ++ " to command " ++
              quoted (words.headD []))
          let status := match e with
            | .exit n => if a.has 'p' && n ≠ 0 then n else Signal.status signal
            | .killed n => Signal.status n
          return .exit (if a.has 'p' || signal = 9 then status else 124)

/-! ## Arguments from the input -/

/-- What a text has been parted into, the last item first. -/
structure Parted where
  items : List Raw := []
  /-- The item that is read, its last character first. -/
  here : Option Raw := none

/-- Part a text into words. Quotes and backslashes keep blanks in words; where only lines count, so
do blanks behind the start of a line. A quote that is left open is told. -/
def partWords (byLine : Bool) (p : Parted) : Raw → Except Char Parted
  | [] => .ok (close p)
  | '\\' :: c :: rest => partWords byLine (add p c) rest
  | c :: rest =>
    if c = '\'' ∨ c = '"' then
      let inner := rest.takeWhile fun d => d != c && d != '\n'
      match h : rest.drop inner.length with
      | d :: after =>
        if d = c then
          have : after.length < rest.length + 1 := by
            have := congrArg List.length h
            simp at this
            omega
          partWords byLine { p with here := some (inner.reverse ++ p.here.getD []) } after
        else .error c
      | [] => .error c
    else if c = '\n' then partWords byLine (close p) rest
    else if c = ' ' ∨ c = '\t' then
      if byLine && p.here.isSome then partWords byLine (add p c) rest
      else if byLine then partWords byLine p rest
      else partWords byLine (close p) rest
    else partWords byLine (add p c) rest
termination_by cs => cs.length
where
  /-- One more character. -/
  add (p : Parted) (c : Char) : Parted := { p with here := some (c :: p.here.getD []) }
  /-- The item that is read is at its end. -/
  close (p : Parted) : Parted :=
    match p.here with
    | some item => { items := item.reverse :: p.items }
    | none => p

/-- Lists of so many items. -/
def bunches (size : Nat) (items : List Raw) : Nat → List (List Raw)
  | 0 => []
  | fuel + 1 =>
    if items.isEmpty then []
    else items.take (max size 1) :: bunches size (items.drop (max size 1)) fuel

/-- A text with all places of a mark replaced. -/
def replaced (mark value : Raw) (text : Raw) : Nat → Raw
  | 0 => text
  | fuel + 1 =>
    match text with
    | [] => []
    | c :: rest =>
      if !mark.isEmpty && mark.isPrefixOf (c :: rest) then
        value ++ replaced mark value ((c :: rest).drop mark.length) fuel
      else c :: replaced mark value rest fuel

/-- How the programs have ended that were started one after the other. -/
structure Batch where
  status : Nat := 0
  isOver : Bool := false

/-- Start a program for items of the input. -/
def xargs (launch : Launch) (args : List Raw) : Act Ending :=
  let names := [("null", '0'), ("arg-file", 'a'), ("delimiter", 'd'), ("max-args", 'n'),
    ("no-run-if-empty", 'r'), ("verbose", 't'), ("max-procs", 'P'), ("replace", 'I'),
    ("max-lines", 'L'), ("exit", 'x'), ("max-chars", 's')]
  startingWith 1 "xargs" (Flags.of "0a:d:n:rtP:I:L:xs:" names false) args fun a => do
    let text ← match a.value? 'a' with
      | some path => readNamed path
      | none => Act.readAll 0
    match text with
    | .error f =>
      let path := (a.value? 'a').getD ['-']
      return .exit (← failed ("xargs: Cannot open input file " ++ quoted path ++ ": " ++ f.words))
    | .ok text =>
      let mark := a.value? 'I'
      let cut : Option Char := match a.last? ['0', 'd'] with
        | some '0' => some '\x00'
        | some _ => some ((escaped ((a.value? 'd').getD [])).1)
        | none => none
      let parted : Except Char (List Raw) := match cut with
        | some c =>
          let parts := partsOf c text
          .ok (if parts.getLast? = some [] then parts.dropLast else parts)
        | none => do return (← partWords mark.isSome {} text).items.reverse
      match parted with
      | .error c =>
        let kind := if c = '"' then "double" else "single"
        return .exit (← failed ("xargs: unmatched " ++ kind ++ " quote; by default quotes are " ++
          "special to xargs unless you use the -0 option"))
      | .ok items =>
        let words := if a.operands.isEmpty then [raw "echo"] else a.operands
        let number (c : Char) : Option Nat := (a.value? c).map Text.Decimal.value
        let lists : List (List Raw) :=
          match mark with
          | some m => items.map fun item =>
              words.map fun w => replaced m item w (w.length + 1)
          | none =>
            let size := (number 'n').getD items.length
            let byLine := (number 'L').map fun n =>
              bunches n (linesOf text |>.filter fun l => !l.isEmpty) (items.length + 1)
            let groups := match byLine with
              | some groups => groups.map fun ls =>
                  ls.flatMap fun l => match partWords false {} l with
                    | .ok p => p.items.reverse
                    | .error _ => []
              | none => bunches size items (items.length + 1)
            let groups := if groups.isEmpty && !a.has 'r' then [[]] else groups
            groups.map fun g => words ++ g
        let nowhere ← Act.newChannel .null
        modify fun s => if (a.value? 'a').isSome then s else s.connect 0 nowhere
        let b ← lists.foldlM (fun (b : Batch) (ws : List Raw) => do
          if b.isOver then return b
          if a.has 't' then Act.say (Raw.shown (List.intercalate [' '] ws))
          match ← launch ws with
          | .error f =>
            Act.say ("xargs: " ++ (ws.headD []).shown ++ ": " ++ f.words)
            return { status := absence f, isOver := true }
          | .ok (.exit 0) => return b
          | .ok (.exit 255) =>
            Act.say ("xargs: " ++ (ws.headD []).shown ++ ": exited with status 255; aborting")
            return { status := 124, isOver := true }
          | .ok (.exit _) => return { b with status := 123 }
          | .ok (.killed n) =>
            Act.say ("xargs: " ++ (ws.headD []).shown ++ ": terminated by signal " ++
              Text.Decimal.ofNat n)
            return { status := 125, isOver := true }) {}
        return .exit b.status

end AgentPulse.Shell.Program
