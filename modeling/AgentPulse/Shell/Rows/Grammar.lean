import AgentPulse.Shell.Rows.Token

/-!
# Reading scripts for rows

The grammar by levels: the operators that bind loosest come first. Reading takes fuel, which a
script uses up by nesting.
-/

namespace AgentPulse.Shell.Rows

/-- Reading takes tokens off a list. -/
abbrev Reading := StateT (List (Token × Nat)) (Except String)

/-- Where an expression stands. -/
structure Spot where
  /-- Whether a sign that says more leads to a file. -/
  isPrinted : Bool := false
  /-- Whether the word for keys of arrays is left alone. -/
  isHead : Bool := false

namespace Reading

/-- Reading cannot go on at the next token. -/
def fail {α : Type} : Reading α := do
  match ← get with
  | (t, line) :: _ =>
    throw ("line " ++ Text.Decimal.ofNat line ++ ": syntax error at or near " ++ t.shown)
  | [] => throw "line 1: syntax error at or near end of line"

/-- The next token. -/
def peek : Reading (Option Token) := do return (← get).head?.map (·.1)

/-- Take the next token. -/
def advance : Reading Unit := modify fun ts => ts.drop 1

/-- Whether the next token is a mark. -/
def isAt (m : String) : Reading Bool := do
  match ← peek with
  | some (.mark n) => return m == n
  | _ => return false

/-- Take a mark if it comes next. -/
def eat (m : String) : Reading Bool := do
  if ← isAt m then
    advance
    return true
  else return false

/-- Take a mark. -/
def need (m : String) : Reading Unit := do if !(← eat m) then fail

/-- Take a word if it comes next. -/
def eatWord (w : String) : Reading Bool := do
  match ← peek with
  | some (.word v) =>
    if v = w then
      advance
      return true
    else return false
  | _ => return false

/-- Skip the ends of lines. -/
def skipLines : Reading Unit := modify fun ts => ts.dropWhile fun t => t.1 matches .newline

/-- Skip what may stand between statements. -/
def skipEnds : Reading Unit := modify fun ts => ts.dropWhile fun t =>
  match t.1 with
  | .newline => true
  | .mark m => m == ";"
  | _ => false

/-- Take a name. -/
def name : Reading Raw := do
  match ← peek with
  | some (.name n) =>
    advance
    return n
  | _ => fail

end Reading

open Reading

/-- Whether something may be put into an expression. -/
def Expr.isPlace : Expr → Bool
  | .named _ | .item _ _ | .cell _ => true
  | _ => false

/-- The relation of a mark. -/
def relation? (m : String) : Option Relation :=
  match m with
  | "<" => some .less
  | "<=" => some .atMost
  | "==" => some .same
  | "!=" => some .other
  | ">=" => some .atLeast
  | ">" => some .more
  | _ => none

/-- The operator in a mark that changes a place. -/
def updating? (m : String) : Option Char :=
  match m with
  | "+=" => some '+'
  | "-=" => some '-'
  | "*=" => some '*'
  | "/=" => some '/'
  | "%=" => some '%'
  | "^=" | "**=" => some '^'
  | _ => none

/-- Whether a value may start with a token that follows another value. -/
def Token.startsValue : Token → Bool
  | .number _ | .text _ | .pattern _ _ | .name _ | .call _ | .builtin _ => true
  | .mark m => ["$", "!", "(", "-", "+", "++", "--"].contains m
  | _ => false

mutual
/-- An expression. -/
def expr (s : Spot) : Nat → Reading Expr
  | 0 => fail
  | fuel + 1 => do
    let c ← chosen s fuel
    if !c.isPlace then return c
    else match ← peek with
      | some (.mark "=") =>
        advance
        skipLines
        return .assign c (← expr s fuel)
      | some (.mark m) =>
        match updating? m with
        | some op =>
          advance
          return .update op c (← expr s fuel)
        | none => return c
      | _ => return c

/-- A choice between two expressions. -/
def chosen (s : Spot) : Nat → Reading Expr
  | 0 => fail
  | fuel + 1 => do
    let c ← eitherOf s fuel
    if ← eat "?" then
      skipLines
      let a ← expr s fuel
      skipLines
      need ":"
      skipLines
      let b ← expr s fuel
      return .choose c a b
    else return c

/-- Expressions one of which holds. -/
def eitherOf (s : Spot) : Nat → Reading Expr
  | 0 => fail
  | fuel + 1 => do
    let a ← bothOf s fuel
    if ← eat "||" then return .either a (← eitherOf s fuel) else return a

/-- Expressions all of which hold. -/
def bothOf (s : Spot) : Nat → Reading Expr
  | 0 => fail
  | fuel + 1 => do
    let a ← keyed s fuel
    if ← eat "&&" then return .both a (← bothOf s fuel) else return a

/-- A key of an array. -/
def keyed (s : Spot) : Nat → Reading Expr
  | 0 => fail
  | fuel + 1 => do
    let a ← fitted s fuel
    if !s.isHead && (← eatWord "in") then
      let n ← name
      let keys := match a with
        | .group es => es
        | e => [e]
      return .contains keys n
    else return a

/-- A text and a pattern. -/
def fitted (s : Spot) : Nat → Reading Expr
  | 0 => fail
  | fuel + 1 => do
    let a ← compared s fuel
    if ← eat "~" then return .fits false a (← compared s fuel)
    else if ← eat "!~" then return .fits true a (← compared s fuel)
    else return a

/-- Two values compared, or a command that a row is read from. -/
def compared (s : Spot) : Nat → Reading Expr
  | 0 => fail
  | fuel + 1 => do
    let a ← joined s none fuel
    let a ← piped a fuel
    match ← peek with
    | some (.mark m) =>
      match relation? m with
      | none => return a
      | some r =>
        if s.isPrinted && r == .more then return a
        else
          advance
          let b ← joined s none fuel
          return .compared r a b
    | _ => return a

/-- A command that rows are read from. -/
def piped (a : Expr) : Nat → Reading Expr
  | 0 => fail
  | fuel + 1 => do
    match ← get with
    | (.mark "|", _) :: (.word "getline", _) :: rest =>
      set rest
      let target ← place? fuel
      piped (.readRow target .command (some a)) fuel
    | _ => return a

/-- A place to put a row in, if one stands here. -/
def place? : Nat → Reading (Option Expr)
  | 0 => fail
  | fuel + 1 => do
    match ← peek with
    | some (.name _) | some (.mark "$") => return some (← atom fuel)
    | _ => return none

/-- Values one behind the other, behind those read so far. -/
def joined (s : Spot) (before : Option Expr) : Nat → Reading Expr
  | 0 => fail
  | fuel + 1 => do
    let a ← added none fuel
    let a := match before with
      | none => a
      | some b => .joined b a
    match ← peek with
    | some (.mark "-") | some (.mark "+") | some (.mark "!") => return a
    | some t => if t.startsValue then joined s (some a) fuel else return a
    | none => return a

/-- Sums. -/
def added (before : Option (Char × Expr)) : Nat → Reading Expr
  | 0 => fail
  | fuel + 1 => do
    let a ← multiplied none fuel
    let a := match before with
      | none => a
      | some (op, b) => .computed op b a
    if ← eat "+" then added (some ('+', a)) fuel
    else if ← eat "-" then added (some ('-', a)) fuel
    else return a

/-- Products. -/
def multiplied (before : Option (Char × Expr)) : Nat → Reading Expr
  | 0 => fail
  | fuel + 1 => do
    let a ← signed fuel
    let a := match before with
      | none => a
      | some (op, b) => .computed op b a
    if ← eat "*" then multiplied (some ('*', a)) fuel
    else if ← eat "/" then multiplied (some ('/', a)) fuel
    else if ← eat "%" then multiplied (some ('%', a)) fuel
    else return a

/-- A value with signs in front. -/
def signed : Nat → Reading Expr
  | 0 => fail
  | fuel + 1 => do
    if ← eat "!" then return .opposite (← signed fuel)
    else if ← eat "-" then return .signed true (← signed fuel)
    else if ← eat "+" then return .signed false (← signed fuel)
    else
      let a ← counted fuel
      if (← eat "^") || (← eat "**") then return .computed '^' a (← signed fuel) else return a

/-- A place that is counted up or down, or any other value. -/
def counted : Nat → Reading Expr
  | 0 => fail
  | fuel + 1 => do
    if ← eat "++" then return .count true true (← atom fuel)
    else if ← eat "--" then return .count false true (← atom fuel)
    else
      let a ← atom fuel
      if !a.isPlace then return a
      else if ← eat "++" then return .count true false a
      else if ← eat "--" then return .count false false a
      else return a

/-- Expressions with commas between them, up to a closing mark. -/
def listed (s : Spot) (close : String) : Nat → Reading (List Expr)
  | 0 => fail
  | fuel + 1 => do
    skipLines
    if ← eat close then return []
    else
      let e ← expr s fuel
      skipLines
      if ← eat "," then return e :: (← listed s close fuel)
      else
        need close
        return [e]

/-- A value without operators. -/
def atom : Nat → Reading Expr
  | 0 => fail
  | fuel + 1 => do
    match ← peek with
    | some (.number x) =>
      advance
      return .number x
    | some (.text cs) =>
      advance
      return .text cs
    | some (.pattern r source) =>
      advance
      return .pattern r source
    | some (.name n) =>
      advance
      if ← eat "[" then return .item n (← listed {} "]" fuel) else return .named n
    | some (.call n) =>
      advance
      need "("
      return .call n (← listed {} ")" fuel)
    | some (.builtin w) =>
      advance
      if ← eat "(" then return .builtin w (← listed {} ")" fuel)
      else if w = "length" then return .builtin w []
      else fail
    | some (.word "getline") =>
      advance
      let target ← place? fuel
      if ← eat "<" then return .readRow target .file (some (← atom fuel))
      else return .readRow target .input none
    | some (.mark "$") =>
      advance
      if ← eat "++" then return .cell (.count true true (← atom fuel))
      else if ← eat "--" then return .cell (.count false true (← atom fuel))
      else if ← eat "-" then return .cell (.signed true (← atom fuel))
      else return .cell (← atom fuel)
    | some (.mark "(") =>
      advance
      let es ← listed {} ")" fuel
      if es.isEmpty then fail else return .group es
    | some (.mark "-") | some (.mark "+") | some (.mark "!") => signed fuel
    | _ => fail
end

/-- What is printed: expressions up to where the statement ends. -/
def printed (fuel : Nat) : Nat → Reading (List Expr)
  | 0 => fail
  | more + 1 => do
    let isOver : Bool := match ← peek with
      | none | some .newline => true
      | some (.mark m) => [";", "\x7d", ">", ">>", "|"].contains m
      | _ => false
    if isOver then return []
    else
      let e ← expr { isPrinted := true } fuel
      if ← eat "," then
        skipLines
        return e :: (← printed fuel more)
      else return [e]

/-- Where output goes, if that is said. -/
def outlet? (fuel : Nat) : Reading (Option Outlet) := do
  if ← eat ">" then return some (.file (← joined { isPrinted := true } none fuel))
  else if ← eat ">>" then return some (.fileEnd (← joined { isPrinted := true } none fuel))
  else if ← eat "|" then return some (.command (← joined { isPrinted := true } none fuel))
  else return none

/-- The expressions in a group that stands alone. -/
def ungrouped : List Expr → List Expr
  | [.group es] => es
  | es => es

/-- A statement that is no composition of others. -/
def simple (fuel : Nat) : Reading Statement := do
  match ← peek with
  | some (.word w) =>
    let optional : Reading (Option Expr) := do
      match ← peek with
      | none | some .newline | some (.mark ";") | some (.mark "\x7d") => return none
      | _ => return some (← expr {} fuel)
    match w with
    | "print" =>
      advance
      let es ← printed fuel fuel
      return .print (ungrouped es) (← outlet? fuel)
    | "printf" =>
      advance
      let es ← printed fuel fuel
      return .format (ungrouped es) (← outlet? fuel)
    | "next" =>
      advance
      return .next
    | "exit" =>
      advance
      return .exit (← optional)
    | "return" =>
      advance
      return .back (← optional)
    | "break" =>
      advance
      return .leave
    | "continue" =>
      advance
      return .again
    | "delete" =>
      advance
      let n ← name
      if ← eat "[" then return .remove n (← listed {} "]" fuel) else return .remove n []
    | _ => return .value (← expr {} fuel)
  | _ => return .value (← expr {} fuel)

/-- The end of a statement. -/
def ended : Reading Unit := do
  match ← peek with
  | none | some (.mark "\x7d") => return
  | some .newline | some (.mark ";") => skipEnds
  | _ => fail

mutual
/-- A statement. -/
def statement : Nat → Reading Statement
  | 0 => fail
  | fuel + 1 => do
    match ← peek with
    | some (.mark "\x7b") =>
      let s ← block fuel
      skipEnds
      return s
    | some (.mark ";") =>
      advance
      return .nothing
    | some (.word "if") =>
      advance
      need "("
      let c ← expr {} fuel
      need ")"
      skipLines
      let a ← statement fuel
      let before ← get
      skipEnds
      if ← eatWord "else" then
        skipLines
        return .branch c a (← statement fuel)
      else
        set before
        return .branch c a .nothing
    | some (.word "while") =>
      advance
      need "("
      let c ← expr {} fuel
      need ")"
      return .repeats (some c) (← body fuel) .nothing
    | some (.word "do") =>
      advance
      skipLines
      let s ← statement fuel
      skipEnds
      if !(← eatWord "while") then fail
      else
        need "("
        let c ← expr {} fuel
        need ")"
        ended
        return .atLeastOnce s c
    | some (.word "for") =>
      advance
      need "("
      match ← get with
      | (.name n, _) :: (.word "in", _) :: (.name a, _) :: (.mark ")", _) :: rest =>
        set rest
        return .forKeys n a (← body fuel)
      | _ =>
        let first ← if ← isAt ";" then pure .nothing else simple fuel
        need ";"
        skipLines
        let c ← if ← isAt ";" then pure none else some <$> expr {} fuel
        need ";"
        skipLines
        let step ← if ← isAt ")" then pure .nothing else simple fuel
        need ")"
        return .sequence [first, .repeats c (← body fuel) step]
    | _ =>
      let s ← simple fuel
      ended
      return s

/-- What a loop repeats. -/
def body : Nat → Reading Statement
  | 0 => fail
  | fuel + 1 => do
    if ← eat ";" then return .nothing
    else
      skipLines
      statement fuel

/-- Statements in braces. -/
def block : Nat → Reading Statement
  | 0 => fail
  | fuel + 1 => do
    need "\x7b"
    skipEnds
    return .sequence (← statements fuel)

/-- Statements up to a closing brace. -/
def statements : Nat → Reading (List Statement)
  | 0 => fail
  | fuel + 1 => do
    skipEnds
    if ← eat "\x7d" then return []
    else
      let s ← statement fuel
      return s :: (← statements fuel)
end

/-- Names with commas between them, up to a closing parenthesis. -/
def parameters : Nat → Reading (List Raw)
  | 0 => fail
  | fuel + 1 => do
    if ← eat ")" then return []
    else
      let n ← name
      let _ ← eat ","
      skipLines
      return n :: (← parameters fuel)

/-- Rules and functions up to the end, behind those read so far, the last one first. -/
def readRules (fuel : Nat) (ranges : Nat) (found : Script) : Nat → Reading Script
  | 0 => fail
  | more + 1 => do
    skipEnds
    let withRule (moment : Moment) (ranges : Nat) : Reading Script := do
      let isBlock ← isAt "\x7b"
      let s ← if isBlock then block fuel else pure (.print [] none)
      let needsBlock : Bool := moment matches .start | .finish
      if needsBlock && !isBlock then fail
      else readRules fuel ranges { found with rules := ⟨moment, s⟩ :: found.rules } more
    match ← peek with
    | none => return { found with rules := found.rules.reverse }
    | some (.word "BEGIN") =>
      advance
      withRule .start ranges
    | some (.word "END") =>
      advance
      withRule .finish ranges
    | some (.word "function") | some (.word "func") =>
      advance
      match ← peek with
      | some (.call n) | some (.name n) =>
        advance
        need "("
        let ps ← parameters fuel
        skipLines
        let body ← block fuel
        let functions := (n, { parameters := ps, body }) :: found.functions
        readRules fuel ranges { found with functions } more
      | _ => fail
    | some (.mark "\x7b") => withRule .always ranges
    | _ =>
      let first ← expr {} fuel
      if ← eat "," then
        skipLines
        let last ← expr {} fuel
        withRule (.range ranges first last) (ranges + 1)
      else withRule (.whenever first) ranges

/-- Read a script. -/
def Script.read (cs : Raw) : Except String Script := do
  let ts ← tokensOf cs
  let fuel := 24 * ts.length + 64
  let (s, _) ← (readRules fuel 0 {} (ts.length + 2)).run ts
  return s

end AgentPulse.Shell.Rows
