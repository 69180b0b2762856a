import AgentPulse.Shell.Number

/-!
# Calculations

Integer expressions with variables and assignments, on 64-bit words that wrap around. `&&`, `||` and
the choice leave the operand alone that does not count.
-/

namespace AgentPulse.Shell

/-- An integer expression. -/
inductive Calculation where
  | number (n : Int)
  | named (name : Raw)
  | unary (op : String) (a : Calculation)
  | binary (op : String) (a b : Calculation)
  | choice (condition whenTrue whenFalse : Calculation)
  /-- Let a variable have a value, combined with its own where there is an operator. -/
  | assign (name : Raw) (op : String) (value : Calculation)
  deriving Inhabited

namespace Calculation

/-- Why an expression has no value. -/
inductive Trouble where
  | expectingPrimary
  | expectingEnd
  | expectingClose
  | expectingColon
  | divisionByZero
  | illegalNumber (text : Raw)
  deriving Repr

/-- The integer that a 64-bit word holds in the place of a larger one. -/
def wrap (n : Int) : Int := Int.bmod n UInt64.size

/-! ## Reading -/

/-- The operators by how tightly they bind, the loosest first. Longer ones stand before their own
beginnings. -/
def levels : List (List String) := [
  ["||"], ["&&"], ["|"], ["^"], ["&"], ["==", "!="], ["<=", ">=", "<", ">"], ["<<", ">>"],
  ["+", "-"], ["*", "/", "%"]]

/-- The operators that assign, longer ones first. -/
def assignments : List String :=
  ["<<=", ">>=", "+=", "-=", "*=", "/=", "%=", "&=", "|=", "^=", "="]

/-- Blanks. -/
def skip (cs : Raw) : Raw := cs.dropWhile fun c => c == ' ' || c == '\t' || c == '\n'

/-- The operator of a level that stands here. An operator does not count where it is the beginning
of a longer one. -/
def operator? (ops : List String) (cs : Raw) : Option String :=
  ops.find? fun op => op.toList.isPrefixOf cs &&
    (levels.flatten ++ assignments).all fun longer =>
      !(op.length < longer.length && longer.toList.isPrefixOf cs)

mutual
/-- An expression, assignments and choices included. -/
def readExpression (fuel : Nat) (cs : Raw) : Except Trouble (Calculation × Raw) := do
  match fuel with
  | 0 => .error .expectingPrimary
  | fuel + 1 =>
    let cs := skip cs
    let name := cs.takeWhile isNameChar
    let after := skip (cs.drop name.length)
    match name.head?.any isNameStart, operator? assignments after with
    | true, some op =>
      let (value, rest) ← readExpression fuel (after.drop op.length)
      return (.assign name (String.ofList (op.toList.dropLast)) value, rest)
    | _, _ => readChoice fuel cs

/-- An expression, choices included. -/
def readChoice (fuel : Nat) (cs : Raw) : Except Trouble (Calculation × Raw) := do
  match fuel with
  | 0 => .error .expectingPrimary
  | fuel + 1 =>
    let (condition, rest) ← readLevel fuel levels cs
    match skip rest with
    | '?' :: rest =>
      let (a, rest) ← readExpression fuel rest
      match skip rest with
      | ':' :: rest =>
        let (b, rest) ← readChoice fuel rest
        return (.choice condition a b, rest)
      | _ => .error .expectingColon
    | rest => return (condition, rest)

/-- An expression of the operators of some levels. -/
def readLevel (fuel : Nat) (levels : List (List String)) (cs : Raw) :
    Except Trouble (Calculation × Raw) := do
  match fuel, levels with
  | 0, _ => .error .expectingPrimary
  | fuel + 1, [] => readUnary fuel cs
  | fuel + 1, ops :: tighter =>
    let (first, rest) ← readLevel fuel tighter cs
    readMore fuel ops tighter first rest

/-- What the operators of one level join to an expression. -/
def readMore (fuel : Nat) (ops : List String) (tighter : List (List String)) (first : Calculation)
    (cs : Raw) : Except Trouble (Calculation × Raw) := do
  match fuel with
  | 0 => .error .expectingPrimary
  | fuel + 1 =>
    let cs := skip cs
    match operator? ops cs with
    | some op =>
      let (b, rest) ← readLevel fuel tighter (cs.drop op.length)
      readMore fuel ops tighter (.binary op first b) rest
    | none => return (first, cs)

/-- An expression that starts with a sign, or a number, a variable, or parentheses. -/
def readUnary (fuel : Nat) (cs : Raw) : Except Trouble (Calculation × Raw) := do
  match fuel with
  | 0 => .error .expectingPrimary
  | fuel + 1 =>
    match skip cs with
    | '(' :: rest =>
      let (e, rest) ← readExpression fuel rest
      match skip rest with
      | ')' :: rest => return (e, rest)
      | _ => .error .expectingClose
    | c :: rest =>
      if c = '-' ∨ c = '+' ∨ c = '!' ∨ c = '~' then
        let (e, rest) ← readUnary fuel rest
        return (.unary (String.singleton c) e, rest)
      else if c.isDigit then
        let n := scanInteger .marked (c :: rest)
        return (.number n.value, n.rest)
      else if isNameStart c then
        let name := (c :: rest).takeWhile isNameChar
        return (.named name, (c :: rest).drop name.length)
      else .error .expectingPrimary
    | [] => .error .expectingPrimary
end

/-- Read an expression to its end. -/
def read (cs : Raw) : Except Trouble Calculation := do
  let (e, rest) ← readExpression (16 * cs.length + 64) cs
  if (skip rest).isEmpty then return e else .error .expectingEnd

/-! ## Evaluating -/

/-- A condition as a number. -/
def truth (b : Bool) : Int := if b then 1 else 0

/-- Combine bits of 64-bit words. -/
def bitwise (f : UInt64 → UInt64 → UInt64) (a b : Int) : Int :=
  wrap (f (UInt64.ofInt a) (UInt64.ofInt b)).toNat

/-- The value of an operation on two values. -/
def binaryValue (op : String) (a b : Int) : Except Trouble Int :=
  match op with
  | "+" => .ok (wrap (a + b))
  | "-" => .ok (wrap (a - b))
  | "*" => .ok (wrap (a * b))
  | "/" => if b = 0 then .error .divisionByZero else .ok (wrap (Int.tdiv a b))
  | "%" => if b = 0 then .error .divisionByZero else .ok (wrap (Int.tmod a b))
  | "<<" => .ok (wrap (a * Nat.pow 2 (b % 64).toNat))
  | ">>" => .ok (a / Nat.pow 2 (b % 64).toNat)
  | "<" => .ok (truth (a < b))
  | "<=" => .ok (truth (a ≤ b))
  | ">" => .ok (truth (b < a))
  | ">=" => .ok (truth (b ≤ a))
  | "==" => .ok (truth (a = b))
  | "!=" => .ok (truth (a ≠ b))
  | "&" => .ok (bitwise (· &&& ·) a b)
  | "^" => .ok (bitwise (· ^^^ ·) a b)
  | "|" => .ok (bitwise (· ||| ·) a b)
  | _ => .error .expectingPrimary

/-- The variables of a calculation: how to look one up, and those assigned so far. -/
structure Variables where
  outer : Raw → Raw
  assigned : List (Raw × Int) := []

/-- The value of a variable. One without a value counts as zero. -/
def Variables.value (vs : Variables) (name : Raw) : Except Trouble Int :=
  match vs.assigned.find? fun a => a.1 == name with
  | some a => .ok a.2
  | none =>
    match integer? .marked (vs.outer name) with
    | some n => .ok n
    | none => .error (.illegalNumber (vs.outer name))

/-- The value of an expression, and the variables afterwards. -/
def value (vs : Variables) : Calculation → Except Trouble (Int × Variables)
  | .number n => .ok (n, vs)
  | .named name => do
    let n ← vs.value name
    return (n, vs)
  | .unary op a => do
    let (n, vs) ← value vs a
    match op with
    | "-" => return (wrap (-n), vs)
    | "!" => return (truth (n = 0), vs)
    | "~" => return (wrap (-n - 1), vs)
    | _ => return (n, vs)
  | .binary "&&" a b => do
    let (n, vs) ← value vs a
    if n = 0 then return (0, vs)
    else
      let (m, vs) ← value vs b
      return (truth (m ≠ 0), vs)
  | .binary "||" a b => do
    let (n, vs) ← value vs a
    if n ≠ 0 then return (1, vs)
    else
      let (m, vs) ← value vs b
      return (truth (m ≠ 0), vs)
  | .binary op a b => do
    let (n, vs) ← value vs a
    let (m, vs) ← value vs b
    let r ← binaryValue op n m
    return (r, vs)
  | .choice c a b => do
    let (n, vs) ← value vs c
    if n ≠ 0 then value vs a else value vs b
  | .assign name op e => do
    let (m, vs) ← value vs e
    let r ← if op.isEmpty then pure m else do
      let n ← vs.value name
      binaryValue op n m
    return (r, { vs with assigned := (name, r) :: vs.assigned })

/-- What is said about trouble with an expression. -/
def Trouble.message (t : Trouble) (expression : String) : String :=
  let about (what : String) := "arithmetic expression: " ++ what ++ ": \"" ++ expression ++ "\""
  match t with
  | .expectingPrimary => about "expecting primary"
  | .expectingEnd => about "expecting EOF"
  | .expectingClose => about "expecting ')'"
  | .expectingColon => about "expecting ':'"
  | .divisionByZero => about "division by zero"
  | .illegalNumber text => "Illegal number: " ++ text.shown

end Calculation

end AgentPulse.Shell
