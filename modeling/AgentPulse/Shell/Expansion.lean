import AgentPulse.Shell.Builtin.Input
import AgentPulse.Shell.Builtin.Variables
import AgentPulse.Shell.Calculation
import AgentPulse.Shell.System

/-!
# Expansion

What stands in the place of a word. The parts of a word come to a row of stretches, and the row is
cut into fields, or it is taken as one text or as a pattern. How commands come to the output that
takes their place is given, because running commands is built upon expansion.
-/

namespace AgentPulse.Shell

/-- What commands write, without the line breaks at its end. -/
abbrev OutputOf := Command → Course Raw

/-- How a word is expanded. -/
structure Mode where
  /-- Whether the word becomes fields. -/
  isFull : Bool := false
  /-- Whether the word is a value, in which paths may stand behind colons. -/
  isAssigned : Bool := false
  /-- Whether plain text is cut at separators. -/
  inOperand : Bool := false

/-! ## Parameters -/

/-- What stands between all parameters in one text. -/
def separator (s : State) : Raw := ((s.valueOf? (raw "IFS")).getD [' ']).take 1

/-- All parameters. Where they become fields there are zeros between them. -/
def allParameters (s : State) (m : Mode) (name : Raw) (isQuoted : Bool) : Raw :=
  let isParted := if isQuoted then name == ['@'] else (s.valueOf? (raw "IFS")).isSome
  List.intercalate (if m.isFull && isParted then ['\x00'] else separator s) s.parameters

/-- The value of a parameter, if it has one. -/
def parameter? (s : State) (m : Mode) (name : Raw) (isQuoted : Bool) : Option Raw :=
  match name with
  | ['#'] => some (Text.Decimal.digits s.parameters.length)
  | ['?'] => some (Text.Decimal.digits s.status)
  | ['$'] => some (Text.Decimal.digits s.number)
  | ['-'] => some (Builtin.optionLetters s)
  | ['!'] => s.lastJob.map Text.Decimal.digits
  | ['@'] | ['*'] => some (allParameters s m name isQuoted)
  | name =>
    if name.all Char.isDigit then
      match Text.Decimal.value name with
      | 0 => some s.name
      | n + 1 => s.parameters[n]?
    else s.valueOf? name

/-- The value of a parameter as a row. -/
def valueRow (s : State) (name value : Raw) (isQuoted : Bool) : Row :=
  if !isQuoted then Row.ofText .atSeparators false value
  else if name = ['@'] ∧ s.parameters ≠ [] then Row.ofText .atBoundaries true value
  else Row.ofText .never true value

/-! ## Plain text -/

/-- The plain text at the front of a word. In a value it ends behind a colon. -/
def plainFront (isAssigned : Bool) : Word → Raw
  | .plain c :: rest => if isAssigned ∧ c = ':' then [c] else c :: plainFront isAssigned rest
  | _ => []

/-- The folder that a tilde at the front of a word stands for, and what follows it. The name behind
the tilde must not run into anything that is quoted or expanded. -/
def tilde? (s : State) (m : Mode) : Word → Option (Raw × Word)
  | .plain '~' :: rest => do
    let front := plainFront false rest
    let user := front.takeWhile fun c => c != '/' && !(m.isAssigned && c == ':')
    if user.length = front.length ∧ front.length < rest.length then none
    else
      let home ← if user.isEmpty then s.valueOf? (raw "HOME") else System.homeOf? user
      return (home, rest.drop user.length)
  | _ => none

/-- Whether a word goes on with all parameters by themselves in the quotes that start in front of
it. Where there are none, such quotes are no field. -/
def goesOnWithAll : Word → Bool
  | .parameter ['@'] .value [] true :: rest =>
    match rest with
    | .parameter _ _ _ true :: _ | .output _ true :: _ | .arithmetic _ true :: _ => false
    | _ => true
  | _ => false

/-! ## Words -/

/-- The value of an expression in text. -/
def calculate (text : Raw) : Course Int := do
  let s ← get
  let scope : Calculation.Variables := { outer := fun name => (s.valueOf? name).getD [] }
  match (Calculation.read text).bind fun c => c.value scope with
  | .error t => Course.fail (t.message text.shown)
  | .ok (n, vs) =>
    vs.assigned.reverse.forM fun a => Course.assign a.1 (raw (Text.Decimal.ofInt a.2))
    return n

mutual
/-- A word as a row. -/
def expand (output : OutputOf) (fuel : Nat) (m : Mode) (mayBeTilde : Bool) (w : Word) :
    Course Row :=
  match fuel with
  | 0 => Course.fail "Out of space"
  | fuel + 1 => do
    let s ← get
    match (if mayBeTilde then tilde? s m w else none), w with
    | some (home, rest), _ =>
      let more ← expand output fuel m false rest
      return Row.ofText .never true home ++ more
    | none, [] => return []
    | none, .plain c :: _ =>
      let text := plainFront m.isAssigned w
      let mayBeTilde := m.isAssigned && text.getLast? == some ':'
      let more ← expand output fuel m mayBeTilde (w.drop (max text.length 1))
      let cutting : Cutting := if m.inOperand then .atSeparators else .never
      return Row.ofText cutting false (if text.isEmpty then [c] else text) ++ more
    | none, .quoted cs :: rest =>
      let more ← expand output fuel m false rest
      let anchor := if cs.isEmpty && goesOnWithAll rest then [] else [⟨.never, [.anchor]⟩]
      return anchor ++ Row.ofText .never true cs ++ more
    | none, .parameter name operation operand isQuoted :: rest =>
      let row ← expandParameter output fuel m name operation operand isQuoted
      let more ← expand output fuel m false rest
      return row ++ more
    | none, .output body isQuoted :: rest =>
      let text ← output body
      let more ← expand output fuel m false rest
      return Row.ofText (if isQuoted then .never else .atSeparators) isQuoted text ++ more
    | none, .arithmetic expression isQuoted :: rest =>
      let row ← expand output fuel {} false expression
      let n ← calculate row.text
      let more ← expand output fuel m false rest
      return Row.ofText (if isQuoted then .never else .atSeparators) isQuoted
        (raw (Text.Decimal.ofInt n)) ++ more

/-- What an operation makes of a parameter. -/
def expandParameter (output : OutputOf) (fuel : Nat) (m : Mode) (name : Raw)
    (operation : Operation) (operand : Word) (isQuoted : Bool) : Course Row :=
  match fuel with
  | 0 => Course.fail "Out of space"
  | fuel + 1 => do
    let s ← get
    let value := parameter? s m name isQuoted
    let isAbsent (emptyToo : Bool) : Bool := match value with
      | none => true
      | some v => emptyToo && v.isEmpty
    let shown (s : State) (value : Raw) : Row := valueRow s name value isQuoted
    let inside : Course Row := expand output fuel { m with inOperand := !isQuoted } true operand
    let needed : Course Raw := match value with
      | some v => return v
      | none =>
        if s.hasOption 'u' then Course.fail (name.shown ++ ": parameter not set") else return []
    let trimmed (cut : Pattern → Raw → Raw) : Course Row := do
      let v ← needed
      if value.isNone then return []
      else
        let row ← expand output fuel {} true operand
        return shown s (cut row.pattern v)
    match operation with
    | .value =>
      let v ← needed
      return if value.isNone then [] else shown s v
    | .length =>
      let v ← needed
      return shown s (Text.Decimal.digits v.length)
    | .orElse emptyToo => if isAbsent emptyToo then inside else return shown s (value.getD [])
    | .instead emptyToo => if isAbsent emptyToo then return [] else inside
    | .orAssign emptyToo =>
      if isAbsent emptyToo then
        let row ← expand output fuel {} true operand
        Course.assign name row.text
        let s ← get
        return shown s ((parameter? s m name isQuoted).getD [])
      else return shown s (value.getD [])
    | .orFail emptyToo =>
      if isAbsent emptyToo then
        let row ← expand output fuel {} true operand
        let usual := "parameter not set" ++ if emptyToo then " or null" else ""
        let text := if operand.isEmpty then usual else Raw.shown row.text
        Course.fail (name.shown ++ ": " ++ text)
      else return shown s (value.getD [])
    | .trimStart longest => trimmed (Pattern.withoutStart · longest)
    | .trimEnd longest => trimmed (Pattern.withoutEnd · longest)
    | .unknown => Course.fail "Bad substitution"
end

/-- The fields that a word comes to. -/
def fieldsFor (output : OutputOf) (fuel : Nat) (w : Word) : Course (List Raw) := do
  let row ← expand output fuel { isFull := true } true w
  let s ← get
  let fields := fieldsOf (Builtin.separators s) row
  return if s.hasOption 'f' then fields.map Pattern.text else fields.flatMap (pathsFor s)

/-- The text that a word comes to. -/
def textFor (output : OutputOf) (fuel : Nat) (w : Word) : Course Raw := do
  let row ← expand output fuel {} true w
  return row.text

/-- The value that a word comes to. -/
def valueFor (output : OutputOf) (fuel : Nat) (w : Word) : Course Raw := do
  let row ← expand output fuel { isAssigned := true } true w
  return row.text

/-- The pattern that a word comes to. -/
def patternFor (output : OutputOf) (fuel : Nat) (w : Word) : Course Pattern := do
  let row ← expand output fuel {} true w
  return row.pattern

/-- The text that stands below a command, expanded. -/
def textBelow (output : OutputOf) (fuel : Nat) (w : Word) : Course Raw := do
  let row ← expand output fuel {} false w
  return row.text

/-- The arguments that a word comes to where it may be an assignment. -/
def argumentsFor (output : OutputOf) (fuel : Nat) (mayAssign : Bool) (w : Word) :
    Course (List Raw) := do
  match (if mayAssign then w.assignment? else none) with
  | some (name, value) =>
    let text ← valueFor output fuel value
    return [name ++ '=' :: text]
  | none => fieldsFor output fuel w

end AgentPulse.Shell
