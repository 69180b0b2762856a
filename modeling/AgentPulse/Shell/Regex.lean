import AgentPulse.Shell.Escape
import AgentPulse.Shell.Pattern
import AgentPulse.Text.Decimal

/-!
# Regular expressions

Expressions in two spellings: in the extended one operators stand for themselves, in the basic one
most of them have a backslash in front. Of all that matches at a place the longest match counts.
-/

namespace AgentPulse.Shell

/-- A regular expression. -/
inductive Regex where
  | empty
  /-- One character of a kind. -/
  | one (p : Char → Bool)
  | lineStart
  | lineEnd
  | wordStart
  | wordEnd
  /-- The edge of a word, or anything but that. -/
  | edge (isEdge : Bool)
  /-- What matches here is kept by a number. -/
  | group (n : Nat) (r : Regex)
  /-- The same text as the group of a number. -/
  | same (n : Nat)
  | next (a b : Regex)
  | either (a b : Regex)
  | times (low : Nat) (high : Option Nat) (r : Regex)
  deriving Inhabited

namespace Regex

/-- How an expression is spelled, and what its characters stand for. -/
structure Dialect where
  isExtended : Bool := false
  /-- Whether letters of either case count as the same. -/
  foldsCase : Bool := false
  /-- Whether a backslash is an escape in a set, and may stand for a control character. -/
  hasEscapes : Bool := false

/-- A character of a kind, or of the other case where that counts as the same. -/
def Dialect.kind (d : Dialect) (p : Char → Bool) : Char → Bool :=
  if d.foldsCase then fun c => p c || p c.toLower || p c.toUpper else p

/-- Whether a character may be in a word. -/
def isWordChar (c : Char) : Bool := c.isAlphanum || c == '_'

/-! ## Reading -/

/-- The items of a set up to its end, and what follows. -/
def readItems (d : Dialect) (isFirst : Bool) (cs : Raw) :
    Nat → Except String ((Char → Bool) × Raw)
  | 0 => .error "Unmatched [, [^, [:, [., or [="
  | fuel + 1 =>
    let more (p : Char → Bool) (rest : Raw) : Except String ((Char → Bool) × Raw) := do
      let (q, rest) ← readItems d false rest fuel
      return (fun c => p c || q c, rest)
    let range (a : Char) (rest : Raw) : Except String ((Char → Bool) × Raw) :=
      match rest with
      | '-' :: b :: after =>
        if b = ']' then more (· == a) rest
        else if b < a then .error "Invalid range end"
        else more (fun c => a ≤ c && c ≤ b) after
      | rest => more (· == a) rest
    match cs with
    | [] => .error "Unmatched [, [^, [:, [., or [="
    | ']' :: rest => if isFirst then range ']' rest else .ok (fun _ => false, rest)
    | '[' :: ':' :: rest =>
      let name := rest.takeWhile (· != ':')
      match rest.drop name.length with
      | ':' :: ']' :: after =>
        match Pattern.namedClass? (String.ofList name) with
        | some p => more p after
        | none => .error "Invalid character class name"
      | _ => range '[' (':' :: rest)
    | '[' :: '=' :: c :: '=' :: ']' :: rest => more (· == c) rest
    | '[' :: '.' :: c :: '.' :: ']' :: rest => range c rest
    | '\\' :: e :: rest =>
      if d.hasEscapes then
        let (c, rest) := escaped (e :: rest)
        if c = '\\' ∧ e ≠ '\\' then range e (rest.drop 1) else range c rest
      else range '\\' (e :: rest)
    | c :: rest => range c rest

/-- A set from behind its bracket. -/
def readSet (d : Dialect) (cs : Raw) : Except String (Regex × Raw) := do
  let (isOpposite, cs) := match cs with
    | '^' :: rest => (true, rest)
    | rest => (false, rest)
  let (p, rest) ← readItems d true cs (cs.length + 1)
  let p := d.kind p
  return (.one fun c => p c != isOpposite, rest)

/-- What is left of an expression while it is read, and how many groups there are so far. -/
structure Reader where
  rest : Raw
  groups : Nat := 0

/-- The bounds of a repetition from behind the opening brace, and what follows them. -/
def readBounds (d : Dialect) (cs : Raw) : Option (Nat × Option Nat × Raw) :=
  let low := cs.takeWhile Char.isDigit
  let rest := cs.drop low.length
  let (high, rest) : Option Nat × Raw := match rest with
    | ',' :: more =>
      let ds := more.takeWhile Char.isDigit
      (if ds.isEmpty then none else some (Text.Decimal.value ds), more.drop ds.length)
    | rest => (some (Text.Decimal.value low), rest)
  let isBare := low.isEmpty && !(cs.head? = some ',')
  let after := if d.isExtended then
      match rest with
      | '}' :: after => some after
      | _ => none
    else match rest with
      | '\\' :: '}' :: after => some after
      | _ => none
  if isBare then none else after.map fun after => (Text.Decimal.value low, high, after)

/-- The repetition that stands here, and what follows it. -/
def readTimes? (d : Dialect) (cs : Raw) : Except String (Option (Nat × Option Nat × Raw)) :=
  match d.isExtended, cs with
  | _, '*' :: rest => .ok (some (0, none, rest))
  | true, '+' :: rest | false, '\\' :: '+' :: rest => .ok (some (1, none, rest))
  | true, '?' :: rest | false, '\\' :: '?' :: rest => .ok (some (0, some 1, rest))
  | true, '{' :: rest => .ok (readBounds d rest)
  | false, '\\' :: '{' :: rest =>
    match readBounds d rest with
    | some r => .ok (some r)
    | none => .error "Invalid content of \\\x7b\\\x7d"
  | _, _ => .ok none

/-- The repetitions behind an expression. -/
def readRepeated (d : Dialect) (r : Regex) (cs : Raw) : Nat → Except String (Regex × Raw)
  | 0 => .ok (r, cs)
  | fuel + 1 => do
    match ← readTimes? d cs with
    | some (low, high, rest) =>
      if high.any (· < low) then .error "Invalid content of \\\x7b\\\x7d"
      else readRepeated d (.times low high r) rest fuel
    | none => return (r, cs)

/-- What a backslash and the character behind it stand for, where both spellings agree. -/
def readEscape (d : Dialect) (e : Char) : Regex :=
  match e with
  | 'w' => .one isWordChar
  | 'W' => .one fun c => !isWordChar c
  | 's' => .one fun c => c == ' ' || ('\t' ≤ c && c ≤ '\r')
  | 'S' => .one fun c => !(c == ' ' || ('\t' ≤ c && c ≤ '\r'))
  | 'b' => .edge true
  | 'B' => .edge false
  | '<' => .wordStart
  | '>' => .wordEnd
  | '`' => .lineStart
  | '\'' => .lineEnd
  | 'n' => .one (· == '\n')
  | 't' => .one (· == '\t')
  | e => .one (d.kind (· == e))

mutual
/-- Alternatives, up to the end or a closing parenthesis. -/
def readEither (d : Dialect) (isInside : Bool) (x : Reader) :
    Nat → Except String (Regex × Reader)
  | 0 => .error "Regular expression too big"
  | fuel + 1 => do
    let (a, x) ← readNext d isInside true .empty x fuel
    match d.isExtended, x.rest with
    | true, '|' :: rest | false, '\\' :: '|' :: rest =>
      let (b, x) ← readEither d isInside { x with rest } fuel
      return (.either a b, x)
    | _, _ => return (a, x)

/-- Expressions one behind the other, behind those read so far. -/
def readNext (d : Dialect) (isInside isFirst : Bool) (before : Regex) (x : Reader) :
    Nat → Except String (Regex × Reader)
  | 0 => .error "Regular expression too big"
  | fuel + 1 => do
    let more (r : Regex) (x : Reader) : Except String (Regex × Reader) := do
      let (r, rest) ← readRepeated d r x.rest (x.rest.length + 1)
      let before := match before with
        | .empty => r
        | b => .next b r
      readNext d isInside false before { x with rest } fuel
    let alone (r : Regex) (rest : Raw) : Except String (Regex × Reader) :=
      let before := match before with
        | .empty => r
        | b => .next b r
      readNext d isInside true before { x with rest } fuel
    let group (rest : Raw) : Except String (Regex × Reader) := do
      let n := x.groups + 1
      let (r, y) ← readEither d true { rest, groups := n } fuel
      match d.isExtended, y.rest with
      | true, ')' :: rest | false, '\\' :: ')' :: rest => more (.group n r) { y with rest }
      | _, _ => .error "Unmatched ( or \\("
    let plain (c : Char) (rest : Raw) : Except String (Regex × Reader) :=
      more (.one (d.kind (· == c))) { x with rest }
    match x.rest with
    | [] => return (before, x)
    | '[' :: rest => do
      let (r, rest) ← readSet d rest
      more r { x with rest }
    | '.' :: rest => more (.one fun _ => true) { x with rest }
    | '\\' :: [] => .error "Trailing backslash"
    | '\\' :: e :: rest =>
      if !d.isExtended && e = '(' then group rest
      else if !d.isExtended && e = ')' then
        if isInside then return (before, x) else .error "Unmatched ) or \\)"
      else if !d.isExtended && e = '|' then return (before, x)
      else if !d.isExtended && e = '{' && isFirst then
        .error "Invalid preceding regular expression"
      else if '1' ≤ e ∧ e ≤ '9' ∧ !d.hasEscapes then
        let n := e.toNat - '0'.toNat
        if x.groups < n then .error "Invalid back reference" else more (.same n) { x with rest }
      else if d.hasEscapes then
        let (c, after) := escaped (e :: rest)
        if c = '\\' ∧ e ≠ '\\' then more (.one (d.kind (· == e))) { x with rest }
        else plain c after
      else more (readEscape d e) { x with rest }
    | '*' :: rest =>
      if isFirst then plain '*' rest else more before { x with rest := '*' :: rest }
    | '^' :: rest =>
      if d.isExtended || isFirst then alone .lineStart rest else plain '^' rest
    | '$' :: rest =>
      let isEnd := d.isExtended || match rest with
        | [] => true
        | '\\' :: ')' :: _ | '\\' :: '|' :: _ => true
        | _ => false
      if isEnd then more .lineEnd { x with rest } else plain '$' rest
    | c :: rest =>
      if !d.isExtended then plain c rest
      else if c = '(' then group rest
      else if c = ')' then if isInside then return (before, x) else .error "Unmatched ) or \\)"
      else if c = '|' then return (before, x)
      else if (c = '+' ∨ c = '?') ∧ isFirst then plain c rest
      else plain c rest
end

/-- Read an expression. -/
def read (d : Dialect) (cs : Raw) : Except String Regex := do
  let (r, x) ← readEither d false { rest := cs } (4 * cs.length + 8)
  if x.rest.isEmpty then return r else .error "Unmatched ) or \\)"

/-- The expression that stands for a text itself. -/
def ofText (d : Dialect) (cs : Raw) : Regex :=
  cs.foldr (fun c r => .next (.one (d.kind (· == c))) r) .empty

/-! ## Matching -/

/-- A match: its start, its end, and where groups start and end, the last one first. -/
structure Match where
  start : Nat
  stop : Nat
  groups : List (Nat × Nat × Nat) := []
  deriving Repr, Inhabited

/-- What is still to be matched. -/
inductive Todo where
  | part (r : Regex)
  /-- The group of a number, which started at a place, ends here. -/
  | close (n start : Nat)
  /-- A repetition goes on, unless nothing was matched since a place. -/
  | again (low : Nat) (high : Option Nat) (r : Regex) (since : Nat)

/-- What a search at a place has come to. -/
structure Attempt where
  /-- How many steps may still be taken. -/
  steps : Nat
  best : Option Match := none

/-- Whether the longest of several matches has to be looked for. -/
def hasChoice : Regex → Bool
  | .either _ _ => true
  | .group _ r | .times _ _ r => r.hasChoice
  | .next a b => a.hasChoice || b.hasChoice
  | _ => false

/-- Whether a word starts or ends at a place. -/
def isEdge (text : Array Char) (i : Nat) : Bool × Bool :=
  let before := i != 0 && (text[i - 1]?).any isWordChar
  let behind := (text[i]?).any isWordChar
  (!before && behind, before && !behind)

/-- Match what is to be matched from a place on; a match that is longer than the best one so far
takes its place. -/
def go (text : Array Char) (isChoosy notFirst : Bool) (start : Nat) :
    Nat → List Todo → Nat → List (Nat × Nat × Nat) → Attempt → Attempt
  | 0, _, _, _, a => a
  | fuel + 1, todo, i, groups, a =>
    let isDone := a.steps = 0 || a.best.any fun m => !isChoosy || m.stop == text.size
    if isDone then a
    else
      let a := { a with steps := a.steps - 1 }
      let on (todo : List Todo) (i : Nat) (groups : List (Nat × Nat × Nat)) (a : Attempt) :=
        go text isChoosy notFirst start fuel todo i groups a
      match todo with
      | [] =>
        if a.best.any fun m => i ≤ m.stop then a
        else { a with best := some { start, stop := i, groups } }
      | .close n since :: todo => on todo i ((n, since, i) :: groups) a
      | .again low high r since :: todo =>
        if i = since ∧ low = 0 then on todo i groups a
        else on (.part (.times low high r) :: todo) i groups a
      | .part r :: todo =>
        match r with
        | .empty => on todo i groups a
        | .one p => if (text[i]?).any p then on todo (i + 1) groups a else a
        | .lineStart => if i = 0 ∧ !notFirst then on todo i groups a else a
        | .lineEnd => if i = text.size then on todo i groups a else a
        | .wordStart => if (isEdge text i).1 then on todo i groups a else a
        | .wordEnd => if (isEdge text i).2 then on todo i groups a else a
        | .edge wanted =>
          let (s, e) := isEdge text i
          if (s || e) == wanted then on todo i groups a else a
        | .group n r => on (.part r :: .close n i :: todo) i groups a
        | .same n =>
          match groups.lookup n with
          | none => a
          | some (s, e) =>
            let size := e - s
            if text.extract s e == text.extract i (i + size) then on todo (i + size) groups a
            else a
        | .next x y => on (.part x :: .part y :: todo) i groups a
        | .either x y => on (.part y :: todo) i groups (on (.part x :: todo) i groups a)
        | .times low high r =>
          if high = some 0 then on todo i groups a
          else
            let once := .part r :: .again (low - 1) (high.map (· - 1)) r i :: todo
            if 0 < low then on once i groups a
            else on todo i groups (on once i groups a)

/-- More than a match needs. -/
def matchFuel : Nat := 1 <<< 32

/-- How many steps a search may take at one place. -/
def maxSteps : Nat := 1 <<< 18

/-- The match at a place, if there is one. -/
def matchAt? (r : Regex) (text : Array Char) (i : Nat) (notFirst : Bool := false) :
    Option Match :=
  (go text r.hasChoice notFirst i matchFuel [.part r] i [] { steps := maxSteps }).best

/-- The first match from a place on, looked for at so many places. -/
def searchFrom (r : Regex) (text : Array Char) (notFirst : Bool) (i : Nat) : Nat → Option Match
  | 0 => none
  | fuel + 1 =>
    match r.matchAt? text i notFirst with
    | some m => some m
    | none => searchFrom r text notFirst (i + 1) fuel

/-- The first match from a place on. -/
def search? (r : Regex) (text : Array Char) (i : Nat := 0) (notFirst : Bool := false) :
    Option Match := searchFrom r text notFirst i (text.size + 1 - i)

/-- Whether an expression matches anywhere in a text. -/
def isIn (r : Regex) (text : Raw) : Bool := (r.search? text.toArray).isSome

/-- The text of a match. -/
def Match.text (m : Match) (text : Array Char) : Raw := (text.extract m.start m.stop).toList

/-- The text of a group of a match; group 0 is all of it. -/
def Match.group (m : Match) (text : Array Char) (n : Nat) : Raw :=
  if n = 0 then m.text text
  else match m.groups.lookup n with
    | some (s, e) => (text.extract s e).toList
    | none => []

/-- All matches in a text that do not overlap, from a place on. An empty match right behind another
does not count. -/
def allFrom (r : Regex) (text : Array Char) (i : Nat) (last : Option Nat) : Nat → List Match
  | 0 => []
  | fuel + 1 =>
    if text.size < i then []
    else match r.search? text i with
      | none => []
      | some m =>
        if m.start = m.stop then
          if last = some m.start then allFrom r text (m.stop + 1) none fuel
          else m :: allFrom r text (m.stop + 1) none fuel
        else m :: allFrom r text m.stop (some m.stop) fuel

/-- All matches in a text that do not overlap. -/
def all (r : Regex) (text : Array Char) : List Match := allFrom r text 0 none (text.size + 2)

end Regex

end AgentPulse.Shell
