import AgentPulse.Shell.Script

/-!
# Patterns

In a pattern `*` stands for any text, `?` for any character, and a set in brackets for one of the
characters in it, or for one that is not where it starts with `!`. Characters that were quoted stand
for themselves, and so do those behind a backslash.
-/

namespace AgentPulse.Shell

/-- A character of a pattern, and whether it was quoted. -/
structure Glyph where
  char : Char
  isQuoted : Bool
  deriving DecidableEq, Repr, Inhabited

/-- A pattern. -/
abbrev Pattern := List Glyph

/-- Text in which nothing is special, as a pattern. -/
def Pattern.ofText (cs : Raw) : Pattern := cs.map fun c => ⟨c, true⟩

namespace Pattern

/-- The characters of a pattern. -/
def text (p : Pattern) : Raw := p.map Glyph.char

/-- Whether a glyph is a special character. -/
def isSpecial (g : Glyph) (c : Char) : Bool := !g.isQuoted && g.char == c

/-- The same pattern without backslashes: what is behind them counts as quoted. -/
def resolved : Pattern → Pattern
  | g :: h :: rest =>
    if isSpecial g '\\' then ⟨h.char, true⟩ :: resolved rest else g :: resolved (h :: rest)
  | p => p

/-! ## Sets -/

/-- The classes of characters that have a name. -/
def namedClass? (name : String) : Option (Char → Bool) :=
  match name with
  | "upper" => some Char.isUpper
  | "lower" => some Char.isLower
  | "digit" => some Char.isDigit
  | "xdigit" => some fun c => c.isDigit || ('a' ≤ c && c ≤ 'f') || ('A' ≤ c && c ≤ 'F')
  | "alpha" => some Char.isAlpha
  | "alnum" => some Char.isAlphanum
  | "space" => some fun c => c == ' ' || ('\t' ≤ c && c ≤ '\r')
  | "blank" => some fun c => c == ' ' || c == '\t'
  | "cntrl" => some fun c => c < ' ' || c == '\x7f'
  | "punct" => some fun c => '!' ≤ c && c ≤ '~' && !c.isAlphanum
  | "graph" => some fun c => '!' ≤ c && c ≤ '~'
  | "print" => some fun c => ' ' ≤ c && c ≤ '~'
  | _ => none

/-- The class that is named behind a bracket in a set, and what follows it. -/
def classAt? (p : Pattern) : Option ((Char → Bool) × Pattern) := do
  let colon :: rest := p | none
  if !isSpecial colon ':' then none
  let name := rest.takeWhile fun g => !g.isQuoted && g.char.isAlpha
  let f ← namedClass? (String.ofList (Pattern.text name))
  match rest.drop name.length with
  | c :: b :: after => if isSpecial c ':' && isSpecial b ']' then some (f, after) else none
  | _ => none

/-- Where a byte stands in ranges: those with the highest bit come before all others. -/
def rank (c : Char) : Int := if c.toNat < 128 then c.toNat else (c.toNat : Int) - 256

/-- Whether a character is in a set, from behind its bracket, or has been found there already, and
what follows the set, if it ends. What comes first belongs to the set. -/
def inSet? (c : Char) (found : Bool) (p : Pattern) : Nat → Option (Bool × Pattern)
  | 0 => none
  | fuel + 1 =>
    let next (found : Bool) (p : Pattern) : Option (Bool × Pattern) :=
      match p with
      | [] => none
      | g :: rest => if isSpecial g ']' then some (found, rest) else inSet? c found p fuel
    match p with
    | [] => none
    | g :: rest =>
      match (if isSpecial g '[' then classAt? rest else none), rest with
      | some (f, after), _ => next (found || f c) after
      | none, d :: h :: after =>
        if isSpecial d '-' && !isSpecial h ']' then
          next (found || (rank g.char ≤ rank c && rank c ≤ rank h.char)) after
        else next (found || g.char == c) rest
      | none, rest => next (found || g.char == c) rest

/-- Whether a set that starts here, behind its bracket, stands for a character, and what follows
it. -/
def set? (c : Char) (p : Pattern) : Option (Bool × Pattern) :=
  let (isOpposite, p) := match p with
    | g :: rest => if isSpecial g '!' then (true, rest) else (false, p)
    | [] => (false, p)
  (inSet? c false p p.length).map fun r => (r.1 != isOpposite, r.2)

/-! ## Matching -/

/-- Whether a pattern without backslashes stands for a text. The fuel bounds the length of both
together. -/
def fits (fuel : Nat) (p : Pattern) (cs : Raw) : Bool :=
  match fuel with
  | 0 => false
  | fuel + 1 =>
    match p, cs with
    | [], cs => cs.isEmpty
    | g :: rest, cs =>
      if isSpecial g '*' then
        fits fuel rest cs || match cs with
          | [] => false
          | _ :: more => fits fuel (g :: rest) more
      else match cs with
        | [] => false
        | c :: more =>
          if isSpecial g '?' then fits fuel rest more
          else match (if isSpecial g '[' then set? c rest else none) with
            | some (isIn, rest) => isIn && fits fuel rest more
            | none => g.char == c && fits fuel rest more

/-- Whether a pattern stands for a text. -/
def standsFor (p : Pattern) (cs : Raw) : Bool := fits (p.length + cs.length + 1) p.resolved cs

/-- Whether a set that starts here, behind its bracket, comes to an end. -/
def closesSet (p : Pattern) : Bool :=
  let p := match p with
    | g :: rest => if isSpecial g '!' then rest else p
    | [] => p
  (p.drop 1).any fun g => isSpecial g ']'

/-- Whether a pattern without backslashes has any special character. -/
def hasSpecial : Pattern → Bool
  | [] => false
  | g :: rest =>
    isSpecial g '*' || isSpecial g '?' || (isSpecial g '[' && closesSet rest) || hasSpecial rest

/-! ## Parts of a text -/

/-- What a text is cut down to by a pattern for its start. The text is looked at up to the first
zero. -/
def withoutStart (p : Pattern) (longest : Bool) (cs : Raw) : Raw :=
  let upTo (n : Nat) : Raw := (cs.take n).takeWhile (· != '\x00')
  let sizes := List.range ((if longest then cs else upTo cs.length).length + 1)
  let sizes := if longest then sizes.reverse else sizes
  match sizes.find? fun n => p.standsFor (upTo n) with
  | some n => cs.drop n
  | none => cs

/-- What a text is cut down to by a pattern for its end. -/
def withoutEnd (p : Pattern) (longest : Bool) (cs : Raw) : Raw :=
  let behind (n : Nat) : Raw := (cs.drop n).takeWhile (· != '\x00')
  let sizes := List.range ((if longest then behind 0 else cs).length + 1)
  let sizes := if longest then sizes else sizes.reverse
  match sizes.find? fun n => p.standsFor (behind n) with
  | some n => cs.take n
  | none => cs

end Pattern

end AgentPulse.Shell
