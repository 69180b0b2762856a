import AgentPulse.Log.Notice
import AgentPulse.Text.Alphanumeric
import AgentPulse.Text.Blank

/-!
# Log filters

A filter is a list of directives with commas between them. A directive is a level for everything, a
target and a level for it, or a target alone, which lets everything of that target pass. Of the
directives whose target is a start of where a notice comes from, the longest decides, and of two
with the same target the later one.
-/

namespace AgentPulse

namespace Level

/-- How many levels are at least as important: one for errors, five for traces. -/
def rank : Level → Nat
  | .error => 1
  | .warn => 2
  | .info => 3
  | .debug => 4
  | .trace => 5

end Level

namespace Log

/-- Why a filter cannot be read. -/
inductive FilterError where
  | badDirective
  | badLevel
  deriving DecidableEq, Repr

/-- The error in words. -/
def FilterError.message : FilterError → String
  | .badDirective => "invalid filter directive"
  | .badLevel => "error parsing level filter: expected one of \"off\", \"error\", \"warn\", " ++
      "\"info\", \"debug\", \"trace\", or a number 0-5"

/-- The levels that pass are those of at most a given rank. -/
abbrev Threshold := Nat

/-- The names of the thresholds, from nothing to everything. -/
def thresholdNames : List String := ["off", "error", "warn", "info", "debug", "trace"]

/-- A threshold by number, or by name in any case. -/
def threshold? (s : String) : Option Threshold :=
  match Text.Decimal.word? s with
  | some n => if n < thresholdNames.length then some n else none
  | none => thresholdNames.findIdx? fun name => name == s.toLower

/-- What passes of the notices of one target, or of all. -/
structure Directive where
  target : Option String
  threshold : Threshold
  deriving DecidableEq, Repr

/-- What passes where no level is given. -/
def everything : Threshold := Level.trace.rank

/-- Whether a directive may start with a character. Letters and digits of every script may. -/
def startsDirective (c : Char) : Bool :=
  Text.isAlphanumeric c || c == '-' || c == ':' || c == '_'

/-- Read one directive. Blanks around it do not count where its first character and its equals sign
are looked for, but they belong to the target and the level. -/
def Directive.ofText (s : String) : Except FilterError Directive :=
  let cs := s.toList
  let core := Text.trim cs
  if !core.head?.any startsDirective then .error .badDirective
  else match core.findIdx? (· == '=') with
    | none =>
      match threshold? s with
      | some t => .ok ⟨none, t⟩
      | none => .ok ⟨some s, everything⟩
    | some i =>
      let target := String.ofList (cs.take i)
      let level := String.ofList (cs.drop (i + 1))
      if level.isEmpty then .ok ⟨some target, everything⟩
      else match threshold? level with
        | some t => .ok ⟨some target, t⟩
        | none => .error .badLevel

/-- A list of directives. -/
abbrev Filter := List Directive

namespace Filter

/-- The parts of a text between commas. -/
def splitAtCommas (cs : List Char) : List (List Char) :=
  cs.foldr (fun c parts =>
    match parts with
    | [] => if c = ',' then [[], []] else [[c]]
    | part :: rest => if c = ',' then [] :: part :: rest else (c :: part) :: rest) [[]]

/-- Read a filter. Empty directives are passed over; with none left, errors pass. -/
def ofText (s : String) : Except FilterError Filter := do
  let parts := (splitAtCommas s.toList).filter fun part => !part.isEmpty
  if parts.isEmpty then return [⟨none, Level.error.rank⟩]
  else parts.mapM fun part => Directive.ofText (String.ofList part)

/-- How many characters of a target a directive asks for, if it applies to the target. A directive
for everything ranks below one with a target. -/
def Directive.specificity? (d : Directive) (target : String) : Option Nat :=
  match d.target with
  | none => some 0
  | some t => if t.toList.isPrefixOf target.toList then some (t.length + 1) else none

/-- The directive that decides about a target: the last of the most specific ones. -/
def deciding? (f : Filter) (target : String) : Option Directive :=
  let better (best : Option (Nat × Directive)) (d : Directive) : Option (Nat × Directive) :=
    match Directive.specificity? d target, best with
    | none, best => best
    | some n, none => some (n, d)
    | some n, some (m, b) => if m ≤ n then some (n, d) else some (m, b)
  (f.foldl better none).map (·.2)

/-- Whether a notice of a level passes that comes from a target. -/
def passes (f : Filter) (target : String) (level : Level) : Bool :=
  match deciding? f target with
  | some d => level.rank ≤ d.threshold
  | none => false

end Filter

end Log

end AgentPulse
