import AgentPulse.Shell.Pattern
import AgentPulse.Shell.State

/-!
# From words to fields

A word that has been expanded is a row of stretches. Some are cut into fields wherever a separator
stands, some only where one parameter ends and the next starts, and some not at all. `fieldsOf` cuts
a row, and `pathsFor` replaces a pattern by the paths that it stands for.
-/

namespace AgentPulse.Shell

/-- One bit of an expanded word. -/
inductive Bit where
  | glyph (g : Glyph)
  /-- There is a field here, even if nothing is in it. -/
  | anchor
  /-- One of several parameters ends here. -/
  | boundary
  deriving DecidableEq, Repr

/-- Where fields may end in a stretch. -/
inductive Cutting where
  | never
  | atSeparators
  | atBoundaries
  deriving DecidableEq, Repr

/-- Bits of one origin. -/
structure Stretch where
  cutting : Cutting
  bits : List Bit
  deriving DecidableEq, Repr

/-- An expanded word. -/
abbrev Row := List Stretch

namespace Row

/-- Text as a row of one stretch, in which zeros are boundaries. -/
def ofText (cutting : Cutting) (isQuoted : Bool) (cs : Raw) : Row :=
  [⟨cutting, cs.map fun c => if c = '\x00' then .boundary else .glyph ⟨c, isQuoted⟩⟩]

/-- The glyphs of a row without regard to fields. -/
def pattern (row : Row) : Pattern :=
  row.flatMap fun s => s.bits.filterMap fun
    | .glyph g => some g
    | _ => none

/-- The characters of a row without regard to fields. -/
def text (row : Row) : Raw := row.pattern.text

end Row

/-- The characters that separate fields where nothing else is said. -/
def usualSeparators : Raw := [' ', '\t', '\n']

/-- Fields that are being cut off a row. -/
structure Cut where
  /-- The fields so far, the last one first. -/
  fields : List Pattern := []
  /-- The glyphs of the field that has been reached, the last one first. -/
  here : Pattern := []
  /-- How many bits there are in it. -/
  size : Nat := 0
  /-- Whether a blank separator came last, which joins with one that is not blank. -/
  isBlank : Bool := false
  /-- Whether the stretch is cut only at boundaries, and whether the one before was. -/
  isParted : Bool := false
  wasParted : Bool := false
  /-- How many fields may still be cut off, where there is a bound. -/
  limit : Option Nat := none
  /-- How much of the last field is to be kept. -/
  kept : Option Nat := none
  deriving Inhabited

namespace Cut

/-- Start a stretch. -/
def enter (c : Cut) (cutting : Cutting) : Cut :=
  match cutting with
  | .never => c
  | cutting =>
    { c with isBlank := false, wasParted := c.isParted, isParted := cutting == .atBoundaries }

/-- Add a bit to the field. -/
def keep (c : Cut) (b : Bit) : Cut :=
  match b with
  | .glyph g => { c with here := g :: c.here, size := c.size + 1 }
  | _ => { c with size := c.size + 1 }

/-- Start a new field, without regard to what was in this one. -/
def restart (c : Cut) : Cut := { c with here := [], size := 0 }

/-- The field ends here. -/
def close (c : Cut) : Cut := { c with fields := c.here.reverse :: c.fields }.restart

/-- Pass a bit of a stretch that may be cut. -/
def pass (separators : Raw) (c : Cut) (b : Bit) : Cut :=
  let isSeparator := match b with
    | .glyph g => !c.isParted && separators.contains g.char
    | .boundary => true
    | .anchor => false
  let isBlank := isSeparator && match b with
    | .glyph g => usualSeparators.contains g.char
    | _ => true
  if c.limit = some 0 then
    -- All that is left belongs to the last field, maybe without its end.
    if isBlank then { c.keep b with kept := c.kept.or (some c.here.length) }
    else
      let kept := if isSeparator && c.isBlank then c.kept else none
      { c.keep b with kept, isBlank := false }
  else if c.isBlank && isSeparator then
    if isBlank then c.restart else { c.restart with isBlank := false }
  else if isSeparator then
    let c := if c.wasParted || c.isParted then c else { c with isBlank }
    if c.size = 0 && c.isBlank then { c.restart with isBlank := false }
    else match c.limit with
      | some 1 => { c.keep b with limit := some 0, kept := some c.here.length }
      | some n => { c.close with limit := some (n - 1) }
      | none => c.close
  else { c.keep b with isBlank := false }

/-- Pass a stretch. -/
def stretch (separators : Raw) (c : Cut) (s : Stretch) : Cut :=
  match s.cutting with
  | .never => s.bits.foldl keep c
  | cutting => s.bits.foldl (pass separators) (c.enter cutting)

/-- The fields in the end. -/
def finish (c : Cut) : List Pattern :=
  let size := if c.isParted then c.size else (c.kept.map (min c.size)).getD c.size
  let here := if c.isParted then c.here else match c.kept with
    | some n => c.here.drop (c.here.length - n)
    | none => c.here
  (if c.isParted || size != 0 then here.reverse :: c.fields else c.fields).reverse

end Cut

/-- Cut a row into fields, at most as many as the limit says. Blank separators in a row count as
one. -/
def fieldsOf (separators : Raw) (row : Row) (limit : Option Nat := none) : List Pattern :=
  (row.foldl (Cut.stretch separators) { limit }).finish

/-! ## Paths -/

/-- The parts of a pattern between slashes. -/
def patternParts (p : Pattern) : List Pattern :=
  p.foldr (fun g parts =>
    match parts with
    | [] => if g.char = '/' then [[], []] else [[g]]
    | part :: rest => if g.char = '/' then [] :: part :: rest else (g :: part) :: rest) [[]]

/-- The names in a folder, those of the folder itself and of the one around it among them. -/
def namesAt (s : State) (path : Raw) : List Raw :=
  match Files.entriesOf s.tree s.folder path.toBytes with
  | .ok entries => [['.'], ['.', '.']] ++ entries.map fun e => Raw.ofBytes e.1
  | .error _ => []

/-- The paths that the parts of a pattern stand for, going on from a path. A name that starts with a
dot is meant only by a pattern that does. -/
def extend (s : State) : List Pattern → Raw → List Raw
  | [], path => [path]
  | part :: rest, path =>
    let separator : Raw := if rest.isEmpty then [] else ['/']
    if Pattern.hasSpecial part then
      let mayHide := part.head?.any fun (g : Glyph) => g.char == '.'
      let names := (namesAt s (if path.isEmpty then ['.'] else path)).filter fun n =>
        (n.head? != some '.' || mayHide) && Pattern.fits (part.length + n.length + 1) part n
      names.flatMap fun n => extend s rest (path ++ n ++ separator)
    else extend s rest (path ++ Pattern.text part ++ separator)

/-- Whether anything is at a path. -/
def isThere (s : State) (path : Raw) : Bool :=
  match Files.entryAt s.tree s.folder path.toBytes .atLink with
  | .ok _ => true
  | .error _ => false

/-- The paths that a field stands for, or the field itself where it stands for none. -/
def pathsFor (s : State) (field : Pattern) : List Raw :=
  let resolved := field.resolved
  if resolved.hasSpecial then
    match (extend s (patternParts resolved) []).filter (isThere s) with
    | [] => [field.text]
    | paths => paths.mergeSort Raw.le
  else [field.text]

end AgentPulse.Shell
