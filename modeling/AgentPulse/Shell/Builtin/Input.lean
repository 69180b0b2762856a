import AgentPulse.Shell.Course
import AgentPulse.Shell.Field

/-!
# Reading lines

A line is read off the input and cut into fields, one for each of some variables. The last variable
gets all that is left. A backslash protects the character behind it, and one at the end of a line
joins the next line to it.
-/

namespace AgentPulse.Shell.Builtin

/-- A line that is being read. -/
structure LineRead where
  /-- The stretches so far, the last one first. -/
  row : Row := []
  /-- The characters of the stretch that has been reached, the last one first. -/
  here : Raw := []
  /-- How many characters were taken off the input. -/
  count : Nat := 0
  /-- Whether the line came to its end. -/
  isComplete : Bool := false

/-- End the stretch that has been reached. -/
def LineRead.closed (l : LineRead) : LineRead :=
  { l with row := Row.ofText .atSeparators false l.here.reverse ++ l.row, here := [] }

/-- Read a line. -/
def readLineFrom (isRaw : Bool) (l : LineRead) : Raw → LineRead
  | [] => l.closed
  | '\n' :: _ => { l with count := l.count + 1, isComplete := true }.closed
  | '\x00' :: rest => readLineFrom isRaw { l with count := l.count + 1 } rest
  | '\\' :: rest =>
    if isRaw then
      readLineFrom isRaw { l with here := '\\' :: l.here, count := l.count + 1 } rest
    else match rest with
      | [] => { l with count := l.count + 1 }.closed
      | c :: rest =>
        let closed := { l with count := l.count + 2 }.closed
        let kept : Row := if c = '\n' then [] else Row.ofText .never true [c]
        readLineFrom isRaw { closed with row := kept ++ closed.row } rest
  | c :: rest => readLineFrom isRaw { l with here := c :: l.here, count := l.count + 1 } rest

/-- The characters that separate fields. -/
def separators (s : State) : Raw := (s.valueOf? (raw "IFS")).getD usualSeparators

/-- Read a line into variables. -/
def readInto : Builtin := fun args => do
  let (options, names) ← Course.options [('p', true), ('r', false)] args
  if names.isEmpty then Course.fail "arg count"
  match ← Act.look 0 with
  | .error _ =>
    names.forM fun name => Course.assign name []
    return 1
  | .ok text =>
    let l := readLineFrom (hasLetter options 'r') {} text
    Act.skip 0 l.count (!l.isComplete)
    let fields := fieldsOf (separators (← get)) l.row.reverse (some names.length)
    names.zipIdx.forM fun e =>
      Course.assign e.1 (((fields[e.2]?).map Pattern.text).getD [])
    return if l.isComplete then 0 else 1

end AgentPulse.Shell.Builtin
