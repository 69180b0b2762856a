import AgentPulse.Shell.Number
import AgentPulse.Shell.State

/-!
# The course of things

What is done in a shell may end in another way than by going on with what comes next: the shell
ends, a loop or a function is left, or a signal kills. A `Course` says which way it is. Commands
leave the number of how they ended in the state of the shell.
-/

namespace AgentPulse.Shell

/-- How it goes on, other than with what comes next. -/
inductive Flow where
  /-- The shell ends with a number. -/
  | exit (status : Nat)
  /-- The shell ends because something cannot be done, unless a builtin did it that may fail. -/
  | failed
  /-- The shell is killed by a signal. -/
  | killed (signal : Nat)
  /-- Leave some loops. -/
  | leave (loops : Nat)
  /-- Leave all but one of some loops and go on with that one. -/
  | again (loops : Nat)
  /-- Leave a function, or a script that is read inside another. -/
  | back
  deriving DecidableEq, Repr, Inhabited

/-- Something done in a shell that may end in another way than going on. -/
abbrev Course := ExceptT Flow Act

/-- A command of the shell's own: its arguments lead to a number. -/
abbrev Builtin := List Raw → Course Nat

/-- The number of a shell that cannot go on. -/
def misuse : Nat := 2

namespace Course

/-- Let the last command have ended with a number. -/
def finish (status : Nat) : Course Unit := modify fun s => { s with status }

/-- Something cannot be done. -/
def fail {α : Type} (message : String) : Course α := do
  Act.complain message
  finish misuse
  throw .failed

/-- How a course goes on. -/
def attempt {α : Type} (body : Course α) : Course (Except Flow α) :=
  ExceptT.mk (Functor.map Except.ok body.run)

/-- Do something, and something else afterwards in any case. -/
def followed {α : Type} (body : Course α) (after : Act Unit) : Course α := ExceptT.mk do
  let r ← body.run
  after
  return r

/-- Let a variable have a value, if there can be a variable of that name and it is no constant. -/
def assign (name value : Raw) : Course Unit := do
  let s ← get
  if !isName name then fail (name.shown ++ ": bad variable name")
  else if (s.varOf? name).any Variable.isConstant then fail (name.shown ++ ": is read only")
  else set (s.assign name value)

/-- Let a variable have no value. -/
def unassign (name : Raw) : Course Unit := do
  let s ← get
  if !isName name then fail (name.shown ++ ": bad variable name")
  else if (s.varOf? name).any Variable.isConstant then fail (name.shown ++ ": is read only")
  else set (s.putVariable name none)

end Course

/-! ## Options -/

/-- The options that a command knows: their letters, and whether an argument follows. -/
abbrev Letters := List (Char × Bool)

/-- The options in one argument, and the last one if its argument is still to come. -/
def readLetters (known : Letters) : Raw → Except String (List (Char × Raw) × Option Char)
  | [] => .ok ([], none)
  | c :: cs =>
    match known.lookup c with
    | none => .error ("Illegal option -" ++ String.singleton c)
    | some false => do
      let (options, last) ← readLetters known cs
      return ((c, []) :: options, last)
    | some true => if cs.isEmpty then .ok ([], some c) else .ok ([(c, cs)], none)

/-- The options at the front of some arguments, and the other arguments. -/
def readOptions (known : Letters) : List Raw → Except String (List (Char × Raw) × List Raw)
  | ['-', '-'] :: rest => .ok ([], rest)
  | ('-' :: c :: cs) :: rest => do
    let (options, last) ← readLetters known (c :: cs)
    match last, rest with
    | none, rest =>
      let (more, others) ← readOptions known rest
      return (options ++ more, others)
    | some c, value :: rest =>
      let (more, others) ← readOptions known rest
      return (options ++ (c, value) :: more, others)
    | some c, [] => .error ("No arg for -" ++ String.singleton c ++ " option")
  | args => .ok ([], args)

/-- The options of a builtin and its other arguments. -/
def Course.options (known : Letters) (args : List Raw) :
    Course (List (Char × Raw) × List Raw) :=
  match readOptions known args with
  | .ok r => return r
  | .error message => fail message

/-- Whether one of some options has a letter. -/
def hasLetter (options : List (Char × Raw)) (c : Char) : Bool := options.any fun o => o.1 == c

/-! ## Counts -/

/-- A count that is given as an argument. -/
def Course.count (arg : Raw) : Course Nat :=
  match count? arg with
  | some n => return n
  | none => fail ("Illegal number: " ++ arg.shown)

end AgentPulse.Shell
