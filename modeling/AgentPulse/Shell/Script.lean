import AgentPulse.Text.Utf8

/-!
# Scripts

What the text of a shell command says. Text of the shell is a list of characters below 256, each of
which stands for a byte.

A word is made of parts. A part that stands for something else may hold whole commands, so words and
commands are defined together.
-/

namespace AgentPulse.Shell

/-- Text of the shell: one character for each byte. -/
abbrev Raw := List Char

/-- Bytes as text of the shell. -/
def Raw.ofBytes (bytes : Bytes) : Raw := bytes.map fun b => Char.ofNat b.toNat

/-- Text of the shell as bytes. -/
def Raw.toBytes (cs : Raw) : Bytes := cs.map fun c => UInt8.ofNat c.toNat

/-- Whether a text may stand before another in ascending order, byte by byte. -/
def Raw.le (a b : Raw) : Bool := String.ofList a ≤ String.ofList b

/-- Text of the program itself as text of the shell. -/
def raw (s : String) : Raw := Raw.ofBytes (Text.Utf8.encode s)

/-- Text of the shell as it is shown in messages. -/
def Raw.shown (cs : Raw) : String := Text.Utf8.lossy (Raw.toBytes cs)

/-- What becomes of the value of a parameter. Where it matters whether there is a value, an empty
one may count as none. -/
inductive Operation where
  | value
  | length
  /-- The operand in the stead of a value that is missing. -/
  | orElse (emptyToo : Bool)
  /-- The same, and the parameter has that value from then on. -/
  | orAssign (emptyToo : Bool)
  /-- An error, with the operand as its text, if there is no value. -/
  | orFail (emptyToo : Bool)
  /-- The operand in the stead of a value that there is. -/
  | instead (emptyToo : Bool)
  /-- The value without a start, or an end, that a pattern stands for. -/
  | trimStart (longest : Bool)
  | trimEnd (longest : Bool)
  /-- Something else, which is an error as soon as it is to be done. -/
  | unknown
  deriving DecidableEq, Repr, Inhabited

/-- What is done to a descriptor. -/
inductive Redirection where
  | readFrom
  | writeTo
  /-- Write to a file even where existing files are not to be written to. -/
  | overwrite
  | appendTo
  | openBoth
  | duplicate
  deriving DecidableEq, Repr, Inhabited

mutual
/-- One part of a word. The parts that stand for something else say whether they are in quotes. -/
inductive Part where
  /-- A character that may be special in a pattern. -/
  | plain (c : Char)
  /-- Text in quotes, taken as it is. -/
  | quoted (text : Raw)
  /-- What an operation makes of the value of a parameter. -/
  | parameter (name : Raw) (operation : Operation) (operand : List Part) (isQuoted : Bool)
  /-- What commands write. -/
  | output (body : Command) (isQuoted : Bool)
  /-- The result of a calculation. -/
  | arithmetic (expression : List Part) (isQuoted : Bool)

/-- A descriptor and what it is to be connected with. -/
inductive Redirect where
  | toPath (descriptor : Nat) (kind : Redirection) (target : List Part)
  /-- Read from text in the script itself, which goes by a number. -/
  | toText (descriptor : Nat) (number : Nat)

/-- A command. The line is the one that complaints name. -/
inductive Command where
  /-- Assignments and words. -/
  | simple (line : Nat) (assignments : List (Raw × List Part)) (words : List (List Part))
      (redirects : List Redirect)
  | subshell (line : Nat) (body : Command) (redirects : List Redirect)
  /-- A command of several commands with redirections behind it. -/
  | redirected (line : Nat) (body : Command) (redirects : List Redirect)
  | branch (condition whenTrue whenFalse : Command)
  /-- Repeat the body as long as the condition succeeds, or as long as it fails. -/
  | repeats (onSuccess : Bool) (condition body : Command)
  | forEach (line : Nat) (name : Raw) (words : List (List Part)) (body : Command)
  | select (line : Nat) (subject : List Part) (arms : List (List (List Part) × Command))
  | define (name : Raw) (body : Command)
  | pipeline (stages : List Command)
  | negation (body : Command)
  | andThen (first second : Command)
  | orElse (first second : Command)
  | sequence (first second : Command)
  | background (line : Nat) (body : Command)
  | nothing
end

/-- A word, from parts that stand next to each other. -/
abbrev Word := List Part

instance : Inhabited Command := ⟨.nothing⟩

instance : Inhabited Part := ⟨.quoted []⟩

namespace Word

/-- The text of a word in which nothing is quoted or stands for something else. -/
def plainText? (w : Word) : Option Raw := w.mapM fun | Part.plain c => some c | _ => none

/-- The text of a word without its quotes. -/
def bareText (w : Word) : Raw :=
  w.flatMap fun
    | .plain c => [c]
    | .quoted cs => cs
    | _ => []

/-- Whether anything in a word is in quotes. -/
def hasQuotes (w : Word) : Bool := w.any fun | Part.quoted _ => true | _ => false

/-- Text as a word in which nothing is special. -/
def ofText (cs : Raw) : Word := [.quoted cs]

end Word

/-! ## Names -/

/-- Whether a character may start a name. -/
def isNameStart (c : Char) : Bool := c.isAlpha || c == '_'

/-- Whether a character may be in a name. -/
def isNameChar (c : Char) : Bool := c.isAlphanum || c == '_'

/-- Whether a text may be the name of a variable. -/
def isName (cs : Raw) : Bool := cs.head?.any isNameStart && cs.all isNameChar

/-- The name and the value of a word that is an assignment. -/
def Word.assignment? (w : Word) : Option (Raw × Word) :=
  let name := w.takeWhile fun | .plain c => isNameChar c | _ => false
  let text := Word.bareText name
  match w.drop name.length with
  | .plain '=' :: value => if isName text then some (text, value) else none
  | _ => none

end AgentPulse.Shell
