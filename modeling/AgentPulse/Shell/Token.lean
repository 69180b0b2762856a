import AgentPulse.Shell.Spelling

/-!
# Tokens

`nextToken` takes one token off the front of a script: an operator, a redirection, a line break, or
a word with its quotes and expansions. Which words are keywords depends on where they stand, so that
is for the grammar to say.
-/

namespace AgentPulse.Shell

/-- What a redirection operator asks for: something that a word names, or a text in the lines
below. -/
inductive Asked where
  | named (kind : Redirection)
  | below (dropsTabs : Bool)
  deriving DecidableEq, Repr, Inhabited

/-- A token. -/
inductive Token where
  | done
  | newline
  | operator (text : String)
  | keyword (text : String)
  | word (w : Word)
  | redirect (descriptor : Nat) (asked : Asked)
  deriving Inhabited

/-- The words that have a meaning where a command may start. -/
def keywords : List String :=
  ["!", "case", "do", "done", "elif", "else", "esac", "fi", "for", "if", "in", "then", "until",
    "while", "\x7b", "\x7d"]

namespace Token

/-- Whether a token is a certain operator. -/
def isOperator (t : Token) (text : String) : Bool :=
  match t with
  | .operator op => op == text
  | _ => false

/-- Whether a token is a certain keyword. -/
def isKeyword (t : Token) (text : String) : Bool :=
  match t with
  | .keyword k => k == text
  | _ => false

/-- What a token is called in complaints. -/
def describe (t : Token) : String :=
  match t with
  | .done => "end of file"
  | .newline => "newline"
  | .operator text | .keyword text => "\"" ++ text ++ "\""
  | .redirect _ _ => "redirection"
  | .word _ => "word"

/-- Whether a token ends a list of commands inside another command. -/
def endsList (t : Token) : Bool :=
  match t with
  | .done => true
  | .operator op => op == ")" || op == ";;"
  | .keyword k => ["do", "done", "elif", "else", "esac", "fi", "then", "\x7d"].contains k
  | _ => false

end Token

namespace Source

/-- What is left behind the end of a line, where the break itself is left. -/
def skipLine (s : Source) : Nat → Source
  | 0 => s
  | fuel + 1 =>
    match s.next? with
    | none => s
    | some (c, t) => if c = '\n' then s else t.skipLine fuel

/-- What is left behind blanks and comments. -/
def skipBlanks (s : Source) : Nat → Source
  | 0 => s
  | fuel + 1 =>
    match s.nextJoined? with
    | none => s
    | some (c, t) =>
      if c = ' ' ∨ c = '\t' then t.skipBlanks fuel
      else if c = '#' then (t.skipLine fuel).skipBlanks fuel
      else s

end Source

/-- The operator that starts with a character and may be that character twice. -/
def doubled (c : Char) (s : Source) : Token × Source :=
  match s.pass? c with
  | some t => (.operator (String.ofList [c, c]), t)
  | none => (.operator (String.singleton c), s)

/-- What a redirection asks for, from behind the first character of its operator. -/
def askedBy (c : Char) (s : Source) : Asked × Source :=
  match c, s.nextJoined? with
  | '>', some ('>', t) => (.named .appendTo, t)
  | '>', some ('|', t) => (.named .overwrite, t)
  | '>', some ('&', t) => (.named .duplicate, t)
  | '>', _ => (.named .writeTo, s)
  | _, some ('<', t) =>
    match t.pass? '-' with
    | some u => (.below true, u)
    | none => (.below false, t)
  | _, some ('&', t) => (.named .duplicate, t)
  | _, some ('>', t) => (.named .openBoth, t)
  | _, _ => (.named .readFrom, s)

/-- The descriptor that a redirection is for: a digit right in front of it, or the usual one. -/
def descriptorOf (c : Char) : Word → Option Nat
  | [] => some (if c = '<' then 0 else 1)
  | [.plain d] => if d.isDigit then some (d.toNat - '0'.toNat) else none
  | _ => none

/-- Take a token off the front. In a delimiter nothing is expanded. -/
def nextToken (inner : Inner) (s : Source) (isDelimiter : Bool := false) :
    Read (Token × Source) :=
  let s := s.skipBlanks (s.rest.length + 1)
  match s.nextJoined? with
  | none => .ok (.done, s)
  | some (c, t) =>
    if c = '\n' then .ok (.newline, t)
    else if c = '&' ∨ c = '|' ∨ c = ';' then .ok (doubled c t)
    else if c = '(' ∨ c = ')' then .ok (.operator (String.singleton c), t)
    else do
      let (w, u) ← readWord inner s isDelimiter
      match u.nextJoined? with
      | none => return (.word w, u)
      | some (d, v) =>
        if d = '<' ∨ d = '>' then
          match descriptorOf d w with
          | some n =>
            let (asked, v) := askedBy d v
            return (.redirect n asked, v)
          | none => return (.word w, u)
        else return (.word w, u)

end AgentPulse.Shell
