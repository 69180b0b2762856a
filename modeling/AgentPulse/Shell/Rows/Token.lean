import AgentPulse.Double.Machine
import AgentPulse.Shell.Number
import AgentPulse.Shell.Rows.Basic

/-!
# The words of a script for rows

A slash starts a pattern unless a value stands in front of it.
-/

namespace AgentPulse.Shell.Rows

/-- A word of a script. -/
inductive Token where
  | number (x : Float)
  | text (cs : Raw)
  | pattern (r : Regex) (source : Raw)
  | name (cs : Raw)
  /-- A name with a parenthesis right behind it. -/
  | call (cs : Raw)
  | word (w : String)
  | builtin (w : String)
  | mark (m : String)
  | newline
  deriving Inhabited

/-- The words that mean something in a script. -/
def words : List String := [
  "BEGIN", "END", "function", "func", "if", "else", "while", "for", "do", "break", "continue",
  "next", "exit", "return", "delete", "in", "getline", "print", "printf"]

/-- The functions that every script has. -/
def builtins : List String := [
  "length", "substr", "index", "split", "sub", "gsub", "match", "sprintf", "sin", "cos", "atan2",
  "exp", "log", "sqrt", "int", "rand", "srand", "tolower", "toupper", "system", "close", "fflush"]

/-- The marks, the longer ones first. -/
def marks : List String := [
  "**=", "**", "+=", "-=", "*=", "/=", "%=", "^=", "++", "--", "==", "<=", ">=", "!=", "!~", "&&",
  "||", ">>", "+", "-", "*", "/", "%", "^", "!", "<", ">", "|", "?", ":", "~", "$", "=", ",", ";",
  "(", ")", "\x7b", "\x7d", "[", "]"]

/-- A token as it is shown. -/
def Token.shown : Token → String
  | .number _ => "number"
  | .text cs => "\"" ++ cs.shown ++ "\""
  | .pattern _ source => "/" ++ source.shown ++ "/"
  | .name cs | .call cs => cs.shown
  | .word w | .builtin w | .mark w => w
  | .newline => "end of line"

/-- The number at the start of a text, and what follows it. -/
def leadingNumber (cs : Raw) : Option (Float × Raw) :=
  let isStart : Bool := match cs.dropWhile isSpace with
    | '+' :: rest | '-' :: rest | rest =>
      match rest with
      | '.' :: c :: _ => c.isDigit
      | '0' :: 'x' :: _ | '0' :: 'X' :: _ => false
      | c :: _ => c.isDigit
      | [] => false
  if isStart then (Double.literal? cs).map fun l => (l.value.toFloat, l.rest)
  else match cs.dropWhile isSpace with
    | '0' :: rest => some (0, rest)
    | _ => none

/-- A text in quotes from behind the first one, and what follows. What has been read comes last
character first. -/
def quotedText (close : Char) (isPattern : Bool) : Nat → Raw → Raw → Option (Raw × Raw)
  | 0, _, _ => none
  | fuel + 1, before, cs =>
    let on (c : Char) (rest : Raw) := quotedText close isPattern fuel (c :: before) rest
    match cs with
    | [] => none
    | '\\' :: c :: rest =>
      if isPattern then
        if c = '/' then on '/' rest
        else quotedText close isPattern fuel (c :: '\\' :: before) rest
      else if c = '\n' then quotedText close isPattern fuel before rest
      else if c = '"' ∨ c = '/' ∨ c = '\\' then on c rest
      else
        let (d, after) := escaped (c :: rest)
        on d after
    | c :: rest =>
      if c = close then some (before.reverse, rest)
      else if c = '\n' then none
      else on c rest

/-- Whether a value may end with a token. -/
def Token.endsValue : Token → Bool
  | .number _ | .text _ | .name _ => true
  | .builtin w => w == "length"
  | .mark m => m == ")" || m == "]" || m == "++" || m == "--"
  | _ => false

/-- Whether lines are joined behind a token. -/
def Token.joins : Token → Bool
  | .mark m => ["\x7b", "&&", "||", ",", ";"].contains m
  | .word w => w == "do" || w == "else"
  | .newline => true
  | _ => false

/-- The tokens of a script with their lines, the last one first. -/
def tokensInto (found : List (Token × Nat)) (line : Nat) :
    Nat → Raw → Except String (List (Token × Nat))
  | 0, _ => .ok found
  | fuel + 1, cs =>
    let last := (found.head?.map (·.1)).getD .newline
    let on (t : Token) (rest : Raw) := tokensInto ((t, line) :: found) line fuel rest
    let trouble (what : String) : Except String (List (Token × Nat)) :=
      .error ("line " ++ Text.Decimal.ofNat line ++ ": " ++ what)
    let lineOf (cs : Raw) : String := Raw.shown (cs.takeWhile (· != '\n'))
    match cs with
    | [] => .ok found
    | '\n' :: rest =>
      let found := if last.joins then found else (.newline, line) :: found
      tokensInto found (line + 1) fuel rest
    | '\\' :: '\n' :: rest => tokensInto found (line + 1) fuel rest
    | '#' :: rest => tokensInto found line fuel (rest.dropWhile (· != '\n'))
    | '"' :: rest =>
      match quotedText '"' false cs.length [] rest with
      | some (text, rest) => on (.text text) rest
      | none => trouble ("runaway string constant \"" ++ lineOf rest ++ " ...")
    | c :: rest =>
      if isSpace c then tokensInto found line fuel rest
      else if c.isDigit ∨ (c = '.' ∧ rest.head?.any Char.isDigit) then
        match leadingNumber cs with
        | some (x, rest) => on (.number x) rest
        | none => trouble "unexpected character"
      else if isNameStart c then
        let name := cs.takeWhile isNameChar
        let rest := cs.drop name.length
        let word := String.ofList name
        if words.contains word then on (.word word) rest
        else if builtins.contains word then on (.builtin word) rest
        else if rest.head? = some '(' then on (.call name) rest
        else on (.name name) rest
      else if c = '/' ∧ !last.endsValue then
        match quotedText '/' true cs.length [] rest with
        | some (text, rest) =>
          match Regex.read { isExtended := true, hasEscapes := true } text with
          | .ok r => on (.pattern r text) rest
          | .error message =>
            trouble ("regular expression compile failed (" ++ message ++ ")\n" ++ text.shown)
        | none => trouble ("runaway regular expression /" ++ lineOf rest ++ " ...")
      else match marks.find? fun m => m.toList.isPrefixOf cs with
        | some m => on (.mark m) (cs.drop m.length)
        | none => trouble ("unexpected character '" ++ String.singleton c ++ "'")

/-- The tokens of a script with their lines. -/
def tokensOf (cs : Raw) : Except String (List (Token × Nat)) :=
  (tokensInto [] 1 (cs.length + 1) cs).map List.reverse

end AgentPulse.Shell.Rows
