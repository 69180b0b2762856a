import AgentPulse.Text.Invisible
import AgentPulse.Text.Combining

/-!
# Quoted text

A text in double quotes in which every character can be seen: quotes and backslashes are escaped,
four common controls have a letter, and any other character that is invisible or combining is
written by its code point.
-/

namespace AgentPulse.Text

/-- The characters `\u{…}` with the code point in lower-case hexadecimal. -/
def codePoint (c : Char) : List Char := ['\\', 'u', '{'] ++ Nat.toDigits 16 c.toNat ++ ['}']

/-- One character of a quoted text. Printable ASCII needs no look at the tables. -/
def escape (c : Char) : List Char :=
  match c with
  | '\x00' => ['\\', '0']
  | '\t' => ['\\', 't']
  | '\r' => ['\\', 'r']
  | '\n' => ['\\', 'n']
  | '\\' => ['\\', '\\']
  | '"' => ['\\', '"']
  | c =>
    if ' ' ≤ c ∧ c ≤ '~' then [c]
    else if isCombining c || isInvisible c then codePoint c
    else [c]

/-- A text in double quotes. -/
def quoted (s : String) : String := String.ofList ('"' :: s.toList.flatMap escape ++ ['"'])

end AgentPulse.Text
