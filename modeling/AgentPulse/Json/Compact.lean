import AgentPulse.Json.Basic
import AgentPulse.Double.Shortest

/-!
# Compact JSON text

`render` writes a value without blanks. In texts only the quote, the backslash and the controls
below U+0020 are escaped; a caller may name further characters to escape by their code.
-/

namespace AgentPulse.Json

/-- Doubles are written without an exponent from 10^-5 up to 10^16, and whole ones end in `.0`. -/
def doubleLayout : Double.Layout := ⟨-5, 16, true⟩

/-- The escape `\uXXXX` for a code below 2^16. -/
def codeEscape (n : Nat) : List Char :=
  let digits := Nat.toDigits 16 n
  ['\\', 'u'] ++ List.replicate (4 - digits.length) '0' ++ digits

/-- One character of a text. -/
def escapeChar (also : List Char) (c : Char) : List Char :=
  match c with
  | '"' => ['\\', '"']
  | '\\' => ['\\', '\\']
  | '\x08' => ['\\', 'b']
  | '\x0C' => ['\\', 'f']
  | '\n' => ['\\', 'n']
  | '\r' => ['\\', 'r']
  | '\t' => ['\\', 't']
  | c => if c < ' ' ∨ c ∈ also then codeEscape c.toNat else [c]

/-- A text in quotes. -/
def renderText (also : List Char) (s : String) : List Char :=
  '"' :: s.toList.flatMap (escapeChar also) ++ ['"']

/-- A number in decimal. -/
def renderNumber : Number → List Char
  | .integer n => (Text.Decimal.ofInt n).toList
  | .double d => d.render doubleLayout

mutual
/-- The compact text of a value. -/
def render (also : List Char) : Json → List Char
  | .null => "null".toList
  | .boolean b => if b then "true".toList else "false".toList
  | .number n => renderNumber n
  | .text s => renderText also s
  | .array items => '[' :: renderItems also items ++ [']']
  | .object members => '{' :: renderMembers also members ++ ['}']
  termination_by structural j => j

/-- Values with commas between them. -/
def renderItems (also : List Char) : List Json → List Char
  | [] => []
  | [j] => render also j
  | j :: rest => render also j ++ ',' :: renderItems also rest
  termination_by structural items => items

/-- Members with commas between them. -/
def renderMembers (also : List Char) : List (String × Json) → List Char
  | [] => []
  | [(k, j)] => renderText also k ++ ':' :: render also j
  | (k, j) :: rest => renderText also k ++ ':' :: render also j ++ ',' :: renderMembers also rest
  termination_by structural members => members
end

/-- The compact text of a value, as a string. -/
def compact (j : Json) (also : List Char := []) : String := String.ofList (render also j)

end AgentPulse.Json
