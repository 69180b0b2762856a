import AgentPulse.Dict
import AgentPulse.Shell.Script

/-!
# The text of a script

A `Source` is what is left of a script while it is read, one character after the other. The text of
an alias is put in front of what is left; a character that is no byte marks where it ends, so that
an alias does not stand for itself inside its own text.

Texts for commands to read stand in the lines below them. They are asked for when a command is
read, found at the end of its line, and kept by number.
-/

namespace AgentPulse.Shell

/-- Why a script cannot be read, and on which line. -/
structure ScriptError where
  line : Nat
  message : String
  deriving Repr, Inhabited

/-- A place in a script that cannot be read, or else a value. -/
abbrev Read := Except ScriptError

/-- A text that stands below the line that asks for it. -/
structure HereText where
  number : Nat
  /-- The line that ends the text. -/
  delimiter : Raw
  /-- Whether nothing in the text is special. -/
  isPlain : Bool
  /-- Whether tabs at the start of lines do not belong to the text. -/
  dropsTabs : Bool
  deriving Repr, Inhabited

/-- What is left of a script. -/
structure Source where
  rest : Raw
  /-- The line that the next character is on. -/
  line : Nat := 1
  aliases : Dict Raw := Dict.empty
  /-- The aliases whose text is being read, the innermost first. -/
  within : List Raw := []
  /-- Whether the next word may be an alias wherever it stands. -/
  aliasNext : Bool := false
  /-- The texts that have been asked for and not been found yet. -/
  wanted : List HereText := []
  /-- The texts that have been found, by number. -/
  texts : Array Word := #[]
  deriving Inhabited

namespace Source

/-- The mark behind the text of an alias. -/
def aliasEnd : Char := Char.ofNat 0x100

/-- The mark behind the text of an alias that ends in a blank: another alias may follow. -/
def aliasEndBlank : Char := Char.ofNat 0x101

/-- The next character and what is left behind it. -/
def next? (s : Source) : Option (Char × Source) :=
  match _hs : s.rest with
  | [] => none
  | c :: rest =>
    if c = aliasEnd then next? { s with rest, within := s.within.tail }
    else if c = aliasEndBlank then
      next? { s with rest, within := s.within.tail, aliasNext := true }
    else some (c, { s with rest, line := if c = '\n' then s.line + 1 else s.line })
  termination_by s.rest.length
  decreasing_by all_goals simp [*]

theorem next?_length {s t : Source} {c : Char} (h : s.next? = some (c, t)) :
    t.rest.length < s.rest.length := by
  fun_induction next? s with
  | case1 => cases h
  | case2 => rename_i hs ih; have := ih h; simp_all; omega
  | case3 => rename_i hs _ ih; have := ih h; simp_all; omega
  | case4 => cases h; simp_all

/-- The next character and what is left behind it, where lines that end in a backslash are joined
with those that follow. -/
def nextJoined? (s : Source) : Option (Char × Source) :=
  match _h : s.next? with
  | none => none
  | some (c, t) =>
    if c = '\\' then
      match _h' : t.next? with
      | some ('\n', u) => nextJoined? u
      | _ => some (c, t)
    else some (c, t)
  termination_by s.rest.length
  decreasing_by have := next?_length _h; have := next?_length _h'; omega

/-- The next character. -/
def peek? (s : Source) : Option Char := s.nextJoined?.map (·.1)

/-- Leave a character behind if it is the next one. -/
def pass? (s : Source) (c : Char) : Option Source :=
  match s.nextJoined? with
  | some (d, t) => if d = c then some t else none
  | none => none

/-- The longest run of characters of a kind, and what is left behind it. -/
def span (p : Char → Bool) (s : Source) : Nat → Raw × Source
  | 0 => ([], s)
  | fuel + 1 =>
    match s.nextJoined? with
    | some (c, t) =>
      if p c then
        let (cs, t) := span p t fuel
        (c :: cs, t)
      else ([], s)
    | none => ([], s)

/-- The longest run of characters of a kind, and what is left behind it. -/
def spanWhile (s : Source) (p : Char → Bool) : Raw × Source := span p s s.rest.length

/-- An error at the place that has been reached. -/
def refuse {α : Type} (s : Source) (message : String) : Read α := .error ⟨s.line, message⟩

/-- Put the text of an alias in front of what is left. -/
def expandAlias (s : Source) (name text : Raw) : Source :=
  let mark := if text.getLast?.any (fun c => c == ' ' || c == '\t') then aliasEndBlank else aliasEnd
  { s with rest := text ++ mark :: s.rest, within := name :: s.within }

/-- The text of a word that is an alias. An alias inside its own text is none. -/
def alias? (s : Source) (name : Raw) : Option Raw :=
  if s.within.contains name then none else s.aliases.find? (String.ofList name)

/-- Ask for a text in the lines below. -/
def want (s : Source) (delimiter : Raw) (isPlain dropsTabs : Bool) : Nat × Source :=
  let number := s.texts.size
  (number, { s with
    texts := s.texts.push []
    wanted := s.wanted ++ [{ number, delimiter, isPlain, dropsTabs }] })

/-- Keep a text that has been found. -/
def keep (s : Source) (number : Nat) (text : Word) : Source :=
  { s with texts := s.texts.set! number text }

end Source

end AgentPulse.Shell
