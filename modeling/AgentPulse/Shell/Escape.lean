import AgentPulse.Shell.Script

/-!
# Escapes

A backslash and what follows it may stand for another character: a control character that has a
letter, or a byte in octal.
-/

namespace AgentPulse.Shell

/-- The control characters that have a letter, and the backslash. -/
def controlLetter? (c : Char) : Option Char :=
  match c with
  | 'a' => some '\x07'
  | 'b' => some '\x08'
  | 'f' => some '\x0c'
  | 'n' => some '\n'
  | 'r' => some '\r'
  | 't' => some '\t'
  | 'v' => some '\x0b'
  | '\\' => some '\\'
  | _ => none

/-- Whether a character is an octal digit. -/
def isOctal (c : Char) : Bool := '0' ≤ c && c ≤ '7'

/-- The byte that at most three octal digits stand for, and what follows them. -/
def octalByte (cs : Raw) : Char × Raw :=
  let ds := (cs.take 3).takeWhile isOctal
  let n := ds.foldl (fun n c => 8 * n + (c.toNat - '0'.toNat)) 0
  (Char.ofNat (n % 256), cs.drop ds.length)

/-- What a backslash in front of a text stands for, and what follows that. It stands for itself
where no escape follows. -/
def escaped (cs : Raw) : Char × Raw :=
  match cs with
  | [] => ('\\', [])
  | e :: rest =>
    if isOctal e then octalByte cs
    else match controlLetter? e with
      | some c => (c, rest)
      | none => ('\\', cs)

/-- Text with its escapes resolved behind other text, and whether it ended at the escape that ends
all output. Octal digits may have one zero more in front of them. -/
def resolveFrom (before cs : Raw) : Nat → Raw × Bool
  | 0 => (before.reverse, false)
  | fuel + 1 =>
    match cs with
    | [] => (before.reverse, false)
    | '\\' :: rest =>
      match rest with
      | 'c' :: _ => (before.reverse, true)
      | '0' :: d :: more =>
        let (c, rest) := escaped (if isOctal d then d :: more else rest)
        resolveFrom (c :: before) rest fuel
      | rest =>
        let (c, rest) := escaped rest
        resolveFrom (c :: before) rest fuel
    | c :: rest => resolveFrom (c :: before) rest fuel

/-- Text with its escapes resolved, and whether it ended at the escape that ends all output. -/
def resolveEscapes (cs : Raw) : Raw × Bool := resolveFrom [] cs (cs.length + 1)

/-- Arguments with blanks between them and their escapes resolved, and whether they ended at the
escape that ends all output. -/
def joinResolved : List Raw → Raw × Bool
  | [] => ([], false)
  | [a] => resolveEscapes a
  | a :: rest =>
    match resolveEscapes a with
    | (text, true) => (text, true)
    | (text, false) =>
      let (more, isCut) := joinResolved rest
      (text ++ ' ' :: more, isCut)

/-- What `echo` prints. -/
def echoText (args : List Raw) : Raw :=
  let (newline, args) := match args with
    | ['-', 'n'] :: rest => (false, rest)
    | args => (true, args)
  let (text, isCut) := joinResolved args
  if isCut || !newline then text else text ++ ['\n']

end AgentPulse.Shell
