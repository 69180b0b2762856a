/-!
# UTF-8, read strictly and read leniently

`encode` writes a text as bytes. `decode` splits bytes into characters and ill-formed parts, where
an ill-formed part is the longest start of a character that the next byte does not continue. The
strict reader `text?` accepts bytes without such parts; the lenient reader `lossy` shows each of
them as one replacement character.
-/

namespace AgentPulse

/-- A string of bytes: the contents of a file, the name of one, the output of a program. -/
abbrev Bytes := List UInt8

namespace Text.Utf8

/-- The bytes of a text. -/
def encode (s : String) : Bytes := s.toList.flatMap String.utf8EncodeChar

/-- A character of which the last `owed` bytes are still to come. The next of them lies between
`low` and `high`; the bounds are narrower than for the later ones where the first byte alone does
not rule out an over-long form, a surrogate or a number above the last code point. -/
structure Partial where
  code : Nat
  owed : Nat
  low : UInt8 := 0x80
  high : UInt8 := 0xBF

/-- What the first byte of a character tells. -/
inductive Lead where
  /-- The byte is a character by itself. -/
  | whole (c : Char)
  /-- The byte starts a longer character. -/
  | start (p : Partial)
  /-- No character starts with this byte. -/
  | stray

/-- Classify a byte that stands where a character begins. -/
def lead (b : UInt8) : Lead :=
  let n := b.toNat
  if b < 0x80 then .whole (Char.ofNat n)
  else if b < 0xC2 then .stray
  else if b < 0xE0 then .start { code := n - 0xC0, owed := 1 }
  else if b == 0xE0 then .start { code := 0, owed := 2, low := 0xA0 }
  else if b == 0xED then .start { code := 0xD, owed := 2, high := 0x9F }
  else if b < 0xF0 then .start { code := n - 0xE0, owed := 2 }
  else if b == 0xF0 then .start { code := 0, owed := 3, low := 0x90 }
  else if b < 0xF4 then .start { code := n - 0xF0, owed := 3 }
  else if b == 0xF4 then .start { code := 4, owed := 3, high := 0x8F }
  else .stray

/-- The characters and ill-formed parts (`none`) of a string of bytes, given the character that is
under way. -/
def decodeFrom : Option Partial → Bytes → List (Option Char)
  | none, [] => []
  | some _, [] => [none]
  | none, b :: rest =>
    match lead b with
    | .whole c => some c :: decodeFrom none rest
    | .start p => decodeFrom (some p) rest
    | .stray => none :: decodeFrom none rest
  | some p, b :: rest =>
    if p.low ≤ b ∧ b ≤ p.high then
      let code := p.code * 64 + (b.toNat - 0x80)
      if p.owed ≤ 1 then some (Char.ofNat code) :: decodeFrom none rest
      else decodeFrom (some { code, owed := p.owed - 1 }) rest
    else
      none :: match lead b with
        | .whole c => some c :: decodeFrom none rest
        | .start p => decodeFrom (some p) rest
        | .stray => none :: decodeFrom none rest

/-- The characters and ill-formed parts of a string of bytes. -/
def decode (bytes : Bytes) : List (Option Char) := decodeFrom none bytes

/-- The text that the bytes encode, if they are well formed throughout. -/
def text? (bytes : Bytes) : Option String := ((decode bytes).mapM id).map String.ofList

/-- The character shown in place of an ill-formed part. -/
def replacement : Char := '\uFFFD'

/-- The text that the bytes encode, with a replacement character for each ill-formed part. -/
def lossy (bytes : Bytes) : String :=
  String.ofList ((decode bytes).map fun c => c.getD replacement)

end Text.Utf8

end AgentPulse
