import AgentPulse.Shell.Program.Basic
import AgentPulse.Text.Digest

/-!
# Programs for digests and for bytes as text

Programs that show digests of files and check them, and one that writes bytes with 64 characters.
-/

namespace AgentPulse.Shell.Program

open Text (Digest.hex Digest.md5 Digest.sha1 Digest.sha224 Digest.sha256 Digest.sha384 Digest.sha512
  Digest.remainder)

/-! ## Digests -/

/-- A line of a list of digests: the digest and the name of the file. -/
def digestLine? (line : Raw) : Option (Raw × Raw) :=
  let digest := line.takeWhile fun c => (digitIn? 16 c).isSome
  match line.drop digest.length with
  | ' ' :: ' ' :: name | ' ' :: '*' :: name =>
    if digest.isEmpty || name.isEmpty then none else some (digest, name)
  | _ => none

/-- How many lines of a list are not as they should be. -/
structure Checked where
  wrong : Nat := 0
  unread : Nat := 0
  odd : Nat := 0

/-- A number of things with the word for them. -/
def several (n : Nat) (one many : String) : String :=
  Text.Decimal.ofNat n ++ " " ++ if n = 1 then one else many

/-- Check the files of a list of digests: whether all are as they should be. -/
def checkDigests (name : String) (digest : Bytes → Bytes) (a : Arguments) (path : Raw)
    (list : Raw) : Act Bool := do
  let c ← (linesOf list).foldlM (fun (c : Checked) (line : Raw) => do
    match digestLine? line with
    | none => return { c with odd := c.odd + 1 }
    | some (wanted, file) =>
      match ← readNamed file with
      | .error f =>
        Act.say (name ++ ": " ++ file.shown ++ ": " ++ f.words)
        if !a.has 's' then Act.outLine (file ++ raw ": FAILED open or read")
        return { c with unread := c.unread + 1 }
      | .ok text =>
        let isFine := Digest.hex (digest text.toBytes) == wanted.map Char.toLower
        let word := if isFine then ": OK" else ": FAILED"
        if !a.has 's' && !(a.has 'q' && isFine) then Act.outLine (file ++ raw word)
        return if isFine then c else { c with wrong := c.wrong + 1 }) {}
  let lines := (linesOf list).length
  if c.odd = lines then
    Act.say (name ++ ": " ++ path.shown ++ ": no properly formatted checksum lines found")
    return false
  else
    let warn (message : String) : Act Unit :=
      if a.has 's' then return else Act.say (name ++ ": WARNING: " ++ message)
    if c.odd ≠ 0 then
      warn (several c.odd "line is improperly formatted" "lines are improperly formatted")
    if c.unread ≠ 0 then
      warn (several c.unread "listed file could not be read" "listed files could not be read")
    if c.wrong ≠ 0 then
      warn (several c.wrong "computed checksum did NOT match" "computed checksums did NOT match")
    return c.wrong = 0 && c.unread = 0

/-- Show the digests of files, or check them. -/
def digests (name : String) (digest : Bytes → Bytes) (args : List Raw) : Act Nat :=
  let names := [("binary", 'b'), ("text", 't'), ("check", 'c'), ("status", 's'), ("quiet", 'q'),
    ("warn", 'w'), ("zero", 'z')]
  working name (Flags.of "btcwz" names) args fun a => do
    let paths := if a.operands.isEmpty then [['-']] else a.operands
    let isFine ← forAll paths fun path => do
      match ← readNamed path with
      | .error f =>
        Act.say (usualComplaint name path f)
        return false
      | .ok text =>
        if a.has 'c' then checkDigests name digest a path text
        else
          let mark := if a.last? ['b', 't'] = some 'b' then raw " *" else raw "  "
          let close : Char := if a.has 'z' then '\x00' else '\n'
          Act.out (Digest.hex (digest text.toBytes) ++ mark ++ path ++ [close])
          return true
    return code isFine

/-- Show the remainders and the sizes of files. -/
def cksum (args : List Raw) : Act Nat :=
  working "cksum" (Flags.of "") args fun a => do
    let isAlone := a.operands.isEmpty
    let paths := if isAlone then [['-']] else a.operands
    let isFine ← forAll paths fun path => do
      match ← readNamed path with
      | .error f =>
        Act.say (usualComplaint "cksum" path f)
        return false
      | .ok text =>
        let row := Text.Decimal.digits (Digest.remainder text.toBytes).toNat ++
          ' ' :: Text.Decimal.digits text.length
        Act.outLine (if isAlone then row else row ++ ' ' :: path)
        return true
    return code isFine

/-! ## Bytes as text -/

/-- The characters for numbers below 64. -/
def sixtyFour : Array Char :=
  "ABCDEFGHIJKLMNOPQRSTUVWXYZabcdefghijklmnopqrstuvwxyz0123456789+/".toList.toArray

/-- Three bytes as four characters each, what has been written coming last character first. -/
def encoded (before : Raw) : Raw → Raw
  | a :: b :: c :: rest =>
    let n := 65536 * a.toNat + 256 * b.toNat + c.toNat
    encoded (digit n 0 :: digit n 1 :: digit n 2 :: digit n 3 :: before) rest
  | [a, b] =>
    let n := 65536 * a.toNat + 256 * b.toNat
    (('=' :: digit n 1 :: digit n 2 :: digit n 3 :: before)).reverse
  | [a] =>
    let n := 65536 * a.toNat
    (('=' :: '=' :: digit n 2 :: digit n 3 :: before)).reverse
  | [] => before.reverse
where
  /-- The character for a digit of a number in base 64, counted from the end. -/
  digit (n i : Nat) : Char := sixtyFour.getD (n / Nat.pow 64 i % 64) 'A'

/-- The bytes of a text, and whether all of it was well formed. What has been found comes last
character first. -/
def decoded (before : Raw) : Nat → Raw → Raw × Bool
  | 0, _ => (before.reverse, true)
  | fuel + 1, cs =>
    let value (c : Char) : Option Nat := sixtyFour.toList.findIdx? (· == c)
    let char (n i : Nat) : Char := Char.ofNat (n / Nat.pow 256 i % 256)
    match cs.dropWhile (· == '\n') with
    | [] => (before.reverse, true)
    | cs =>
      let four := cs.filter (· != '\n') |>.take 4
      let used := four.takeWhile (· != '=')
      let n := used.foldl (fun n c => 64 * n + (value c).getD 0) 0
      let isKnown := used.all fun c => (value c).isSome
      match isKnown, four.length, used.length with
      | true, 4, 4 =>
        decoded (char n 0 :: char n 1 :: char n 2 :: before) fuel (after 4 cs)
      | true, 4, 3 => decoded (char (64 * n) 1 :: char (64 * n) 2 :: before) fuel (after 4 cs)
      | true, 4, 2 => decoded (char (4096 * n) 2 :: before) fuel (after 4 cs)
      | true, _, k =>
        let n := n * Nat.pow 64 (4 - k)
        (([char n 2, char n 1].take (k - 1)).reverse ++ before |>.reverse, false)
      | false, _, _ =>
        let good := used.takeWhile fun c => (value c).isSome
        let n := (good.foldl (fun n c => 64 * n + (value c).getD 0) 0) *
          Nat.pow 64 (4 - good.length)
        (([char n 2, char n 1].take (good.length - 1)).reverse ++ before |>.reverse, false)
where
  /-- What is left behind so many characters, line breaks not counted. -/
  after : Nat → Raw → Raw
    | _, [] => []
    | 0, cs => cs
    | n + 1, c :: cs => if c = '\n' then after (n + 1) cs else after n cs

/-- Lines of some width, what has been written coming last character first. -/
def wrapped (width : Nat) (before : Raw) : Nat → Raw → Raw
  | _, [] => (if before.head?.all (· == '\n') then before else '\n' :: before).reverse
  | i, c :: cs =>
    if i + 1 = width then wrapped width ('\n' :: c :: before) 0 cs
    else wrapped width (c :: before) (i + 1) cs

/-- Write bytes as text, or read them back. -/
def base64 (args : List Raw) : Act Nat :=
  let names := [("decode", 'd'), ("wrap", 'w'), ("ignore-garbage", 'i')]
  working "base64" (Flags.of "diw:" names) args fun a => do
    match a.operands with
    | _ :: extra :: _ => misused "base64" ("extra operand " ++ quoted extra)
    | operands =>
      let path := operands.headD ['-']
      match ← readNamed path with
      | .error f => failed (usualComplaint "base64" path f)
      | .ok text =>
        if a.has 'd' then
          let isKnown (c : Char) : Bool := sixtyFour.contains c || c == '=' || c == '\n'
          let text := if a.has 'i' then text.filter isKnown else text
          let (bytes, isFine) := decoded [] (text.length + 1) text
          Act.out bytes
          if isFine then return 0 else failed "base64: invalid input"
        else
          let width := ((a.value? 'w').map Text.Decimal.value).getD 76
          let all := encoded [] text
          Act.out (if width = 0 then all else wrapped width [] 0 all)
          return 0

end AgentPulse.Shell.Program
