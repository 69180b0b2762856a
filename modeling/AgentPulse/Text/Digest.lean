/-!
# Digests

Short numbers that stand for long texts. A text is padded to whole blocks with its own length at the
end, and the state of a digest goes on from block to block. Most constants are the first bits behind
the point of roots of primes.
-/

namespace AgentPulse.Text.Digest

/-! ## Constants -/

/-- The greatest number whose power does not exceed another one, with so many bits at most. -/
def root (k n bits : Nat) : Nat :=
  (List.range bits).foldr (fun i r =>
    let more := r + (1 <<< i)
    if Nat.pow more k ≤ n then more else r) 0

/-- Whether a number is prime. -/
def isPrime (n : Nat) : Bool := 2 ≤ n && (List.range n).all fun d => d < 2 || n % d != 0

/-- The first primes. -/
def primes (count : Nat) : List Nat := ((List.range 500).filter isPrime).take count

/-- The first bits behind the point of a root of a number. -/
def rootBits (k bits n : Nat) : Nat := root k (n <<< (k * bits)) (bits + 9) % (1 <<< bits)

/-! ## Blocks -/

/-- A number as bytes, the last ones first where that is the order. -/
def bytesOf (isLittle : Bool) (size n : Nat) : List UInt8 :=
  let bs := (List.range size).map fun i => UInt8.ofNat (n >>> (8 * i))
  if isLittle then bs else bs.reverse

/-- The number of some bytes. -/
def ofBytes (isLittle : Bool) (bs : List UInt8) : Nat :=
  (if isLittle then bs.reverse else bs).foldl (fun n b => 256 * n + b.toNat) 0

/-- Lists of so many bytes. -/
def chunks (size : Nat) : Nat → List UInt8 → List (List UInt8)
  | 0, _ => []
  | fuel + 1, bs =>
    if bs.isEmpty then [] else bs.take size :: chunks size fuel (bs.drop size)

/-- The words of a text that is padded to whole blocks of sixteen words. -/
def blocks (isLittle : Bool) (wordSize : Nat) (text : List UInt8) : List (Array Nat) :=
  let size := 16 * wordSize
  let ending := bytesOf isLittle (2 * wordSize) (8 * text.length)
  let gap := (size - (text.length + 1 + ending.length) % size) % size
  let padded := text ++ 0x80 :: List.replicate gap 0 ++ ending
  (chunks size (padded.length + 1) padded).map fun block =>
    ((chunks wordSize 17 block).map (ofBytes isLittle)).toArray

/-! ## The digest of 128 bits -/

/-- The constants of the digest of 128 bits: the first bits of sines. -/
def sines : Array UInt32 := #[
  0xd76aa478, 0xe8c7b756, 0x242070db, 0xc1bdceee, 0xf57c0faf, 0x4787c62a, 0xa8304613, 0xfd469501,
  0x698098d8, 0x8b44f7af, 0xffff5bb1, 0x895cd7be, 0x6b901122, 0xfd987193, 0xa679438e, 0x49b40821,
  0xf61e2562, 0xc040b340, 0x265e5a51, 0xe9b6c7aa, 0xd62f105d, 0x02441453, 0xd8a1e681, 0xe7d3fbc8,
  0x21e1cde6, 0xc33707d6, 0xf4d50d87, 0x455a14ed, 0xa9e3e905, 0xfcefa3f8, 0x676f02d9, 0x8d2a4c8a,
  0xfffa3942, 0x8771f681, 0x6d9d6122, 0xfde5380c, 0xa4beea44, 0x4bdecfa9, 0xf6bb4b60, 0xbebfbc70,
  0x289b7ec6, 0xeaa127fa, 0xd4ef3085, 0x04881d05, 0xd9d4d039, 0xe6db99e5, 0x1fa27cf8, 0xc4ac5665,
  0xf4292244, 0x432aff97, 0xab9423a7, 0xfc93a039, 0x655b59c3, 0x8f0ccc92, 0xffeff47d, 0x85845dd1,
  0x6fa87e4f, 0xfe2ce6e0, 0xa3014314, 0x4e0811a1, 0xf7537e82, 0xbd3af235, 0x2ad7d2bb, 0xeb86d391]

/-- How far words are turned. -/
def sineTurns : Array Nat := #[7, 12, 17, 22, 5, 9, 14, 20, 4, 11, 16, 23, 6, 10, 15, 21]

/-- A word with its bits turned to the left. -/
def turnLeft (x : UInt32) (n : Nat) : UInt32 := (x <<< n.toUInt32) ||| (x >>> (32 - n).toUInt32)

/-- One block of the digest of 128 bits. -/
def md5Block (s : List UInt32) (block : Array Nat) : List UInt32 :=
  let step := fun (s : List UInt32) (i : Nat) =>
    match s with
    | [a, b, c, d] =>
      let (f, g) : UInt32 × Nat := match i / 16 with
        | 0 => ((b &&& c) ||| (~~~b &&& d), i)
        | 1 => ((d &&& b) ||| (~~~d &&& c), (5 * i + 1) % 16)
        | 2 => (b ^^^ c ^^^ d, (3 * i + 5) % 16)
        | _ => (c ^^^ (b ||| ~~~d), 7 * i % 16)
      let x := a + f + sines.getD i 0 + (block.getD g 0).toUInt32
      [d, b + turnLeft x (sineTurns.getD (i / 16 * 4 + i % 4) 0), b, c]
    | s => s
  ((List.range 64).foldl step s).zipWith (· + ·) s

/-- The digest of 128 bits. -/
def md5 (text : List UInt8) : List UInt8 :=
  let start : List UInt32 := [0x67452301, 0xefcdab89, 0x98badcfe, 0x10325476]
  let s := (blocks true 4 text).foldl md5Block start
  s.flatMap fun x => bytesOf true 4 x.toNat

/-! ## The digest of 160 bits -/

/-- One block of the digest of 160 bits. -/
def sha1Block (s : List UInt32) (block : Array Nat) : List UInt32 :=
  let w : Array UInt32 := (List.range 64).foldl (fun (w : Array UInt32) i =>
    let x := w.getD (i + 13) 0 ^^^ w.getD (i + 8) 0 ^^^ w.getD (i + 2) 0 ^^^ w.getD i 0
    w.push (turnLeft x 1)) (block.map Nat.toUInt32)
  let step := fun (s : List UInt32) (i : Nat) =>
    match s with
    | [a, b, c, d, e] =>
      let (f, k) : UInt32 × UInt32 := match i / 20 with
        | 0 => ((b &&& c) ||| (~~~b &&& d), 0x5a827999)
        | 1 => (b ^^^ c ^^^ d, 0x6ed9eba1)
        | 2 => ((b &&& c) ||| (b &&& d) ||| (c &&& d), 0x8f1bbcdc)
        | _ => (b ^^^ c ^^^ d, 0xca62c1d6)
      [turnLeft a 5 + f + e + k + w.getD i 0, a, turnLeft b 30, c, d]
    | s => s
  ((List.range 80).foldl step s).zipWith (· + ·) s

/-- The digest of 160 bits. -/
def sha1 (text : List UInt8) : List UInt8 :=
  let start : List UInt32 := [0x67452301, 0xefcdab89, 0x98badcfe, 0x10325476, 0xc3d2e1f0]
  let s := (blocks false 4 text).foldl sha1Block start
  s.flatMap fun x => bytesOf false 4 x.toNat

/-! ## The digests of 256 and of 512 bits -/

/-- What the digests of one family differ in. -/
structure Family where
  /-- How many bits a word has. -/
  bits : Nat
  rounds : Nat
  /-- How far words are turned: for each of four sums, and the last two ones are shifts. -/
  turns : List (List Nat)

/-- The family with words of 32 bits. -/
def short : Family := ⟨32, 64, [[2, 13, 22], [6, 11, 25], [7, 18, 3], [17, 19, 10]]⟩

/-- The family with words of 64 bits. -/
def long : Family := ⟨64, 80, [[28, 34, 39], [14, 18, 41], [1, 8, 7], [19, 61, 6]]⟩

namespace Family

/-- A word with its bits turned to the right. -/
def turn (f : Family) (x n : Nat) : Nat := ((x >>> n) ||| (x <<< (f.bits - n))) % (1 <<< f.bits)

/-- The sum of a number of a word. -/
def sumOf (f : Family) (i x : Nat) : Nat :=
  match f.turns.getD i [] with
  | [a, b, c] => f.turn x a ^^^ f.turn x b ^^^ (if i < 2 then f.turn x c else x >>> c)
  | _ => 0

/-- The constants of the rounds: bits of cube roots. -/
def constants (f : Family) : Array Nat := ((primes f.rounds).map (rootBits 3 f.bits)).toArray

/-- One block. -/
def step (f : Family) (constants : Array Nat) (s : List Nat) (block : Array Nat) : List Nat :=
  let cut (n : Nat) : Nat := n % (1 <<< f.bits)
  let w : Array Nat := (List.range (f.rounds - 16)).foldl (fun (w : Array Nat) i =>
    w.push (cut (w.getD i 0 + f.sumOf 2 (w.getD (i + 1) 0) + w.getD (i + 9) 0 +
      f.sumOf 3 (w.getD (i + 14) 0)))) block
  let round := fun (s : List Nat) (i : Nat) =>
    match s with
    | [a, b, c, d, e, f', g, h] =>
      let chosen := (e &&& f') ^^^ ((e ^^^ ((1 <<< f.bits) - 1)) &&& g)
      let most := (a &&& b) ^^^ (a &&& c) ^^^ (b &&& c)
      let x := h + f.sumOf 1 e + chosen + constants.getD i 0 + w.getD i 0
      [cut (x + f.sumOf 0 a + most), a, b, c, cut (d + x), e, f', g]
    | s => s
  ((List.range f.rounds).foldl round s).zipWith (fun a b => cut (a + b)) s

/-- The digest of a text, as many bytes of it as are wanted. -/
def digest (f : Family) (start : List Nat) (size : Nat) (text : List UInt8) : List UInt8 :=
  let constants := f.constants
  let s := (blocks false (f.bits / 8) text).foldl (f.step constants) start
  (s.flatMap (bytesOf false (f.bits / 8))).take size

end Family

/-- The digest of 256 bits. -/
def sha256 (text : List UInt8) : List UInt8 :=
  short.digest ((primes 8).map (rootBits 2 32)) 32 text

/-- The digest of 224 bits. -/
def sha224 (text : List UInt8) : List UInt8 :=
  short.digest (((primes 16).drop 8).map fun p => rootBits 2 64 p % (1 <<< 32)) 28 text

/-- The digest of 512 bits. -/
def sha512 (text : List UInt8) : List UInt8 :=
  long.digest ((primes 8).map (rootBits 2 64)) 64 text

/-- The digest of 384 bits. -/
def sha384 (text : List UInt8) : List UInt8 :=
  long.digest (((primes 16).drop 8).map (rootBits 2 64)) 48 text

/-! ## Remainders -/

/-- One byte more in a remainder of 32 bits. -/
def remainderStep (crc : UInt32) (b : UInt8) : UInt32 :=
  (List.range 8).foldl (fun (crc : UInt32) _ =>
    if crc &&& 0x80000000 != 0 then (crc <<< 1) ^^^ 0x04c11db7 else crc <<< 1)
    (crc ^^^ (b.toUInt32 <<< 24))

/-- The remainder of a text with its length behind it. -/
def remainder (text : List UInt8) : UInt32 :=
  let n := text.length
  let size := (Nat.log2 n / 8) + (if n = 0 then 0 else 1)
  ~~~((text ++ bytesOf true size n).foldl remainderStep 0)

/-! ## Hexadecimal -/

/-- Bytes in hexadecimal. -/
def hex (bs : List UInt8) : List Char :=
  bs.flatMap fun b =>
    let ds := Nat.toDigits 16 b.toNat
    if ds.length = 1 then '0' :: ds else ds

end AgentPulse.Text.Digest
