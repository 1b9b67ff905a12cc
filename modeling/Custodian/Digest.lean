/-!
# The running digest

`md5` : the MD5 digest of a list of bytes, as the standard defines it: pad, cut into blocks of 64 bytes, compress the
blocks one after another. `Digest` : the same digest of bytes that arrive in pieces; it keeps the bytes of the block
that is not yet full. `Digest.text` : its digest so far as 32 upper-case hexadecimal digits. `Digest.act` : several
digests that are updated, reset, read off and copied in any order.
-/

namespace Custodian

set_option autoImplicit false

/-! ## Compression -/

/-- The four words that the blocks are folded into. -/
structure ChainState where
  a : UInt32
  b : UInt32
  c : UInt32
  d : UInt32
deriving DecidableEq

namespace ChainState

/-- The state before the first block. -/
def start : ChainState := ⟨0x67452301, 0xefcdab89, 0x98badcfe, 0x10325476⟩

/-- The word added in each of the 64 steps: the first 32 bits of the fraction of a sine. -/
def stepWords : Array UInt32 := #[
  0xd76aa478, 0xe8c7b756, 0x242070db, 0xc1bdceee, 0xf57c0faf, 0x4787c62a, 0xa8304613, 0xfd469501,
  0x698098d8, 0x8b44f7af, 0xffff5bb1, 0x895cd7be, 0x6b901122, 0xfd987193, 0xa679438e, 0x49b40821,
  0xf61e2562, 0xc040b340, 0x265e5a51, 0xe9b6c7aa, 0xd62f105d, 0x02441453, 0xd8a1e681, 0xe7d3fbc8,
  0x21e1cde6, 0xc33707d6, 0xf4d50d87, 0x455a14ed, 0xa9e3e905, 0xfcefa3f8, 0x676f02d9, 0x8d2a4c8a,
  0xfffa3942, 0x8771f681, 0x6d9d6122, 0xfde5380c, 0xa4beea44, 0x4bdecfa9, 0xf6bb4b60, 0xbebfbc70,
  0x289b7ec6, 0xeaa127fa, 0xd4ef3085, 0x04881d05, 0xd9d4d039, 0xe6db99e5, 0x1fa27cf8, 0xc4ac5665,
  0xf4292244, 0x432aff97, 0xab9423a7, 0xfc93a039, 0x655b59c3, 0x8f0ccc92, 0xffeff47d, 0x85845dd1,
  0x6fa87e4f, 0xfe2ce6e0, 0xa3014314, 0x4e0811a1, 0xf7537e82, 0xbd3af235, 0x2ad7d2bb, 0xeb86d391
]

/-- How far each step rotates; a round of sixteen steps repeats four amounts. -/
def rotations : Array UInt32 := #[7, 12, 17, 22, 5, 9, 14, 20, 4, 11, 16, 23, 6, 10, 15, 21]

/-- Rotates a word to the left by an amount between 1 and 31. -/
def rotate (x n : UInt32) : UInt32 := (x <<< n) ||| (x >>> (32 - n))

/-- The mixing function of step `i`. -/
def mix (i : Nat) (s : ChainState) : UInt32 :=
  if i < 16 then (s.b &&& s.c) ||| (~~~s.b &&& s.d)
  else if i < 32 then (s.d &&& s.b) ||| (~~~s.d &&& s.c)
  else if i < 48 then s.b ^^^ s.c ^^^ s.d
  else s.c ^^^ (s.b ||| ~~~s.d)

/-- Which word of the block step `i` reads. -/
def wordIndex (i : Nat) : Nat :=
  if i < 16 then i else if i < 32 then (5 * i + 1) % 16 else if i < 48 then (3 * i + 5) % 16 else (7 * i) % 16

/-- One of the 64 steps. -/
def step (words : Array UInt32) (i : Nat) (s : ChainState) : ChainState :=
  let sum := mix i s + s.a + stepWords.getD i 0 + words.getD (wordIndex i) 0
  ⟨s.d, s.b + rotate sum (rotations.getD (4 * (i / 16) + i % 4) 0), s.b, s.c⟩

/-- Adds word by word. -/
def add (s t : ChainState) : ChainState := ⟨s.a + t.a, s.b + t.b, s.c + t.c, s.d + t.d⟩

/-- Folds one block of sixteen words into the state. -/
def compress (s : ChainState) (words : Array UInt32) : ChainState :=
  s.add (Nat.fold 64 (fun i _ t => step words i t) s)

end ChainState

/-! ## Bytes and words -/

/-- The byte at a position, zero past the end. -/
def byteAt (bs : ByteArray) (i : Nat) : UInt8 := if h : i < bs.size then bs[i] else 0

/-- Four bytes as a word, the lowest first. -/
def leWord (b₀ b₁ b₂ b₃ : UInt8) : UInt32 :=
  b₀.toUInt32 ||| (b₁.toUInt32 <<< 8) ||| (b₂.toUInt32 <<< 16) ||| (b₃.toUInt32 <<< 24)

/-- The sixteen words of a block, given the byte at each position. -/
def blockWords (byte : Nat → UInt8) : Array UInt32 :=
  Array.ofFn fun i : Fin 16 =>
    leWord (byte (4 * i)) (byte (4 * i + 1)) (byte (4 * i + 2)) (byte (4 * i + 3))

/-- The lowest `n` bytes of a number, the lowest first. -/
def leBytes : Nat → Nat → List UInt8
  | 0, _ => []
  | n + 1, x => x.toUInt8 :: leBytes n (x / 256)

@[simp] theorem length_leBytes (n x : Nat) : (leBytes n x).length = n := by
  induction n generalizing x with
  | zero => rfl
  | succ n ih => simp [leBytes, ih]

/-- An upper-case hexadecimal digit. -/
def upperHexDigit (n : Nat) : Char := if n < 10 then Char.ofNat (48 + n) else Char.ofNat (55 + n)

/-- The two digits of a byte. -/
def upperHexByte (b : UInt8) : List Char := [upperHexDigit (b.toNat / 16), upperHexDigit (b.toNat % 16)]

/-- A state as 32 digits, word by word and each word from its lowest byte. -/
def ChainState.text (s : ChainState) : String :=
  String.ofList (([s.a, s.b, s.c, s.d].flatMap fun w => leBytes 4 w.toNat).flatMap upperHexByte)

/-! ## The standard -/

/-- What is appended to a message of `length` bytes: a one bit, zeros up to eight bytes before the end of a block, and
the length in bits. -/
def padding (length : Nat) : List UInt8 :=
  0x80 :: List.replicate ((119 - length % 64) % 64) 0 ++ leBytes 8 (8 * length)

theorem length_padded (n : Nat) : (n + (padding n).length) % 64 = 0 := by
  simp [padding]; omega

/-- Folds the full blocks of a list of bytes into a state; what is left after the last full block is dropped. -/
def compressBlocks (s : ChainState) (bytes : List UInt8) : ChainState :=
  if _h : 64 ≤ bytes.length then
    compressBlocks (s.compress (blockWords fun i => bytes.getD i 0)) (bytes.drop 64)
  else s
termination_by bytes.length
decreasing_by simp; omega

/-- The MD5 digest of a list of bytes, as upper-case hexadecimal digits. -/
def md5 (bytes : List UInt8) : String :=
  (compressBlocks .start (bytes ++ padding bytes.length)).text

/-! ## Bytes in pieces -/

/-- The digest of the bytes so far: the state after the full blocks, the bytes after them, and how many there were. -/
structure Digest where
  state : ChainState
  rest : ByteArray
  count : Nat
  rest_lt : rest.size < 64

namespace Digest

/-- The digest of no bytes. -/
def empty : Digest := ⟨.start, .empty, 0, by decide⟩

instance : Inhabited Digest := ⟨empty⟩

/-- Takes in one byte. -/
def push (g : Digest) (b : UInt8) : Digest :=
  let rest := g.rest.push b
  if h : rest.size < 64 then ⟨g.state, rest, g.count + 1, h⟩
  else ⟨g.state.compress (blockWords (byteAt rest)), .empty, g.count + 1, by decide⟩

/-- Takes in bytes, the first first. -/
def update (g : Digest) (bytes : ByteArray) : Digest := bytes.foldl push g

/-- The digits of the digest of the bytes so far. -/
def text (g : Digest) : String := ((padding g.count).foldl push g).state.text

/-- The digest of all bytes at once. -/
def of (bytes : ByteArray) : String := (empty.update bytes).text

/-! ## Several digests side by side -/

/-- What can be done to the `i`th of some digests. -/
inductive Act where
  | update (i : Nat) (bytes : ByteArray)
  | reset (i : Nat)
  /-- Its digits are asked for, and it begins anew. -/
  | checksum (i : Nat)
  /-- A copy of it joins the others as the last. -/
  | clone (i : Nat)

/-- The digits that an act gives, if any, and the digests after it; none if there is no such digest. -/
def act (gs : List Digest) : Act → Option (Option String × List Digest)
  | .update i bytes => gs[i]?.map fun g => (none, gs.set i (g.update bytes))
  | .reset i => gs[i]?.map fun _ => (none, gs.set i empty)
  | .checksum i => gs[i]?.map fun g => (some g.text, gs.set i empty)
  | .clone i => gs[i]?.map fun g => (none, gs ++ [g])

/-- The digests after a row of acts, none if one of them cannot be done. -/
def run (gs : List Digest) : List Act → Option (List Digest)
  | [] => some gs
  | a :: as => (act gs a).bind fun (_, gs') => run gs' as

end Digest

end Custodian
