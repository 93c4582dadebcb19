import Slipway.Digest.Sha256

/-!
# Digests in four rounds

MD5 has sixteen bytes and rounds of sixteen steps, SHA-1 has twenty bytes and rounds of twenty
steps.
-/

/-! ## MD5 -/

namespace Slipway.Md5

open Digest

structure State where
  a : UInt32 := 0x67452301
  b : UInt32 := 0xefcdab89
  c : UInt32 := 0x98badcfe
  d : UInt32 := 0x10325476

def stepConstants : Array UInt32 := #[
  0xd76aa478, 0xe8c7b756, 0x242070db, 0xc1bdceee, 0xf57c0faf, 0x4787c62a, 0xa8304613, 0xfd469501,
  0x698098d8, 0x8b44f7af, 0xffff5bb1, 0x895cd7be, 0x6b901122, 0xfd987193, 0xa679438e, 0x49b40821,
  0xf61e2562, 0xc040b340, 0x265e5a51, 0xe9b6c7aa, 0xd62f105d, 0x02441453, 0xd8a1e681, 0xe7d3fbc8,
  0x21e1cde6, 0xc33707d6, 0xf4d50d87, 0x455a14ed, 0xa9e3e905, 0xfcefa3f8, 0x676f02d9, 0x8d2a4c8a,
  0xfffa3942, 0x8771f681, 0x6d9d6122, 0xfde5380c, 0xa4beea44, 0x4bdecfa9, 0xf6bb4b60, 0xbebfbc70,
  0x289b7ec6, 0xeaa127fa, 0xd4ef3085, 0x04881d05, 0xd9d4d039, 0xe6db99e5, 0x1fa27cf8, 0xc4ac5665,
  0xf4292244, 0x432aff97, 0xab9423a7, 0xfc93a039, 0x655b59c3, 0x8f0ccc92, 0xffeff47d, 0x85845dd1,
  0x6fa87e4f, 0xfe2ce6e0, 0xa3014314, 0x4e0811a1, 0xf7537e82, 0xbd3af235, 0x2ad7d2bb, 0xeb86d391]

/-- How far the steps of each round rotate, in turn. -/
def rotations : Array UInt32 := #[7, 12, 17, 22, 5, 9, 14, 20, 4, 11, 16, 23, 6, 10, 15, 21]

/-- What a step mixes in, and the place of the word that it takes. -/
def choice (s : State) (i : Nat) : UInt32 × Nat :=
  if i < 16 then ((s.b &&& s.c) ||| (~~~ s.b &&& s.d), i)
  else if i < 32 then ((s.d &&& s.b) ||| (~~~ s.d &&& s.c), 5 * i + 1)
  else if i < 48 then (s.b ^^^ s.c ^^^ s.d, 3 * i + 5)
  else (s.c ^^^ (s.b ||| ~~~ s.d), 7 * i)

def step (words : Array UInt32) (s : State) (i : Nat) : State :=
  let (f, place) := choice s i
  let sum := s.a + f + stepConstants.getD i 0 + words.getD (place % 16) 0
  ⟨s.d, s.b + rotateLeft sum (rotations.getD (i / 16 * 4 + i % 4) 0), s.b, s.c⟩

def State.mix (s : State) (block : Bytes) : State :=
  let words := ((groupsOf 4 16 block).map (fun w => UInt32.ofNat (numberOfBytes w))).toArray
  let t := (List.range 64).foldl (step words) s
  ⟨s.a + t.a, s.b + t.b, s.c + t.c, s.d + t.d⟩

def digest (message : Bytes) : Bytes :=
  let blocks := padded 64 8 littleEndian message
  let s := foldBlocks 64 State.mix (blocks.length / 64) {} blocks
  [s.a, s.b, s.c, s.d].flatMap (fun w => littleEndian 4 w.toNat)

end Slipway.Md5

/-! ## SHA-1 -/

namespace Slipway.Sha1

open Digest

structure State where
  a : UInt32 := 0x67452301
  b : UInt32 := 0xefcdab89
  c : UInt32 := 0x98badcfe
  d : UInt32 := 0x10325476
  e : UInt32 := 0xc3d2e1f0

/-- The words of the schedule, the latest first. -/
def schedule : (more : Nat) → (words : List UInt32) → List UInt32
  | 0, words => words.reverse
  | more + 1, words =>
    let word := words.getD 2 0 ^^^ words.getD 7 0 ^^^ words.getD 13 0 ^^^ words.getD 15 0
    schedule more (rotateLeft word 1 :: words)

def choice (s : State) (i : Nat) : UInt32 × UInt32 :=
  if i < 20 then ((s.b &&& s.c) ||| (~~~ s.b &&& s.d), 0x5a827999)
  else if i < 40 then (s.b ^^^ s.c ^^^ s.d, 0x6ed9eba1)
  else if i < 60 then ((s.b &&& s.c) ||| (s.b &&& s.d) ||| (s.c &&& s.d), 0x8f1bbcdc)
  else (s.b ^^^ s.c ^^^ s.d, 0xca62c1d6)

def step (s : State) (word : UInt32 × Nat) : State :=
  let (f, k) := choice s word.2
  ⟨rotateLeft s.a 5 + f + s.e + k + word.1, s.a, rotateLeft s.b 30, s.c, s.d⟩

def State.mix (s : State) (block : Bytes) : State :=
  let t := (schedule 64 (Sha256.wordsOfBlock block).reverse).zipIdx.foldl step s
  ⟨s.a + t.a, s.b + t.b, s.c + t.c, s.d + t.d, s.e + t.e⟩

def digest (message : Bytes) : Bytes :=
  let blocks := padded 64 8 bigEndian message
  let s := foldBlocks 64 State.mix (blocks.length / 64) {} blocks
  [s.a, s.b, s.c, s.d, s.e].flatMap (fun w => bigEndian 4 w.toNat)

end Slipway.Sha1
