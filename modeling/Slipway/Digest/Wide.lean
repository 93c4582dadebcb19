import Slipway.Digest.Sha256

/-!
# Digests of wide words

SHA-512 works like SHA-256 with words of twice the size; SHA-384 and SHA-224 are cut from digests
with other starting values. BLAKE2b makes a digest of up to sixty-four bytes: sixteen words are
mixed in twelve rounds, each with its own order of the words of the message.
-/

/-! ## SHA-512 -/

namespace Slipway.Sha512

open Digest

structure State where
  a : UInt64
  b : UInt64
  c : UInt64
  d : UInt64
  e : UInt64
  f : UInt64
  g : UInt64
  h : UInt64

def initial : State := ⟨
  0x6a09e667f3bcc908, 0xbb67ae8584caa73b, 0x3c6ef372fe94f82b, 0xa54ff53a5f1d36f1,
  0x510e527fade682d1, 0x9b05688c2b3e6c1f, 0x1f83d9abfb41bd6b, 0x5be0cd19137e2179⟩

def initial384 : State := ⟨
  0xcbbb9d5dc1059ed8, 0x629a292a367cd507, 0x9159015a3070dd17, 0x152fecd8f70e5939,
  0x67332667ffc00b31, 0x8eb44a8768581511, 0xdb0c2e0d64f98fa7, 0x47b5481dbefa4fa4⟩

def roundConstants : List UInt64 := [
  0x428a2f98d728ae22, 0x7137449123ef65cd, 0xb5c0fbcfec4d3b2f, 0xe9b5dba58189dbbc,
  0x3956c25bf348b538, 0x59f111f1b605d019, 0x923f82a4af194f9b, 0xab1c5ed5da6d8118,
  0xd807aa98a3030242, 0x12835b0145706fbe, 0x243185be4ee4b28c, 0x550c7dc3d5ffb4e2,
  0x72be5d74f27b896f, 0x80deb1fe3b1696b1, 0x9bdc06a725c71235, 0xc19bf174cf692694,
  0xe49b69c19ef14ad2, 0xefbe4786384f25e3, 0x0fc19dc68b8cd5b5, 0x240ca1cc77ac9c65,
  0x2de92c6f592b0275, 0x4a7484aa6ea6e483, 0x5cb0a9dcbd41fbd4, 0x76f988da831153b5,
  0x983e5152ee66dfab, 0xa831c66d2db43210, 0xb00327c898fb213f, 0xbf597fc7beef0ee4,
  0xc6e00bf33da88fc2, 0xd5a79147930aa725, 0x06ca6351e003826f, 0x142929670a0e6e70,
  0x27b70a8546d22ffc, 0x2e1b21385c26c926, 0x4d2c6dfc5ac42aed, 0x53380d139d95b3df,
  0x650a73548baf63de, 0x766a0abb3c77b2a8, 0x81c2c92e47edaee6, 0x92722c851482353b,
  0xa2bfe8a14cf10364, 0xa81a664bbc423001, 0xc24b8b70d0f89791, 0xc76c51a30654be30,
  0xd192e819d6ef5218, 0xd69906245565a910, 0xf40e35855771202a, 0x106aa07032bbd1b8,
  0x19a4c116b8d2d0c8, 0x1e376c085141ab53, 0x2748774cdf8eeb99, 0x34b0bcb5e19b48a8,
  0x391c0cb3c5c95a63, 0x4ed8aa4ae3418acb, 0x5b9cca4f7763e373, 0x682e6ff3d6b2b8a3,
  0x748f82ee5defb2fc, 0x78a5636f43172f60, 0x84c87814a1f0ab72, 0x8cc702081a6439ec,
  0x90befffa23631e28, 0xa4506cebde82bde9, 0xbef9a3f7b2c67915, 0xc67178f2e372532b,
  0xca273eceea26619c, 0xd186b8c721c0c207, 0xeada7dd6cde0eb1e, 0xf57d4f7fee6ed178,
  0x06f067aa72176fba, 0x0a637dc5a2c898a6, 0x113f9804bef90dae, 0x1b710b35131c471b,
  0x28db77f523047d84, 0x32caab7b40c72493, 0x3c9ebe0a15c9bebc, 0x431d67c49c100d4c,
  0x4cc5d4becb3e42b6, 0x597f299cfc657e2a, 0x5fcb6fab3ad6faec, 0x6c44198c4a475817]

def wordOf (bytes : Bytes) : UInt64 := UInt64.ofNat (numberOfBytes bytes.reverse)

/-- The words of the schedule, the latest first. -/
def schedule : (more : Nat) → (words : List UInt64) → List UInt64
  | 0, words => words.reverse
  | more + 1, words =>
    let near := words.getD 1 0
    let far := words.getD 14 0
    let word := (rotateRightWide near 19 ^^^ rotateRightWide near 61 ^^^ near >>> 6)
      + words.getD 6 0
      + (rotateRightWide far 1 ^^^ rotateRightWide far 8 ^^^ far >>> 7) + words.getD 15 0
    schedule more (word :: words)

def round (s : State) (kw : UInt64 × UInt64) : State :=
  let mix := rotateRightWide s.e 14 ^^^ rotateRightWide s.e 18 ^^^ rotateRightWide s.e 41
  let choice := (s.e &&& s.f) ^^^ (~~~ s.e &&& s.g)
  let t := s.h + mix + choice + kw.1 + kw.2
  let mix2 := rotateRightWide s.a 28 ^^^ rotateRightWide s.a 34 ^^^ rotateRightWide s.a 39
  let majority := (s.a &&& s.b) ^^^ (s.a &&& s.c) ^^^ (s.b &&& s.c)
  ⟨t + (mix2 + majority), s.a, s.b, s.c, s.d + t, s.e, s.f, s.g⟩

def State.mix (s : State) (block : Bytes) : State :=
  let words := (groupsOf 8 16 block).map wordOf
  let t := (roundConstants.zip (schedule 64 words.reverse)).foldl round s
  ⟨s.a + t.a, s.b + t.b, s.c + t.c, s.d + t.d, s.e + t.e, s.f + t.f, s.g + t.g, s.h + t.h⟩

def digestFrom (start : State) (message : Bytes) : Bytes :=
  let blocks := padded 128 16 bigEndian message
  let s := foldBlocks 128 State.mix (blocks.length / 128) start blocks
  [s.a, s.b, s.c, s.d, s.e, s.f, s.g, s.h].flatMap (fun w => bigEndian 8 w.toNat)

def digest (message : Bytes) : Bytes := digestFrom initial message

def digest384 (message : Bytes) : Bytes := (digestFrom initial384 message).take 48

/-- The starting value of SHA-224, which is cut from a SHA-256 otherwise. -/
def initial224 : Sha256.State := ⟨
  0xc1059ed8, 0x367cd507, 0x3070dd17, 0xf70e5939, 0xffc00b31, 0x68581511, 0x64f98fa7, 0xbefa4fa4⟩

def digest224 (message : Bytes) : Bytes :=
  ((({ state := initial224 } : Sha256.Hasher).update message).finish).take 28

end Slipway.Sha512

/-! ## BLAKE2b -/

namespace Slipway.Blake2

open Digest

/-- The order of the words of a message in each round; the first two orders come again. -/
def orders : List (List Nat) := [
  [0, 1, 2, 3, 4, 5, 6, 7, 8, 9, 10, 11, 12, 13, 14, 15],
  [14, 10, 4, 8, 9, 15, 13, 6, 1, 12, 0, 2, 11, 7, 5, 3],
  [11, 8, 12, 0, 5, 2, 15, 13, 10, 14, 3, 6, 7, 1, 9, 4],
  [7, 9, 3, 1, 13, 12, 11, 14, 2, 6, 5, 10, 4, 0, 15, 8],
  [9, 0, 5, 7, 2, 4, 10, 15, 14, 1, 11, 12, 6, 8, 3, 13],
  [2, 12, 6, 10, 0, 11, 8, 3, 4, 13, 7, 5, 15, 14, 1, 9],
  [12, 5, 1, 15, 14, 13, 4, 10, 0, 7, 6, 3, 9, 2, 8, 11],
  [13, 11, 7, 14, 12, 1, 3, 9, 5, 0, 15, 4, 8, 6, 2, 10],
  [6, 15, 14, 9, 11, 3, 0, 8, 12, 2, 13, 7, 1, 4, 10, 5],
  [10, 2, 8, 4, 7, 6, 1, 5, 15, 11, 9, 14, 3, 12, 13, 0],
  [0, 1, 2, 3, 4, 5, 6, 7, 8, 9, 10, 11, 12, 13, 14, 15],
  [14, 10, 4, 8, 9, 15, 13, 6, 1, 12, 0, 2, 11, 7, 5, 3]]

/-- The places that are mixed with each other: columns, then diagonals. -/
def quarters : List (Nat × Nat × Nat × Nat) := [
  (0, 4, 8, 12), (1, 5, 9, 13), (2, 6, 10, 14), (3, 7, 11, 15),
  (0, 5, 10, 15), (1, 6, 11, 12), (2, 7, 8, 13), (3, 4, 9, 14)]

def start : List UInt64 :=
  let s := Sha512.initial
  [s.a, s.b, s.c, s.d, s.e, s.f, s.g, s.h]

def mixQuarter (v : Array UInt64) (place : Nat × Nat × Nat × Nat) (x y : UInt64) : Array UInt64 :=
  let (i, j, k, l) := place
  let a := v.getD i 0 + v.getD j 0 + x
  let d := rotateRightWide (v.getD l 0 ^^^ a) 32
  let c := v.getD k 0 + d
  let b := rotateRightWide (v.getD j 0 ^^^ c) 24
  let a := a + b + y
  let d := rotateRightWide (d ^^^ a) 16
  let c := c + d
  let b := rotateRightWide (b ^^^ c) 63
  (((v.setIfInBounds i a).setIfInBounds j b).setIfInBounds k c).setIfInBounds l d

def round (words : Array UInt64) (v : Array UInt64) (order : List Nat) : Array UInt64 :=
  let order := order.toArray
  quarters.zipIdx.foldl (fun v (place, i) =>
    mixQuarter v place (words.getD (order.getD (2 * i) 0) 0)
      (words.getD (order.getD (2 * i + 1) 0) 0)) v

/-- Mixes in a block, up to whose end so many bytes were there. -/
def mix (h : List UInt64) (block : Bytes) (count : Nat) (isLast : Bool) : List UInt64 :=
  let words := ((groupsOf 8 16 (block ++ List.replicate (128 - block.length) 0)).map
    (fun w => UInt64.ofNat (numberOfBytes w))).toArray
  let v := (h ++ start).toArray
  let v := v.setIfInBounds 12 (v.getD 12 0 ^^^ UInt64.ofNat count)
  let v := if isLast then v.setIfInBounds 14 (~~~ v.getD 14 0) else v
  let v := orders.foldl (round words) v
  h.zipIdx.map (fun (x, i) => x ^^^ v.getD i 0 ^^^ v.getD (i + 8) 0)

/-- Mixes in what is left of a message, of which so many bytes are done. -/
def mixAll : (fuel : Nat) → (h : List UInt64) → (done : Nat) → Bytes → List UInt64
  | 0, h, _, _ => h
  | fuel + 1, h, done, message =>
    if message.length ≤ 128 then mix h message (done + message.length) true
    else mixAll fuel (mix h (message.take 128) (done + 128) false) (done + 128) (message.drop 128)

/-- The digest of so many bytes. -/
def digest (size : Nat) (message : Bytes) : Bytes :=
  let h := match start with
    | first :: rest => (first ^^^ 0x01010000 ^^^ UInt64.ofNat size) :: rest
    | [] => []
  ((mixAll (message.length / 128 + 1) h 0 message).flatMap
    (fun w => littleEndian 8 w.toNat)).take size

end Slipway.Blake2
