import Slipway.Text.Basic

/-!
# SHA-256

The classic digests work through a message block by block. Behind the message stand one bit, zeros
up to the end of a block but for a last field, and in this field the length of the message in bits.
This digest is fed one byte at a time, so feeding pieces is feeding what they join to. A content hash
is the digest of a file as text, and a checksum file has a line that names it.
-/

namespace Slipway.Digest

/-- The message with what stands behind it, up to whole blocks. The length has `field` bytes. -/
def padded (block field : Nat) (encode : (width n : Nat) → Bytes) (message : Bytes) : Bytes :=
  let zeros := (2 * block - 1 - field - message.length % block) % block
  message ++ 0x80 :: List.replicate zeros 0 ++ encode field (message.length * 8)

/-- Mixes the blocks of a message into a state, one after the other. -/
def foldBlocks {σ : Type} (block : Nat) (mix : σ → Bytes → σ) : (count : Nat) → σ → Bytes → σ
  | 0, state, _ => state
  | count + 1, state, message =>
    foldBlocks block mix count (mix state (message.take block)) (message.drop block)

/-- The number that bytes write, the lowest first. -/
def numberOfBytes (bytes : Bytes) : Nat := bytes.foldr (fun b n => b.toNat + 256 * n) 0

/-- Groups of so many bytes. -/
def groupsOf (size : Nat) : (count : Nat) → Bytes → List Bytes
  | 0, _ => []
  | count + 1, bytes => bytes.take size :: groupsOf size count (bytes.drop size)

def rotateLeft (x n : UInt32) : UInt32 := (x <<< n) ||| (x >>> (32 - n))

def rotateRightWide (x n : UInt64) : UInt64 := (x >>> n) ||| (x <<< (64 - n))

end Slipway.Digest

namespace Slipway.Sha256

/-- The eight chaining words. -/
structure State where
  a : UInt32
  b : UInt32
  c : UInt32
  d : UInt32
  e : UInt32
  f : UInt32
  g : UInt32
  h : UInt32

def initial : State :=
  ⟨0x6a09e667, 0xbb67ae85, 0x3c6ef372, 0xa54ff53a, 0x510e527f, 0x9b05688c, 0x1f83d9ab, 0x5be0cd19⟩

def roundConstants : List UInt32 := [
  0x428a2f98, 0x71374491, 0xb5c0fbcf, 0xe9b5dba5, 0x3956c25b, 0x59f111f1, 0x923f82a4, 0xab1c5ed5,
  0xd807aa98, 0x12835b01, 0x243185be, 0x550c7dc3, 0x72be5d74, 0x80deb1fe, 0x9bdc06a7, 0xc19bf174,
  0xe49b69c1, 0xefbe4786, 0x0fc19dc6, 0x240ca1cc, 0x2de92c6f, 0x4a7484aa, 0x5cb0a9dc, 0x76f988da,
  0x983e5152, 0xa831c66d, 0xb00327c8, 0xbf597fc7, 0xc6e00bf3, 0xd5a79147, 0x06ca6351, 0x14292967,
  0x27b70a85, 0x2e1b2138, 0x4d2c6dfc, 0x53380d13, 0x650a7354, 0x766a0abb, 0x81c2c92e, 0x92722c85,
  0xa2bfe8a1, 0xa81a664b, 0xc24b8b70, 0xc76c51a3, 0xd192e819, 0xd6990624, 0xf40e3585, 0x106aa070,
  0x19a4c116, 0x1e376c08, 0x2748774c, 0x34b0bcb5, 0x391c0cb3, 0x4ed8aa4a, 0x5b9cca4f, 0x682e6ff3,
  0x748f82ee, 0x78a5636f, 0x84c87814, 0x8cc70208, 0x90befffa, 0xa4506ceb, 0xbef9a3f7, 0xc67178f2]

def rotateRight (x n : UInt32) : UInt32 := (x >>> n) ||| (x <<< (32 - n))

/-- The words of a block, four bytes each, the highest byte first. -/
def wordsOfBlock : Bytes → List UInt32
  | w :: x :: y :: z :: rest =>
    (w.toUInt32 <<< 24 ||| x.toUInt32 <<< 16 ||| y.toUInt32 <<< 8 ||| z.toUInt32)
      :: wordsOfBlock rest
  | _ => []

/-- One more word of the message schedule, computed from the ones before it (the latest first). -/
def nextWord (words : List UInt32) : UInt32 :=
  let near := words.getD 1 0
  let far := words.getD 14 0
  (rotateRight near 17 ^^^ rotateRight near 19 ^^^ near >>> 10) + words.getD 6 0
    + (rotateRight far 7 ^^^ rotateRight far 18 ^^^ far >>> 3) + words.getD 15 0

def schedule : (more : Nat) → (words : List UInt32) → List UInt32
  | 0, words => words.reverse
  | more + 1, words => schedule more (nextWord words :: words)

def round (s : State) (kw : UInt32 × UInt32) : State :=
  let mix := rotateRight s.e 6 ^^^ rotateRight s.e 11 ^^^ rotateRight s.e 25
  let choice := (s.e &&& s.f) ^^^ (~~~ s.e &&& s.g)
  let t := s.h + mix + choice + kw.1 + kw.2
  let mix' := rotateRight s.a 2 ^^^ rotateRight s.a 13 ^^^ rotateRight s.a 22
  let majority := (s.a &&& s.b) ^^^ (s.a &&& s.c) ^^^ (s.b &&& s.c)
  ⟨t + (mix' + majority), s.a, s.b, s.c, s.d + t, s.e, s.f, s.g⟩

def State.add (s t : State) : State :=
  ⟨s.a + t.a, s.b + t.b, s.c + t.c, s.d + t.d, s.e + t.e, s.f + t.f, s.g + t.g, s.h + t.h⟩

/-- Mixes one block of 64 bytes into the state. -/
def State.mix (s : State) (block : Bytes) : State :=
  s.add ((roundConstants.zip (schedule 48 (wordsOfBlock block).reverse)).foldl round s)

def wordBytes (w : UInt32) : Bytes := bigEndian 4 w.toNat

def State.toBytes (s : State) : Bytes :=
  wordBytes s.a ++ wordBytes s.b ++ wordBytes s.c ++ wordBytes s.d
    ++ wordBytes s.e ++ wordBytes s.f ++ wordBytes s.g ++ wordBytes s.h

/-- A digest in progress: the bytes of the open block (the latest first) and how many bytes were
fed altogether. -/
structure Hasher where
  state : State := initial
  block : Bytes := []
  fed : Nat := 0

def Hasher.absorb (h : Hasher) (b : UInt8) : Hasher :=
  if h.fed % 64 = 63 then
    { state := h.state.mix (b :: h.block).reverse, block := [], fed := h.fed + 1 }
  else
    { h with block := b :: h.block, fed := h.fed + 1 }

def Hasher.update (h : Hasher) (bytes : Bytes) : Hasher :=
  bytes.foldl Hasher.absorb h

/-- One bit, zeros up to the last eight bytes of a block, then the length in bits. -/
def padding (fed : Nat) : Bytes :=
  0x80 :: List.replicate ((119 - fed % 64) % 64) 0 ++ bigEndian 8 (fed * 8)

def Hasher.finish (h : Hasher) : Bytes :=
  (h.update (padding h.fed)).state.toBytes

theorem Hasher.update_append (h : Hasher) (xs ys : Bytes) :
    h.update (xs ++ ys) = (h.update xs).update ys :=
  List.foldl_append

def digest (bytes : Bytes) : Bytes :=
  (({} : Hasher).update bytes).finish

end Slipway.Sha256

namespace Slipway

/-! ## Content hashes -/

/-- Sixty-four lowercase hexadecimal digits, when made by `ofBytes`. -/
structure ContentHash where
  digits : String
  deriving DecidableEq

namespace ContentHash

def ofDigest (digest : Bytes) : ContentHash := ⟨hex digest⟩

def ofBytes (content : Bytes) : ContentHash := ofDigest (Sha256.digest content)

/-- A line of a checksum file. -/
def checksumLine (hash : ContentHash) (fileName : String) : String :=
  hash.digits ++ "  " ++ fileName ++ "\n"

/-- The first twelve bytes of the digits, all of them when there are no more. There is no answer
when the cut would fall inside a character. -/
def short? (hash : ContentHash) : Option String :=
  if hash.digits.utf8ByteSize ≤ 12 then some hash.digits
  else Utf8.decode? ((Utf8.encode hash.digits).take 12)

end ContentHash

end Slipway
