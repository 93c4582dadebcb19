import Slipway.Text.Utf8

/-!
# Short check sums

Sums of a few bytes: a cyclic redundancy check over the content and its length, a sum of rotated
bytes, and a plain sum. Behind them stands the cyclic redundancy check of gzip members, bit by bit
with the reflected polynomial.
-/

namespace Slipway.Checksum

def polynomial : UInt32 := 0x04c11db7

def shift (x : UInt32) : UInt32 :=
  if x &&& 0x80000000 = 0 then x <<< 1 else (x <<< 1) ^^^ polynomial

def absorb (x : UInt32) (b : UInt8) : UInt32 :=
  shift (shift (shift (shift (shift (shift (shift (shift (x ^^^ (b.toUInt32 <<< 24)))))))))

/-- The bytes of a number, the lowest first, without zeros behind them. -/
def lengthBytes : (fuel : Nat) → (n : Nat) → Bytes
  | 0, _ => []
  | fuel + 1, n => if n = 0 then [] else UInt8.ofNat n :: lengthBytes fuel (n / 256)

/-- The cyclic redundancy check of a content and its length. -/
def cyclic (bytes : Bytes) : UInt32 :=
  ~~~ ((bytes ++ lengthBytes 16 bytes.length).foldl absorb 0)

/-- Sixteen bits, rotated for each byte. -/
def rotating (bytes : Bytes) : Nat :=
  bytes.foldl (fun n b => (n / 2 + n % 2 * 32768 + b.toNat) % 65536) 0

/-- The sum of all bytes, in sixteen bits with the rest carried around. -/
def plain (bytes : Bytes) : Nat :=
  let sum := bytes.foldl (fun n b => n + b.toNat) 0 % 4294967296
  let folded := sum % 65536 + sum / 65536
  folded % 65536 + folded / 65536

end Slipway.Checksum

namespace Slipway.Crc32

def polynomial : UInt32 := 0xedb88320

def shift (x : UInt32) : UInt32 :=
  if x &&& 1 = 1 then (x >>> 1) ^^^ polynomial else x >>> 1

def absorb (x : UInt32) (b : UInt8) : UInt32 :=
  shift (shift (shift (shift (shift (shift (shift (shift (x ^^^ b.toUInt32))))))))

def checksum (bytes : Bytes) : UInt32 :=
  ~~~ (bytes.foldl absorb 0xffffffff)

end Slipway.Crc32
