import Slipway.Archive.Inflate
import Slipway.Digest.Checksum

/-!
# Gzip members

Compressed bytes with a header that names no file and no time, and a trailer that checks them.
-/

namespace Slipway.Gzip

/-- No file name, no time of change, and an unknown operating system. -/
def header : Bytes := [0x1f, 0x8b, 8, 0, 0, 0, 0, 0, 0, 0xff]

def trailer (content : Bytes) : Bytes :=
  littleEndian 4 (Crc32.checksum content).toNat ++ littleEndian 4 content.length

def compress (content : Bytes) : Bytes :=
  header ++ Deflate.compress content ++ trailer content

/-- Whether a file claims to be a gzip member. -/
def hasMagic (file : Bytes) : Bool := [0x1f, 0x8b, 8].isPrefixOf file

/-! ## Reading -/

/-- The longest text that a header may hold. -/
def maxHeaderText : Nat := 65535

/-- What follows a text that a NUL ends. -/
def afterText? (bytes : Bytes) : Option Bytes :=
  let text := bytes.takeWhile (· ≠ 0)
  if maxHeaderText < text.length ∨ text.length = bytes.length then none
  else some (bytes.drop (text.length + 1))

def skip? (count : Nat) (bytes : Bytes) : Option Bytes :=
  if bytes.length < count then none else some (bytes.drop count)

def hasFlag (flags bit : Nat) : Bool := flags / bit % 2 = 1

/-- What follows the header; the flags tell which optional parts it has. The last of them is a
checksum of the header itself. -/
def afterHeader? (file : Bytes) : Option Bytes := do
  if !hasMagic file then failure
  let flags := (file.getD 3 0).toNat
  if 32 ≤ flags then failure
  let mut rest ← skip? 10 file
  if hasFlag flags 4 then
    let count := (rest.getD 0 0).toNat + 256 * (rest.getD 1 0).toNat
    rest ← skip? (count + 2) rest
  if hasFlag flags 8 then rest ← afterText? rest
  if hasFlag flags 16 then rest ← afterText? rest
  if hasFlag flags 2 then
    let header := file.take (file.length - rest.length)
    let checksum := littleEndian 2 (Crc32.checksum header).toNat
    if rest.take 2 ≠ checksum then failure
    rest := rest.drop 2
  pure rest

/-- The content of the member that a file starts with, and the bytes behind it. -/
def decompress? (file : Bytes) : Option (Bytes × Bytes) := do
  let rest ← afterHeader? file
  let (content, behind) ← Inflate.decompress? rest
  if behind.take 8 ≠ trailer content then failure
  pure (content, behind.drop 8)

end Slipway.Gzip
