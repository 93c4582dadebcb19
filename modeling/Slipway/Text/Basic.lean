import Slipway.Text.Utf8

/-!
# Pieces of texts

Beginnings, ends, pieces and blanks of texts, bytes in hexadecimal, and numbers in a field of fixed
width.
-/

namespace Slipway

/-! ## Pieces -/

/-- What follows `beginning` in `text`, if the text starts with it. -/
def afterBeginning? (beginning text : String) : Option String :=
  (beginning.toList.isPrefixOf? text.toList).map String.ofList

def startsWith (text beginning : String) : Bool :=
  beginning.toList.isPrefixOf text.toList

def endsWith (text ending : String) : Bool :=
  ending.toList.isSuffixOf text.toList

/-- Whether `piece` stands somewhere in a text. -/
def isPieceOf (piece : List Char) : List Char → Bool
  | [] => piece.isEmpty
  | c :: rest => piece.isPrefixOf (c :: rest) || isPieceOf piece rest

/-! ## Blanks -/

def isBlank (c : Char) : Bool :=
  let n := c.toNat
  (9 ≤ n && n ≤ 13) || n == 0x20 || n == 0x85 || n == 0xA0 || n == 0x1680
    || (0x2000 ≤ n && n ≤ 0x200A) || n == 0x2028 || n == 0x2029 || n == 0x202F || n == 0x205F
    || n == 0x3000

/-- The text without the blanks before its first and after its last other character. -/
def trimBlanks (text : String) : String :=
  String.ofList (((text.toList.dropWhile isBlank).reverse.dropWhile isBlank).reverse)

/-! ## Digits -/

def hexDigit (n : Nat) : Char :=
  if n < 10 then Char.ofNat ('0'.toNat + n) else Char.ofNat ('a'.toNat + (n - 10))

def hexOfByte (b : UInt8) : List Char :=
  [hexDigit (b.toNat / 16), hexDigit (b.toNat % 16)]

/-- Two lowercase digits for each byte. -/
def hex (bytes : Bytes) : String :=
  String.ofList (bytes.flatMap hexOfByte)

def hexDigitValue? (c : Char) : Option Nat :=
  if '0' ≤ c ∧ c ≤ '9' then some (c.toNat - '0'.toNat)
  else if 'a' ≤ c ∧ c ≤ 'f' then some (c.toNat - 'a'.toNat + 10)
  else if 'A' ≤ c ∧ c ≤ 'F' then some (c.toNat - 'A'.toNat + 10)
  else none

/-- The lowest `width` digits of `n` to the given base, the highest first. -/
def fixedDigits (base : Nat) : (width : Nat) → (n : Nat) → List Char
  | 0, _ => []
  | width + 1, n => fixedDigits base width (n / base) ++ [hexDigit (n % base)]

/-- The number that digits to the given base, at most ten, write. -/
def readNatural? (base : Nat) (digits : List Char) : Option Nat :=
  if digits.isEmpty then none
  else
    digits.foldl (fun n c => n.bind fun n =>
      if '0' ≤ c ∧ c.toNat < '0'.toNat + base then some (n * base + (c.toNat - '0'.toNat)) else none)
      (some 0)

/-- A number of at most 64 bits. A plus sign may stand before its digits. -/
def readWord? (base : Nat) (text : String) : Option Nat :=
  let digits := match text.toList with
    | '+' :: rest => rest
    | all => all
  (readNatural? base digits).filter (· < Nat.pow 2 64)

/-- The bytes of `n`, the lowest first. -/
def littleEndian : (width : Nat) → (n : Nat) → Bytes
  | 0, _ => []
  | width + 1, n => UInt8.ofNat n :: littleEndian width (n / 256)

/-- The lowest `width` bytes of `n`, the highest first. -/
def bigEndian (width n : Nat) : Bytes :=
  (littleEndian width n).reverse

end Slipway
