import Slipway.Text.Utf8

/-!
# Characters

The classes that patterns and sets of characters can name, which have only ASCII characters in them,
and capital and small letters of the Latin, Greek and Cyrillic scripts. Texts of programs are bytes,
one character for each. Where a rule is about characters, the bytes are read as UTF-8; a byte that
belongs to no character stays as a character of its own at the end of the private range, so that no
byte is lost on the way back.
-/

namespace Slipway

/-! ## Classes of characters -/

def isPrintChar (c : Char) : Bool := ' ' ≤ c && c ≤ '~'

def isGraphChar (c : Char) : Bool := '!' ≤ c && c ≤ '~'

def isSpaceChar (c : Char) : Bool := c = ' ' || (9 ≤ c.toNat && c.toNat ≤ 13)

def isLowerChar (c : Char) : Bool := 'a' ≤ c && c ≤ 'z'

def isUpperChar (c : Char) : Bool := 'A' ≤ c && c ≤ 'Z'

def isLetterChar (c : Char) : Bool := isLowerChar c || isUpperChar c

def isDigitChar (c : Char) : Bool := '0' ≤ c && c ≤ '9'

def isHexChar (c : Char) : Bool :=
  isDigitChar c || ('a' ≤ c && c ≤ 'f') || ('A' ≤ c && c ≤ 'F')

def charClass? (name : String) : Option (Char → Bool) :=
  match name with
  | "alnum" => some (fun c => isLetterChar c || isDigitChar c)
  | "alpha" => some isLetterChar
  | "blank" => some (fun c => c = ' ' || c = '\t')
  | "cntrl" => some (fun c => c.toNat < 32 || c.toNat = 127)
  | "digit" => some isDigitChar
  | "graph" => some isGraphChar
  | "lower" => some isLowerChar
  | "print" => some isPrintChar
  | "punct" => some (fun c => isGraphChar c && !(isLetterChar c || isDigitChar c))
  | "space" => some isSpaceChar
  | "upper" => some isUpperChar
  | "xdigit" => some isHexChar
  | _ => none

def charClassNames : List String :=
  ["alnum", "alpha", "blank", "cntrl", "digit", "graph", "lower", "print", "punct", "space",
    "upper", "xdigit"]

/-! ## The case of letters -/

/-- Runs of capital letters whose small letters come at a distance behind them. -/
def distantCases : List (Nat × Nat × Nat) := [
  (0x41, 0x5A, 32), (0xC0, 0xD6, 32), (0xD8, 0xDE, 32), (0x391, 0x3A1, 32), (0x3A3, 0x3AB, 32),
  (0x410, 0x42F, 32), (0x400, 0x40F, 80), (0x531, 0x556, 48)]

/-- Runs of letters in which each small letter comes next to its capital letter. -/
def pairedCases : List (Nat × Nat) := [
  (0x100, 0x12F), (0x132, 0x137), (0x139, 0x148), (0x14A, 0x177), (0x179, 0x17E), (0x1E00, 0x1E95),
  (0x460, 0x481), (0x48A, 0x4BF), (0x4D0, 0x52F)]

/-- The small letter for a capital one. -/
def smallLetter (c : Char) : Char :=
  let n := c.toNat
  match distantCases.find? (fun (first, last, _) => first ≤ n && n ≤ last) with
  | some (_, _, distance) => Char.ofNat (n + distance)
  | none =>
    match pairedCases.find? (fun (first, last) => first ≤ n && n ≤ last) with
    | some (first, _) => if (n - first) % 2 = 0 then Char.ofNat (n + 1) else c
    | none => c

/-- The capital letter for a small one. -/
def capitalLetter (c : Char) : Char :=
  let n := c.toNat
  match distantCases.find? (fun (first, last, distance) =>
      first + distance ≤ n && n ≤ last + distance) with
  | some (_, _, distance) => Char.ofNat (n - distance)
  | none =>
    match pairedCases.find? (fun (first, last) => first ≤ n && n ≤ last) with
    | some (first, _) => if (n - first) % 2 = 1 then Char.ofNat (n - 1) else c
    | none => if n = 0xFF then Char.ofNat 0x178 else c

end Slipway

namespace Slipway.Characters

/-! ## Bytes as characters -/

/-- Stands for a byte that belongs to no character. -/
def stray (b : UInt8) : Char := Char.ofNat (0x10FF00 + b.toNat)

def isStray (c : Char) : Bool := 0x10FF80 ≤ c.toNat

/-- The characters read so far, the latest first, and the bytes of one that is not finished. -/
structure Reading where
  unfinished : Option Utf8.Unfinished := none
  pending : Bytes := []
  found : List Char := []

/-- A byte with no character open. -/
def Reading.start (found : List Char) (b : UInt8) : Reading :=
  match Utf8.lead b with
  | .whole c => { found := c :: found }
  | .opens u => { unfinished := some u, pending := [b], found }
  | .stray => { found := stray b :: found }

/-- The characters with those bytes as strays that were not finished. -/
def Reading.closed (r : Reading) : List Char := r.pending.map stray ++ r.found

def Reading.take (r : Reading) (b : UInt8) : Reading :=
  match r.unfinished with
  | none => .start r.found b
  | some u =>
    if u.low ≤ b ∧ b ≤ u.high then
      let value := u.value * 64 + (b.toNat - 0x80)
      if u.missing ≤ 1 then { found := Char.ofNat value :: r.found }
      else
        { unfinished := some { missing := u.missing - 1, value }
          pending := b :: r.pending, found := r.found }
    else .start r.closed b

/-- The characters of bytes that are given one by one. -/
def decode (text : List Char) : List Char :=
  if text.all (fun c => c.toNat < 0x80) then text
  else (text.foldl (fun r c => r.take (UInt8.ofNat c.toNat)) ({} : Reading)).closed.reverse

/-- The bytes of a character, one by one. -/
def encodeOne (c : Char) : List Char :=
  if c.toNat < 0x80 then [c]
  else if isStray c then [Char.ofNat (c.toNat - 0x10FF00)]
  else (String.utf8EncodeChar c).map (fun b => Char.ofNat b.toNat)

def encode (characters : List Char) : List Char :=
  if characters.all (fun c => c.toNat < 0x80) then characters
  else characters.flatMap encodeOne

/-- Whether a character can be shown. -/
def isShown (c : Char) : Bool := isPrintChar c || (0xA0 ≤ c.toNat && !isStray c)

end Slipway.Characters
