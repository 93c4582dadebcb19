/-!
# Text as bytes

UTF-8 in both directions. Reading splits the bytes into pieces: a piece is a character, or a run of
bytes that starts like a character and cannot be finished as one. Strict reading refuses a text
with such a run, lenient reading shows each of them as one replacement character.
-/

namespace Slipway

abbrev Bytes := List UInt8

namespace Utf8

def encode (text : String) : Bytes :=
  text.toList.flatMap String.utf8EncodeChar

/-- A character of which the first bytes were read: how many bytes are missing, the value so far,
and the range in which the next byte has to lie. -/
structure Unfinished where
  missing : Nat
  value : Nat
  low : UInt8 := 0x80
  high : UInt8 := 0xBF

/-- What a byte means at the start of a character. -/
inductive Lead
  | whole (c : Char)
  | opens (u : Unfinished)
  | stray

/-- The narrower ranges after `E0`, `ED`, `F0` and `F4` keep out overlong forms, surrogates and
values above `10FFFF`. -/
def lead (b : UInt8) : Lead :=
  if b < 0x80 then .whole (Char.ofNat b.toNat)
  else if b < 0xC2 then .stray
  else if b < 0xE0 then .opens { missing := 1, value := b.toNat - 0xC0 }
  else if b = 0xE0 then .opens { missing := 2, value := 0, low := 0xA0 }
  else if b = 0xED then .opens { missing := 2, value := 0x0D, high := 0x9F }
  else if b < 0xF0 then .opens { missing := 2, value := b.toNat - 0xE0 }
  else if b = 0xF0 then .opens { missing := 3, value := 0, low := 0x90 }
  else if b < 0xF4 then .opens { missing := 3, value := b.toNat - 0xF0 }
  else if b = 0xF4 then .opens { missing := 3, value := 4, high := 0x8F }
  else .stray

/-- The pieces found so far, the latest first; `none` stands for a run that is no character. -/
structure Reading where
  unfinished : Option Unfinished := none
  found : List (Option Char) := []

/-- A byte with no character open. -/
def Reading.start (found : List (Option Char)) (b : UInt8) : Reading :=
  match lead b with
  | .whole c => { found := some c :: found }
  | .opens u => { unfinished := some u, found }
  | .stray => { found := none :: found }

/-- A byte that cannot continue the open character ends it and starts afresh. -/
def Reading.take (r : Reading) (b : UInt8) : Reading :=
  match r.unfinished with
  | none => .start r.found b
  | some u =>
    if u.low ≤ b ∧ b ≤ u.high then
      let value := u.value * 64 + (b.toNat - 0x80)
      if u.missing ≤ 1 then { found := some (Char.ofNat value) :: r.found }
      else { unfinished := some { missing := u.missing - 1, value }, found := r.found }
    else .start (none :: r.found) b

def Reading.pieces (r : Reading) : List (Option Char) :=
  match r.unfinished with
  | none => r.found.reverse
  | some _ => (none :: r.found).reverse

/-- The characters of `bytes`, with `none` for each run that is none. -/
def pieces (bytes : Bytes) : List (Option Char) :=
  (bytes.foldl Reading.take {}).pieces

/-- The text of `bytes`, unless some of them are no character. -/
def decode? (bytes : Bytes) : Option String :=
  let found := pieces bytes
  if found.all Option.isSome then some (String.ofList (found.filterMap id)) else none

/-- Stands in a text for bytes that are no character. -/
def replacement : Char := '\uFFFD'

def decodeLossy (bytes : Bytes) : String :=
  String.ofList ((pieces bytes).map (·.getD replacement))

end Utf8

end Slipway
