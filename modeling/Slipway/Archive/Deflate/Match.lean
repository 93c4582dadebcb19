import Slipway.Text.Utf8

/-!
# Repetitions

The first half of compression: the bytes become literals and copies of earlier bytes. Earlier
bytes are found through chains of positions whose next three bytes hash alike. A copy is only
taken when the next position has no longer one.
-/

namespace Slipway.Deflate

inductive Token
  | literal (b : UInt8)
  | copy (length distance : Nat)
  deriving DecidableEq

/-- How many bytes a token stands for. -/
def Token.span : Token → Nat
  | literal _ => 1
  | copy length _ => length

/-- How far back a copy may reach. -/
def windowSize : Nat := 32768

def minMatch : Nat := 3
def maxMatch : Nat := 258

/-- A copy as long as this is taken at once. -/
def longMatch : Nat := 128

/-- From this length on the search for a longer copy is shortened. -/
def goodMatch : Nat := 32

/-- How many groups of three candidates are tried. -/
def probes (length : Nat) : Nat := if goodMatch ≤ length then 12 else 44

/-! ## The chains -/

/-- Positions are kept in sixteen bits. Zero stands for the end of a chain, so no copy is found at
a position that is kept as zero. -/
def positionRange : Nat := 65536

/-- `newest` has the last position for each hash, `older` the position before it on its chain. -/
structure Chains where
  newest : Array Nat
  older : Array Nat
  entered : Nat

def Chains.empty : Chains := ⟨Array.replicate windowSize 0, Array.replicate windowSize 0, 0⟩

def byteAt (data : Array UInt8) (i : Nat) : UInt8 := data.getD i 0

def hashAt (data : Array UInt8) (i : Nat) : Nat :=
  (((byteAt data i).toNat <<< 10) ^^^ ((byteAt data (i + 1)).toNat <<< 5)
    ^^^ (byteAt data (i + 2)).toNat) % windowSize

/-- Enters the position after the last one. -/
def Chains.enterOne (data : Array UInt8) : Chains → Chains
  | ⟨newest, older, entered⟩ =>
    let hash := hashAt data entered
    let before := newest.getD hash 0
    ⟨newest.setIfInBounds hash (entered % positionRange),
      older.setIfInBounds (entered % windowSize) before, entered + 1⟩

def Chains.enterMany (data : Array UInt8) : (count : Nat) → Chains → Chains
  | 0, c => c
  | count + 1, c => enterMany data count (c.enterOne data)

/-- Enters each position whose three bytes end at `stop` or before it. -/
def Chains.enterUpTo (c : Chains) (data : Array UInt8) (stop : Nat) : Chains :=
  enterMany data (stop + 1 - minMatch - c.entered) c

/-! ## The search for a copy -/

/-- How many bytes at `i` and `j` agree, at most `limit`. -/
def agreement (data : Array UInt8) (i j : Nat) : (limit : Nat) → Nat
  | 0 => 0
  | limit + 1 =>
    if byteAt data i = byteAt data j then agreement data (i + 1) (j + 1) limit + 1 else 0

structure Search where
  data : Array UInt8
  chains : Chains
  pos : Nat
  maxDistance : Nat
  maxLength : Nat

/-- The best copy that the chain from the candidate `from` on has. `group` counts the candidates
left of a group, `probes` the groups. A candidate is looked at more closely when it agrees in the
last two bytes that a longer copy needs. -/
def Search.follow (s : Search) : (fuel probes group candidate length distance : Nat) → Nat × Nat
  | 0, _, _, _, length, distance => (length, distance)
  | fuel + 1, probes, 0, candidate, length, distance =>
    if probes ≤ 1 then (length, distance)
    else s.follow fuel (probes - 1) 3 candidate length distance
  | fuel + 1, probes, group + 1, candidate, length, distance =>
    let older := s.chains.older.getD (candidate % windowSize) 0
    let back := (s.pos + positionRange - older) % positionRange
    if older = 0 ∨ s.maxDistance < back then (length, distance)
    else
      let start := s.pos - back
      if byteAt s.data (start + length - 1) ≠ byteAt s.data (s.pos + length - 1)
          ∨ byteAt s.data (start + length) ≠ byteAt s.data (s.pos + length) then
        s.follow fuel probes group older length distance
      else if back = 0 then (length, distance)
      else
        let found := agreement s.data start s.pos s.maxLength
        if length < found ∧ 2 ≤ found then
          if found = s.maxLength then (found, back)
          else s.follow fuel probes 0 older found back
        else s.follow fuel probes 0 older length distance

/-- A copy longer than `length`, or `(_, 0)`. -/
def Search.best (s : Search) (length : Nat) : Nat × Nat :=
  if s.maxLength ≤ length then (length, 0)
  else s.follow (4 * probes length + 4) (probes length) 0 s.pos length 0

/-! ## Tokens -/

/-- A copy that waits for the next position to have a longer one, with the byte it starts with. -/
structure Waiting where
  length : Nat
  distance : Nat
  first : UInt8

structure Matcher where
  chains : Chains := .empty
  pos : Nat := 0
  /-- How many bytes before `pos` copies may use. -/
  window : Nat := 0
  waiting : Option Waiting := none

/-- Short copies from far away are not worth their distance. -/
def usable (pos length distance : Nat) : Bool :=
  distance ≠ 0 ∧ ¬ (length = minMatch ∧ 8192 ≤ distance) ∧ pos % windowSize ≠ distance

/-- Settles the token for the next position: the new tokens, what waits now, and how far to go. -/
def settle (waiting : Option Waiting) (here : UInt8) (copy : Option (Nat × Nat)) :
    List Token × Option Waiting × Nat :=
  match waiting, copy with
  | none, none => ([.literal here], none, 1)
  | none, some (length, distance) =>
    if longMatch ≤ length then ([.copy length distance], none, length)
    else ([], some ⟨length, distance, here⟩, 1)
  | some w, some (length, distance) =>
    if w.length < length then
      if longMatch ≤ length then ([.literal w.first, .copy length distance], none, length)
      else ([.literal w.first], some ⟨length, distance, here⟩, 1)
    else ([.copy w.length w.distance], none, w.length - 1)
  | some w, none => ([.copy w.length w.distance], none, w.length - 1)

/-- The length that a copy at the next position has to beat. -/
def lengthToBeat : Option Waiting → Nat
  | some w => w.length
  | none => minMatch - 1

def Matcher.step (data : Array UInt8) : Matcher → List Token × Matcher
  | ⟨chains, pos, window, waiting⟩ =>
    let ahead := min maxMatch (data.size - pos)
    let chains := chains.enterUpTo data (pos + ahead)
    let window := min (windowSize - ahead) window
    let (length, distance) :=
      (Search.mk data chains pos window ahead).best (lengthToBeat waiting)
    let copy := if usable pos length distance then some (length, distance) else none
    let (tokens, waiting, move) := settle waiting (byteAt data pos) copy
    (tokens, ⟨chains, pos + move, min (window + move) windowSize, waiting⟩)

end Slipway.Deflate
