import Slipway.Archive.Deflate.Code
import Slipway.Archive.Deflate.Match
import Slipway.Text.Basic

/-!
# Compressed blocks

The second half of compression: tokens are collected into blocks, and each block is written with
codes of its own, with the fixed codes when it is short, or as it is when codes do not help.
-/

namespace Slipway.Deflate

/-! ## Bits -/

/-- Bits written so far: whole bytes, and less than eight bits of the next one. -/
structure BitWriter where
  bytes : Array UInt8 := #[]
  pending : Nat := 0
  count : Nat := 0

def BitWriter.emitBytes : (fuel : Nat) → BitWriter → BitWriter
  | 0, w => w
  | fuel + 1, w =>
    match w with
    | ⟨bytes, pending, count⟩ =>
      if count < 8 then ⟨bytes, pending, count⟩
      else emitBytes fuel ⟨bytes.push (UInt8.ofNat pending), pending / 256, count - 8⟩

/-- Writes the lowest `width` bits of `value`, the lowest first. -/
def BitWriter.put (w : BitWriter) (value width : Nat) : BitWriter :=
  match w with
  | ⟨bytes, pending, count⟩ =>
    emitBytes (width / 8 + 1)
      ⟨bytes, pending + (value % Nat.pow 2 width) * Nat.pow 2 count, count + width⟩

def BitWriter.putCode (w : BitWriter) (code : Code) : BitWriter := w.put code.bits code.length

/-- Fills up the open byte with zeros. -/
def BitWriter.align (w : BitWriter) : BitWriter :=
  if w.count = 0 then w else w.put 0 (8 - w.count)

/-! ## Symbols -/

/-- A range of values under one symbol: the lowest of them, and the bits that tell them apart. -/
structure Range where
  base : Nat
  extra : Nat

def lengthRanges : List Range := [
  ⟨3, 0⟩, ⟨4, 0⟩, ⟨5, 0⟩, ⟨6, 0⟩, ⟨7, 0⟩, ⟨8, 0⟩, ⟨9, 0⟩, ⟨10, 0⟩, ⟨11, 1⟩, ⟨13, 1⟩, ⟨15, 1⟩,
  ⟨17, 1⟩, ⟨19, 2⟩, ⟨23, 2⟩, ⟨27, 2⟩, ⟨31, 2⟩, ⟨35, 3⟩, ⟨43, 3⟩, ⟨51, 3⟩, ⟨59, 3⟩, ⟨67, 4⟩,
  ⟨83, 4⟩, ⟨99, 4⟩, ⟨115, 4⟩, ⟨131, 5⟩, ⟨163, 5⟩, ⟨195, 5⟩, ⟨227, 5⟩, ⟨258, 0⟩]

def distanceRanges : List Range := [
  ⟨1, 0⟩, ⟨2, 0⟩, ⟨3, 0⟩, ⟨4, 0⟩, ⟨5, 1⟩, ⟨7, 1⟩, ⟨9, 2⟩, ⟨13, 2⟩, ⟨17, 3⟩, ⟨25, 3⟩, ⟨33, 4⟩,
  ⟨49, 4⟩, ⟨65, 5⟩, ⟨97, 5⟩, ⟨129, 6⟩, ⟨193, 6⟩, ⟨257, 7⟩, ⟨385, 7⟩, ⟨513, 8⟩, ⟨769, 8⟩,
  ⟨1025, 9⟩, ⟨1537, 9⟩, ⟨2049, 10⟩, ⟨3073, 10⟩, ⟨4097, 11⟩, ⟨6145, 11⟩, ⟨8193, 12⟩,
  ⟨12289, 12⟩, ⟨16385, 13⟩, ⟨24577, 13⟩]

/-- The index of the last range that starts at `value` or below, and the range. -/
def rangeOf (value : Nat) (ranges : List Range) : Nat × Range :=
  go 0 ⟨0, 0⟩ ranges
where
  go : Nat → Range → List Range → Nat × Range
    | next, last, [] => (next - 1, last)
    | next, last, r :: rest => if r.base ≤ value then go (next + 1) r rest else (next - 1, last)

def endOfBlock : Nat := 256

/-- The symbols of a length start here. -/
def firstLength : Nat := 257

def countSymbol (counts : Array Nat) (symbol : Nat) : Array Nat :=
  counts.setIfInBounds symbol (counts.getD symbol 0 + 1)

/-- How often each literal or length, and each distance, occurs. -/
def countToken : Array Nat × Array Nat → Token → Array Nat × Array Nat
  | (literals, distances), .literal b => (countSymbol literals b.toNat, distances)
  | (literals, distances), .copy length distance =>
    (countSymbol literals (firstLength + (rangeOf length lengthRanges).1),
      countSymbol distances (rangeOf distance distanceRanges).1)

/-! ## Codes of a block -/

structure Codes where
  literals : Array Code
  distances : Array Code

/-- The lengths of the fixed codes. -/
def fixedLiteralLengths : List Nat :=
  List.replicate 144 8 ++ List.replicate 112 9 ++ List.replicate 24 7 ++ List.replicate 8 8

def fixedDistanceLengths : List Nat := List.replicate 32 5

def fixedCodes : Codes := ⟨codesOf 15 fixedLiteralLengths, codesOf 15 fixedDistanceLengths⟩

def putToken (codes : Codes) (w : BitWriter) : Token → BitWriter
  | .literal b => w.putCode (codes.literals.getD b.toNat {})
  | .copy length distance =>
    let (i, lengths) := rangeOf length lengthRanges
    let (j, distances) := rangeOf distance distanceRanges
    (((w.putCode (codes.literals.getD (firstLength + i) {})).put (length - lengths.base)
      lengths.extra).putCode (codes.distances.getD j {})).put (distance - distances.base)
      distances.extra

def putTokens (codes : Codes) (w : BitWriter) (tokens : Array Token) : BitWriter :=
  (tokens.foldl (putToken codes) w).putCode (codes.literals.getD endOfBlock {})

/-! ## The table of lengths -/

/-- A step of the table: a length, or a repetition with the number of times in extra bits. -/
structure TableStep where
  symbol : Nat
  value : Nat := 0
  extra : Nat := 0

/-- A run of one nonzero length, of which the first was written before. -/
def repeatSteps (length count : Nat) : List TableStep :=
  if count = 0 then []
  else if count < 3 then List.replicate count ⟨length, 0, 0⟩
  else [⟨16, count - 3, 2⟩]

def zeroSteps (count : Nat) : List TableStep :=
  if count = 0 then []
  else if count < 3 then List.replicate count ⟨0, 0, 0⟩
  else if count ≤ 10 then [⟨17, count - 3, 3⟩]
  else [⟨18, count - 11, 7⟩]

/-- The steps for a list of lengths. At most one of the two runs is open: `zeros` or `repeats` of
the length `last`. -/
def tableSteps : (last : Option Nat) → (zeros repeats : Nat) → List Nat → List TableStep
  | last, zeros, repeats, [] =>
    repeatSteps (last.getD 0) repeats ++ zeroSteps zeros
  | last, zeros, repeats, length :: rest =>
    if length = 0 then
      let before := repeatSteps (last.getD 0) repeats
      if zeros + 1 = 138 then before ++ zeroSteps 138 ++ tableSteps (some 0) 0 0 rest
      else before ++ tableSteps (some 0) (zeros + 1) 0 rest
    else if last = some length then
      if repeats + 1 = 6 then repeatSteps length 6 ++ tableSteps last 0 0 rest
      else tableSteps last 0 (repeats + 1) rest
    else
      zeroSteps zeros ++ repeatSteps (last.getD 0) repeats
        ++ ⟨length, 0, 0⟩ :: tableSteps (some length) 0 0 rest

/-- The order in which the lengths of the table's own codes are written. -/
def tableOrder : List Nat :=
  [16, 17, 18, 0, 8, 7, 9, 6, 10, 5, 11, 4, 12, 3, 13, 2, 14, 1, 15]

/-- Drops zeros from the end while more than `least` are left. -/
def dropZeros (least : Nat) (lengths : List Nat) : List Nat :=
  lengths.take (max least (lengths.reverse.dropWhile (· = 0)).length)

def putTable (w : BitWriter) (literals distances : List Nat) : BitWriter :=
  let literals := dropZeros 257 (literals.take 286)
  let distances := dropZeros 1 (distances.take 30)
  let steps := tableSteps none 0 0 (literals ++ distances)
  let counts := steps.foldl (fun counts s => countSymbol counts s.symbol) (Array.replicate 19 0)
  let lengths := lengthsFor 7 counts.toList
  let codes := codesOf 7 lengths
  let shown := dropZeros 4 (tableOrder.map (fun i => lengths.getD i 0))
  let w := ((w.put (literals.length - 257) 5).put (distances.length - 1) 5).put
    (shown.length - 4) 4
  let w := shown.foldl (fun w length => w.put length 3) w
  steps.foldl (fun w s => (w.putCode (codes.getD s.symbol {})).put s.value s.extra) w

/-! ## Blocks -/

/-- A block in progress. `room` counts what its tokens would take in a buffer of one byte for a
literal, three for a copy, and one more for each eight tokens. -/
structure Block where
  start : Nat
  tokens : Array Token := #[]
  span : Nat := 0
  room : Nat := 1

def Block.add (b : Block) (t : Token) : Block :=
  match b with
  | ⟨start, tokens, span, room⟩ =>
    let size := match t with
      | .literal _ => 1
      | .copy _ _ => 3
    let flags := if (tokens.size + 1) % 8 = 0 then 1 else 0
    ⟨start, tokens.push t, span + t.span, room + size + flags⟩

def bufferSize : Nat := 65536

/-- A block ends when its buffer is nearly full, or when it is long and its tokens do not save
much. -/
def Block.isFull (b : Block) : Bool :=
  bufferSize - 8 < b.room ∨ (31 * 1024 < b.span ∧ b.span ≤ b.room * 115 / 128)

def putCoded (w : BitWriter) (b : Block) : BitWriter :=
  if b.span < 48 then putTokens fixedCodes (w.put 1 2) b.tokens
  else
    let (literals, distances) := b.tokens.foldl countToken
      (Array.replicate 288 0, Array.replicate 32 0)
    let literals := lengthsFor 15 (literals.setIfInBounds endOfBlock 1).toList
    let distances := lengthsFor 15 distances.toList
    putTokens ⟨codesOf 15 literals, codesOf 15 distances⟩
      (putTable (w.put 2 2) literals distances) b.tokens

def putStored (w : BitWriter) (data : Array UInt8) (b : Block) : BitWriter :=
  let w := (((w.put 0 2).align).put b.span 16).put (65535 - b.span % 65536) 16
  (data.extract b.start (b.start + b.span)).foldl (fun w byte => w.put byte.toNat 8) w

/-- Writes a block. It is stored as it is when codes would not make it shorter and all of it is
still within the window of `window` bytes before `pos`. -/
def putBlock (w : BitWriter) (data : Array UInt8) (last : Bool) (pos window : Nat) (b : Block) :
    BitWriter :=
  let opened := w.put (if last then 1 else 0) 1
  let coded := putCoded opened b
  if 32 < b.span ∧ b.span ≤ coded.bytes.size - opened.bytes.size + 1 ∧ pos - b.start ≤ window then
    putStored opened data b
  else coded

/-! ## Compression -/

structure Compressor where
  matcher : Matcher := {}
  block : Block := { start := 0 }
  output : BitWriter := {}

def Compressor.step (data : Array UInt8) : Compressor → Compressor
  | ⟨matcher, block, output⟩ =>
    let (tokens, matcher) := matcher.step data
    let block := tokens.foldl Block.add block
    if block.isFull then
      let output := putBlock output data false matcher.pos matcher.window block
      ⟨matcher, { start := block.start + block.span }, output⟩
    else ⟨matcher, block, output⟩

/-- Each step goes on by a byte at least. -/
def Compressor.run (data : Array UInt8) : (fuel : Nat) → Compressor → Compressor
  | 0, c => c
  | fuel + 1, c => if data.size ≤ c.matcher.pos then c else run data fuel (c.step data)

def compress (bytes : Bytes) : Bytes :=
  let data := bytes.toArray
  let c := Compressor.run data data.size {}
  (putBlock c.output data true c.matcher.pos c.matcher.window c.block).align.bytes.toList

end Slipway.Deflate
