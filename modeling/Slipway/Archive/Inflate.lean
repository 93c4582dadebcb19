import Slipway.Archive.Deflate.Block

/-!
# Decompression

Reading compressed blocks back into bytes. A stream that breaks the format has no answer.
-/

namespace Slipway.Inflate

open Deflate (Range)

/-! ## Bits -/

/-- A place in a stream, in bits from its beginning. -/
structure BitReader where
  data : Array UInt8
  pos : Nat := 0

def BitReader.bit? (r : BitReader) : Option (Nat × BitReader) :=
  (r.data[r.pos / 8]?).map
    (fun b => ((b.toNat >>> (r.pos % 8)) % 2, { r with pos := r.pos + 1 }))

/-- The next `width` bits as a number, the first one lowest. -/
def BitReader.bits? : (width : Nat) → BitReader → Option (Nat × BitReader)
  | 0, r => some (0, r)
  | width + 1, r => do
    let (low, r) ← r.bit?
    let (high, r) ← bits? width r
    pure (low + 2 * high, r)

def BitReader.align (r : BitReader) : BitReader := { r with pos := (r.pos + 7) / 8 * 8 }

/-! ## Codes -/

/-- A code as the number of codes of each length from 1 on, and the symbols in the order of their
codes. -/
structure Decoder where
  counts : List Nat
  symbols : Array Nat

def Decoder.ofLengths (limit : Nat) (lengths : List Nat) : Decoder :=
  let indexed := lengths.zip (List.range lengths.length)
  let ofLength (length : Nat) := (indexed.filter (·.1 = length)).map (·.2)
  let groups := (List.range limit).map (fun i => ofLength (i + 1))
  ⟨groups.map List.length, groups.flatten.toArray⟩

/-- No more codes of a length than there is room for. -/
def Decoder.isSound (d : Decoder) : Bool :=
  (d.counts.foldl (fun (free : Option Nat) count =>
    free.bind (fun f => if count ≤ 2 * f then some (2 * f - count) else none)) (some 1)).isSome

/-- Goes down one bit with each length. `code` is what was read, `first` the first code of the
length before, and `index` the number of shorter codes. -/
def Decoder.descend (d : Decoder) :
    (counts : List Nat) → (code first index : Nat) → BitReader → Option (Nat × BitReader)
  | [], _, _, _, _ => none
  | count :: deeper, code, first, index, r => do
    let (bit, r) ← r.bit?
    let code := code * 2 + bit
    let first := first * 2
    if code < first + count then
      (d.symbols[index + (code - first)]?).map (·, r)
    else d.descend deeper code (first + count) (index + count) r

def Decoder.symbol? (d : Decoder) (r : BitReader) : Option (Nat × BitReader) :=
  d.descend d.counts 0 0 0 r

/-! ## Blocks -/

structure State where
  reader : BitReader
  output : Array UInt8

/-- Repeats `count` bytes from `distance` back, one at a time. -/
def copyBack (distance : Nat) : (count : Nat) → Array UInt8 → Array UInt8
  | 0, out => out
  | count + 1, out => copyBack distance count (out.push (out.getD (out.size - distance) 0))

def readRange? (ranges : List Range) (symbol : Nat) (r : BitReader) :
    Option (Nat × BitReader) := do
  let range ← ranges[symbol]?
  let (more, r) ← r.bits? range.extra
  pure (range.base + more, r)

/-- The symbols of a block up to its end. -/
def readTokens? (literals distances : Decoder) : (fuel : Nat) → State → Option State
  | 0, _ => none
  | fuel + 1, ⟨reader, output⟩ =>
    match literals.symbol? reader with
    | none => none
    | some (symbol, reader) =>
      if symbol < Deflate.endOfBlock then
        readTokens? literals distances fuel ⟨reader, output.push (UInt8.ofNat symbol)⟩
      else if symbol = Deflate.endOfBlock then some ⟨reader, output⟩
      else
        match readRange? Deflate.lengthRanges (symbol - Deflate.firstLength) reader with
        | none => none
        | some (length, reader) =>
          match distances.symbol? reader with
          | none => none
          | some (symbol, reader) =>
            match readRange? Deflate.distanceRanges symbol reader with
            | none => none
            | some (distance, reader) =>
              if output.size < distance then none
              else readTokens? literals distances fuel ⟨reader, copyBack distance length output⟩

def readStored? (reader : BitReader) (output : Array UInt8) : Option State := do
  let (count, reader) ← reader.align.bits? 16
  let (check, reader) ← reader.bits? 16
  if count + check ≠ 65535 then failure
  let start := reader.pos / 8
  if reader.data.size < start + count then failure
  pure ⟨{ reader with pos := (start + count) * 8 },
    output ++ reader.data.extract start (start + count)⟩

/-- The lengths of a table, `count` of them, with their repetitions; the latest first. -/
def readLengths? (d : Decoder) : (fuel count : Nat) → List Nat → BitReader →
    Option (List Nat × BitReader)
  | 0, _, _, _ => none
  | fuel + 1, count, found, r =>
    if found.length = count then some (found, r)
    else if count < found.length then none
    else do
      let (symbol, r) ← d.symbol? r
      if symbol < 16 then readLengths? d fuel count (symbol :: found) r
      else if symbol = 16 then
        let last ← found.head?
        let (more, r) ← r.bits? 2
        readLengths? d fuel count (List.replicate (more + 3) last ++ found) r
      else if symbol = 17 then
        let (more, r) ← r.bits? 3
        readLengths? d fuel count (List.replicate (more + 3) 0 ++ found) r
      else
        let (more, r) ← r.bits? 7
        readLengths? d fuel count (List.replicate (more + 11) 0 ++ found) r

/-- `count` numbers of three bits. -/
def readSmall? : (count : Nat) → BitReader → Option (List Nat × BitReader)
  | 0, r => some ([], r)
  | count + 1, r => do
    let (n, r) ← r.bits? 3
    let (rest, r) ← readSmall? count r
    pure (n :: rest, r)

def readTable? (r : BitReader) : Option (Decoder × Decoder × BitReader) := do
  let (literalCount, r) ← r.bits? 5
  let (distanceCount, r) ← r.bits? 5
  let (shownCount, r) ← r.bits? 4
  let (shown, r) ← readSmall? (shownCount + 4) r
  let own := (Deflate.tableOrder.zip shown).foldl
    (fun (lengths : Array Nat) (symbol, length) => lengths.setIfInBounds symbol length)
    (Array.replicate 19 0)
  let table := Decoder.ofLengths 7 own.toList
  if !table.isSound then failure
  let count := literalCount + 257 + distanceCount + 1
  let (backwards, r) ← readLengths? table (count + 1) count [] r
  let lengths := backwards.reverse
  let literals := Decoder.ofLengths 15 (lengths.take (literalCount + 257))
  let distances := Decoder.ofLengths 15 (lengths.drop (literalCount + 257))
  if !(literals.isSound && distances.isSound) then failure
  pure (literals, distances, r)

/-- The content of a block in the given form. Each symbol takes a bit at least. -/
def readContent? (form : Nat) (reader : BitReader) (output : Array UInt8) : Option State :=
  let fuel := reader.data.size * 8 + 1
  match form with
  | 0 => readStored? reader output
  | 1 =>
    let literals := Decoder.ofLengths 15 Deflate.fixedLiteralLengths
    let distances := Decoder.ofLengths 15 Deflate.fixedDistanceLengths
    readTokens? literals distances fuel ⟨reader, output⟩
  | 2 =>
    (readTable? reader).bind fun (literals, distances, reader) =>
      readTokens? literals distances fuel ⟨reader, output⟩
  | _ => none

def readBlock? : State → Option (Bool × State)
  | ⟨reader, output⟩ => do
    let (last, reader) ← reader.bits? 1
    let (form, reader) ← reader.bits? 2
    let state ← readContent? form reader output
    pure (last = 1, state)

def readBlocks? : (fuel : Nat) → State → Option State
  | 0, _ => none
  | fuel + 1, state => do
    let (last, state) ← readBlock? state
    if last then pure state else readBlocks? fuel state

/-- The bytes of a compressed stream, and what follows the stream. -/
def decompress? (stream : Bytes) : Option (Bytes × Bytes) := do
  let data := stream.toArray
  let state ← readBlocks? (data.size * 8 + 1) ⟨⟨data, 0⟩, #[]⟩
  pure (state.output.toList, stream.drop (state.reader.align.pos / 8))

/-! ## Streams with something wrong -/

/-- The symbols of a block as far as they can be read. -/
def tokensSoFar (literals distances : Decoder) : (fuel : Nat) → State → State
  | 0, state => state
  | fuel + 1, state =>
    match literals.symbol? state.reader with
    | none => state
    | some (symbol, reader) =>
      if symbol < Deflate.endOfBlock then
        tokensSoFar literals distances fuel ⟨reader, state.output.push (UInt8.ofNat symbol)⟩
      else
        let pair := do
          let (length, reader) ← readRange? Deflate.lengthRanges (symbol - Deflate.firstLength) reader
          let (symbol, reader) ← distances.symbol? reader
          let (distance, reader) ← readRange? Deflate.distanceRanges symbol reader
          pure (length, distance, reader)
        match pair with
        | some (length, distance, reader) =>
          if symbol = Deflate.endOfBlock ∨ state.output.size < distance then state
          else tokensSoFar literals distances fuel ⟨reader, copyBack distance length state.output⟩
        | none => state

/-- The content of a block that breaks off. -/
def blockSoFar (state : State) : State :=
  match (state.reader.bits? 1).bind (fun (_, r) => r.bits? 2) with
  | none => state
  | some (form, reader) =>
    let fuel := reader.data.size * 8 + 1
    match form with
    | 0 =>
      match reader.align.bits? 32 with
      | some (_, after) =>
        let start := after.pos / 8
        let data := after.data
        ⟨{ after with pos := data.size * 8 }, state.output ++ data.extract start data.size⟩
      | none => ⟨{ reader with pos := reader.data.size * 8 }, state.output⟩
    | 1 =>
      tokensSoFar (.ofLengths 15 Deflate.fixedLiteralLengths)
        (.ofLengths 15 Deflate.fixedDistanceLengths) fuel ⟨reader, state.output⟩
    | 2 =>
      match readTable? reader with
      | some (literals, distances, reader) =>
        tokensSoFar literals distances fuel ⟨reader, state.output⟩
      | none => ⟨reader, state.output⟩
    | _ => state

def blocksSoFar : (fuel : Nat) → State → State
  | 0, state => state
  | fuel + 1, state =>
    match readBlock? state with
    | some (true, state) => state
    | some (false, state) => blocksSoFar fuel state
    | none => blockSoFar state

/-- More bits than two symbols with their numbers have. -/
def maxTokenBits : Nat := 48

/-- What can be read of a stream that cannot be read to its end, if only its end is missing. -/
def decompressSoFar? (stream : Bytes) : Option Bytes :=
  let data := stream.toArray
  let state := blocksSoFar (data.size * 8 + 1) ⟨⟨data, 0⟩, #[]⟩
  let form : Option Nat := (state.reader.bits? 3).map (fun found => found.1 / 2)
  if state.reader.pos + maxTokenBits ≤ data.size * 8 ∨ (state.output.isEmpty ∧ form = some 3) then none
  else some state.output.toList

end Slipway.Inflate
