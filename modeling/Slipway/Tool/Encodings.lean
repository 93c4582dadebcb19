import Slipway.Tool.Lines

/-!
# Bytes as letters

Bytes are written with letters and digits only, in groups that have the same length.
-/

namespace Slipway.Tool

open Shell

/-! ## Groups of four letters -/

def base64Letters : Text :=
  "ABCDEFGHIJKLMNOPQRSTUVWXYZabcdefghijklmnopqrstuvwxyz0123456789+/".toList

/-- Four letters for three bytes. -/
def encodeBase64 : Bytes → Text
  | a :: b :: c :: rest =>
    let n := a.toNat * 65536 + b.toNat * 256 + c.toNat
    letter (n / 262144) :: letter (n / 4096) :: letter (n / 64) :: letter n :: encodeBase64 rest
  | [a, b] =>
    let n := a.toNat * 65536 + b.toNat * 256
    [letter (n / 262144), letter (n / 4096), letter (n / 64), '=']
  | [a] =>
    let n := a.toNat * 65536
    [letter (n / 262144), letter (n / 4096), '=', '=']
  | [] => []
where
  letter (n : Nat) : Char := base64Letters.getD (n % 64) '='

/-- The bytes of groups of four letters, and whether all could be read. -/
def decodeBase64 : (fuel : Nat) → Text → Bytes × Bool
  | 0, _ => ([], true)
  | fuel + 1, text =>
    let value := fun (c : Char) => base64Letters.findIdx? (· = c)
    let byte := fun (n : Nat) => UInt8.ofNat n
    match text with
    | [] => ([], true)
    | a :: b :: rest =>
      match value a, value b with
      | some x, some y =>
        let first := byte (x * 4 + y / 16)
        match rest with
        | '=' :: '=' :: rest =>
          let (more, ok) := decodeBase64 fuel rest
          (first :: more, ok)
        | c :: rest =>
          match value c with
          | none => ([first], false)
          | some z =>
            let second := byte (y % 16 * 16 + z / 4)
            match rest with
            | '=' :: rest =>
              let (more, ok) := decodeBase64 fuel rest
              (first :: second :: more, ok)
            | d :: rest =>
              match value d with
              | none => ([first, second], false)
              | some w =>
                let (more, ok) := decodeBase64 fuel rest
                (first :: second :: byte (z % 4 * 64 + w) :: more, ok)
            | [] => ([first, second], true)
        | [] => ([first], true)
      | _, _ => ([], false)
    | [_] => ([], false)

def wrapLines (width : Nat) : (fuel : Nat) → Text → List Text
  | 0, _ => []
  | fuel + 1, text =>
    if text.isEmpty then [] else text.take width :: wrapLines width fuel (text.drop width)

/-! ## Groups of eight letters -/

def base32Letters : Text := "ABCDEFGHIJKLMNOPQRSTUVWXYZ234567".toList

/-- Eight letters for five bytes; a shorter group is filled up. -/
def encodeBase32 : (fuel : Nat) → Bytes → Text
  | 0, _ => []
  | fuel + 1, bytes =>
    if bytes.isEmpty then []
    else
      let group := bytes.take 5
      let n := (group ++ List.replicate (5 - group.length) 0).foldl (fun n (b : UInt8) => n * 256 + b.toNat) 0
      let letters := fixedPlaces 8 n
      let count := (group.length * 8 + 4) / 5
      letters.take count ++ List.replicate (8 - count) '=' ++ encodeBase32 fuel (bytes.drop 5)
where
  fixedPlaces : (width : Nat) → (n : Nat) → Text
    | 0, _ => []
    | width + 1, n => fixedPlaces width (n / 32) ++ [base32Letters.getD (n % 32) '=']

/-- The bytes that the letters of one group stand for, and whether it is whole. The `ends` tell how
many letters are there at the end of each byte. -/
def decodeGroup (value : Nat) (bits : Nat) : (ends : List Nat) → (before : Nat) → Text → Bytes × Bool
  | [], _, _ => ([], true)
  | count :: ends, before, letters =>
    let taken := letters.take (count - before)
    if taken.head? = some '=' ∧ 0 < before then ([], letters.all (· = '='))
    else
      match taken.mapM (fun c => base32Letters.findIdx? (· = c)) with
      | none => ([], false)
      | some digits =>
        let value := digits.foldl (fun n d => n * 32 + d) value
        let bits := bits + 5 * digits.length - 8
        let scale := Nat.pow 2 bits
        let (more, ok) := decodeGroup (value % scale) bits ends count (letters.drop (count - before))
        (UInt8.ofNat (value / scale) :: more, ok)

/-- The bytes of groups of eight letters, and whether all could be read. -/
def decodeBase32 : (fuel : Nat) → Text → Bytes × Bool
  | 0, _ => ([], true)
  | fuel + 1, text =>
    if text.isEmpty then ([], true)
    else if text.length < 8 then ([], false)
    else
      let (bytes, ok) := decodeGroup 0 0 [2, 4, 5, 7, 8] 0 (text.take 8)
      if ok then
        let (more, ok) := decodeBase32 fuel (text.drop 8)
        (bytes ++ more, ok)
      else (bytes, false)

/-! ## Programs -/

/-- Writes an input with letters, or the bytes that its letters stand for. -/
def encodingProgram (letters : Text) (encode : Bytes → Text) (decode : Text → Bytes × Bool)
    (args : List Text) : Eval Nat :=
  withArguments [flag 'd' "decode", flag 'i' "ignore-garbage", setting 'w' "wrap"] args fun a => do
    let widthText := (a.value? "wrap").getD "76".toList
    match decimal? widthText, a.operands[1]? with
    | none, _ => do
      say ("invalid wrap size: " ++ emphasized widthText)
      pure 1
    | _, some extra => extraOperand extra
    | some width, none => do
      let name := a.operands.headD ['-']
      match ← readText name with
      | .error e => do
        let _ ← blameInput name e
        pure 1
      | .ok text =>
        if a.has "decode" then do
          let found := text.filter (fun c => c ≠ '\n'
            ∧ (!a.has "ignore-garbage" ∨ letters.contains c ∨ c = '='))
          let (bytes, ok) := decode found
          print (Text.ofBytes bytes)
          if !ok then say "invalid input"
          pure (if ok then 0 else 1)
        else do
          let written := encode (Text.toBytes text)
          if width = 0 then print written
          else (wrapLines width (written.length + 1) written).forM printLine
          pure 0

def base64 (args : List Text) : Eval Nat :=
  encodingProgram base64Letters encodeBase64 (fun text => decodeBase64 (text.length + 1) text) args

def base32 (args : List Text) : Eval Nat :=
  encodingProgram base32Letters (fun bytes => encodeBase32 (bytes.length + 1) bytes)
    (fun text => decodeBase32 (text.length + 1) text) args

end Slipway.Tool
