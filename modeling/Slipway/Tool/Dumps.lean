import Slipway.Digest.Sha256
import Slipway.Tool.Lines

/-!
# Programs about bytes

Bytes as numbers, as letters and as hashes, and where two inputs differ.
-/

namespace Slipway.Tool

open Shell

/-! ## od -/

inductive DumpKind
  | named
  | char
  | signed
  | octal
  | unsigned
  | hexadecimal
  deriving DecidableEq

/-- A way of showing bytes. -/
structure DumpFormat where
  kind : DumpKind
  size : Nat
  /-- The characters are shown at the end of the line. -/
  withText : Bool := false

def controlNames : List String := [
  "nul", "soh", "stx", "etx", "eot", "enq", "ack", "bel", "bs", "ht", "nl", "vt", "ff", "cr", "so",
  "si", "dle", "dc1", "dc2", "dc3", "dc4", "nak", "syn", "etb", "can", "em", "sub", "esc", "fs",
  "gs", "rs", "us", "sp"]

/-- A byte as a character. -/
def dumpChar (n : Nat) : Text :=
  match n with
  | 0 => "\\0".toList
  | 7 => "\\a".toList
  | 8 => "\\b".toList
  | 9 => "\\t".toList
  | 10 => "\\n".toList
  | 11 => "\\v".toList
  | 12 => "\\f".toList
  | 13 => "\\r".toList
  | n => if 32 ≤ n ∧ n < 127 then [Char.ofNat n] else fixedDigits 8 3 n

/-- The number of columns that a value takes. -/
def DumpFormat.width (f : DumpFormat) : Nat :=
  match f.kind with
  | .named => 4
  | .char => 4
  | .hexadecimal => 1 + 2 * f.size
  | .octal => 1 + (8 * f.size + 2) / 3
  | .unsigned => 1 + (Nat.toDigits 10 (Nat.pow 256 f.size - 1)).length
  | .signed => 2 + (Nat.toDigits 10 (Nat.pow 256 f.size / 2)).length

/-- A value in its columns. -/
def DumpFormat.render (f : DumpFormat) (bytes : Bytes) : Text :=
  let n := (bytes.reverse.foldl (fun n b => n * 256 + b.toNat) 0)
  let text := match f.kind with
    | .named =>
      let c := n % 128
      if c ≤ 32 then (controlNames.getD c "").toList
      else if c = 127 then "del".toList else [Char.ofNat c]
    | .char => dumpChar n
    | .hexadecimal => fixedDigits 16 (2 * f.size) n
    | .octal => fixedDigits 8 ((8 * f.size + 2) / 3) n
    | .unsigned => naturalText n
    | .signed =>
      let size := Nat.pow 256 f.size
      textOfInt (if size / 2 ≤ n then (n : Int) - size else n)
  padLeft f.width text

def chunksOf (size : Nat) : (fuel : Nat) → Bytes → List Bytes
  | 0, _ => []
  | fuel + 1, bytes =>
    if bytes.isEmpty then [] else bytes.take size :: chunksOf size fuel (bytes.drop size)

/-- A line of a format; `step` columns belong to each value. -/
def DumpFormat.line (f : DumpFormat) (perLine columns : Nat) (bytes : Bytes) : Text :=
  let padded := bytes ++ List.replicate ((f.size - bytes.length % f.size) % f.size) 0
  let step := columns * f.size
  let values := (chunksOf f.size (bytes.length + 1) padded).flatMap
    (fun chunk => padLeft step (f.render chunk))
  if f.withText then
    padRight (perLine / f.size * step) values ++ "  >".toList
      ++ bytes.map (fun b => if 32 ≤ b.toNat ∧ b.toNat < 127 then Char.ofNat b.toNat else '.')
      ++ ['<']
  else values

/-- Formats from letters with sizes. -/
def readFormats : (fuel : Nat) → Text → Option (List DumpFormat)
  | 0, _ => none
  | fuel + 1, text =>
    match text with
    | [] => some []
    | c :: rest =>
      let kind? := match c with
        | 'a' => some DumpKind.named
        | 'c' => some .char
        | 'd' => some .signed
        | 'o' => some .octal
        | 'u' => some .unsigned
        | 'x' => some .hexadecimal
        | _ => none
      kind?.bind fun kind =>
        let isText := c = 'a' ∨ c = 'c'
        let digits := rest.takeWhile isDigitChar
        let rest := rest.drop digits.length
        let (size, rest) := match rest with
          | 'C' :: rest => (1, rest)
          | 'S' :: rest => (2, rest)
          | 'I' :: rest => (4, rest)
          | 'L' :: rest => (8, rest)
          | rest => (if digits.isEmpty then (if isText then 1 else 4) else valueOfDigits 10 digits, rest)
        let (withText, rest) := match rest with
          | 'z' :: rest => (true, rest)
          | rest => (false, rest)
        if !([1, 2, 4, 8].contains size) then none
        else (readFormats fuel rest).map ({ kind, size, withText } :: ·)

def dumpFlags : List Flag := [
  setting 'A' "address-radix", setting 'j' "skip-bytes", setting 'N' "read-bytes",
  setting 't' "format", flag 'v' "output-duplicates", { letter := some 'w', word := "width", takes := .optional },
  flag 'a', flag 'b', flag 'c', flag 'd', flag 'o', flag 'x', flag 's', flag 'i', flag 'l']

/-- The formats that options ask for. -/
def dumpFormats (a : Arguments) : Except Text (List DumpFormat) := do
  let found ← a.options.mapM fun o =>
    match o.1 with
    | "format" =>
      match readFormats (o.2.length + 1) o.2 with
      | some formats => Except.ok formats
      | none => .error o.2
    | "a" => .ok [{ kind := .named, size := 1 }]
    | "b" => .ok [{ kind := .octal, size := 1 }]
    | "c" => .ok [{ kind := .char, size := 1 }]
    | "d" => .ok [{ kind := .unsigned, size := 2 }]
    | "o" => .ok [{ kind := .octal, size := 2 }]
    | "x" => .ok [{ kind := .hexadecimal, size := 2 }]
    | "s" => .ok [{ kind := .signed, size := 2 }]
    | "i" => .ok [{ kind := .signed, size := 4 }]
    | "l" => .ok [{ kind := .signed, size := 8 }]
    | _ => .ok []
  let formats := found.flatten
  .ok (if formats.isEmpty then [{ kind := .octal, size := 2 }] else formats)

/-- Lines that repeat the one before are replaced by one star. -/
def dropRepeated : (before : Option Bytes) → (starred : Bool) → List (Nat × Bytes) →
    List (Option (Nat × Bytes))
  | _, _, [] => []
  | before, starred, (place, bytes) :: rest =>
    if before = some bytes ∧ !rest.isEmpty then
      (if starred then [] else [none]) ++ dropRepeated before true rest
    else some (place, bytes) :: dropRepeated (some bytes) false rest

def od (args : List Text) : Eval Nat :=
  withArguments dumpFlags args fun a => do
    match dumpFormats a with
    | .error text => do
      say ("invalid type string " ++ emphasized text)
      pure 1
    | .ok formats => do
      let (inputs, ok) ← readInputs (inputsOf a)
      if inputs.isEmpty then return 1
      let skipped := ((a.value? "skip-bytes").bind size?).getD 0
      let bytes := (Text.toBytes (inputs.flatMap (·.2))).drop skipped
      let bytes := match (a.value? "read-bytes").bind size? with
        | some n => bytes.take n
        | none => bytes
      let perLine := match a.value? "width" with
        | some text => (decimal? text).getD 32
        | none => 16
      let radix := String.ofList ((a.value? "address-radix").getD ['o'])
      let address (n : Nat) : Text := match radix with
        | "n" => []
        | "d" => padZeros 7 (Nat.toDigits 10 n)
        | "x" => padZeros 6 (Nat.toDigits 16 n)
        | _ => padZeros 7 (Nat.toDigits 8 n)
      let columns := (formats.map (fun f => (f.width + f.size - 1) / f.size)).foldl max 0
      let columns1 := if formats.length = 1 then 0 else columns
      let lines := chunksOf perLine (bytes.length + 1) bytes
      let placed := ((List.range lines.length).map (fun i => skipped + i * perLine)).zip lines
      let shownLines := if a.has "output-duplicates" then placed.map some
        else dropRepeated none false placed
      shownLines.forM fun line =>
        match line with
        | none => printLine ['*']
        | some (place, bytes) =>
          ((List.range formats.length).zip formats).forM fun (i, f) => do
            let start := if i = 0 then address place else List.replicate (address place).length ' '
            let width := if columns1 = 0 then 0 else columns1
            printLine (start ++ f.line perLine width bytes)
      if radix ≠ "n" then printLine (address (skipped + bytes.length))
      pure (if ok then 0 else 1)
where
  padZeros (width : Nat) (digits : Text) : Text :=
    List.replicate (width - digits.length) '0' ++ digits

/-! ## cmp -/

/-- The first place where two texts differ, with the number of its line. -/
def firstDifference : (place line : Nat) → Text → Text → Option (Nat × Nat × Option (Char × Char))
  | _, _, [], [] => none
  | place, line, c :: cs, d :: ds =>
    if c = d then firstDifference (place + 1) (if c = '\n' then line + 1 else line) cs ds
    else some (place, line, some (c, d))
  | place, line, _, _ => some (place, line, none)

def cmp (args : List Text) : Eval Nat :=
  withArguments [flag 'b' "print-bytes", setting 'i' "ignore-initial", flag 'l' "verbose",
      setting 'n' "bytes", flag 's' "quiet", longFlag "silent"] args (fun a => do
    let isQuiet := a.has "quiet" || a.has "silent"
    match a.operands with
    | [] => refuseOperands ("missing operand after '" ++ (← self).name.toString ++ "'")
    | _ :: _ :: _ :: _ :: extra :: _ => refuseOperands ("extra operand " ++ emphasized extra)
    | first :: more => do
      let second := more.headD ['-']
      let limit := (a.value? "bytes").bind size?
      let part (skip : Nat) (text : Text) : Text :=
        match limit with
        | some n => (text.drop skip).take n
        | none => text.drop skip
      let read (name : Text) (skip : Nat) : Eval (Except SystemError Text) :=
        Except.map (part skip) <$> readText name
      let skips := ((a.value? "ignore-initial").getD []).splitOn ':'
      let skip := (size? (skips.headD [])).getD 0
      match ← read first skip, ← read second ((skips[1]?.bind size?).getD skip) with
      | .error e, _ => do
        if !isQuiet then say (first.toString ++ ": " ++ errorText e)
        pure 2
      | _, .error e => do
        if !isQuiet then say (second.toString ++ ": " ++ errorText e)
        pure 2
      | .ok x, .ok y =>
        match firstDifference 1 1 x y with
        | none => pure 0
        | some found => do
          if !isQuiet then tell a first second x y found
          pure 1) true 2
where
  refuseOperands (text : String) : Eval Nat := do
    say text
    say ("Try '" ++ (← self).name.toString ++ " --help' for more information.")
    pure 2
  /-- Tells of the differences. -/
  tell (a : Arguments) (first second x y : Text) (found : Nat × Nat × Option (Char × Char)) :
      Eval Unit := do
    let (place, line, chars) := found
    let shorter := if x.length < y.length then first else second
    let count := min x.length y.length
    if a.has "verbose" then
      let width := (naturalText (max x.length y.length)).length
      ((List.range count).zip (x.zip y)).forM fun (i, c, d) =>
        if c = d then pure ()
        else printLine (padLeft width (naturalText (i + 1)) ++ ' ' :: padLeft 3 (Nat.toDigits 8 c.toNat)
          ++ ' ' :: padLeft 3 (Nat.toDigits 8 d.toNat))
      if x.length ≠ y.length then
        say ("EOF on " ++ shorter.toString ++ " after byte " ++ toString count)
    else
      match chars with
      | some _ =>
        printLine (first ++ ' ' :: second ++ " differ: char ".toList ++ naturalText place
          ++ ", line ".toList ++ naturalText line)
      | none =>
        if count = 0 then say ("EOF on " ++ shorter.toString ++ " which is empty")
        else
          let endsLine := (if x.length < y.length then x else y).getLast? = some '\n'
          say ("EOF on " ++ shorter.toString ++ " after byte " ++ toString count ++ ", "
            ++ (if endsLine then "line " ++ toString (line - 1) else "in line " ++ toString line))

end Slipway.Tool
