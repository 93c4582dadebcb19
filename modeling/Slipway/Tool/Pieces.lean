import Slipway.Regex.Parser
import Slipway.Tool.Blocks

/-!
# Cutting files into pieces

Pieces of a given size or number, in files whose names count up, and pieces that end at lines that
fit patterns.
-/

namespace Slipway.Tool

open Shell

/-! ## Names that count up -/

/-- The digits of a number to a base, with so many places. -/
def placesOfNumber (alphabet : Text) : (width : Nat) → (n : Nat) → Text
  | 0, _ => []
  | width + 1, n =>
    placesOfNumber alphabet width (n / alphabet.length) ++ [alphabet.getD (n % alphabet.length) '?']

/-- The ending of a name by its number. Unless the `width` is fixed, endings whose first place has
come to the last letter get longer. -/
def countedEnding (alphabet : Text) (width : Nat) (isFixed : Bool) : (fuel : Nat) → (n : Nat) →
    Option Text
  | 0, _ => none
  | fuel + 1, n =>
    let size := alphabet.length
    let all := Nat.pow size width
    if isFixed then if n < all then some (placesOfNumber alphabet width n) else none
    else
      let free := (size - 1) * (all / size)
      if n < free then some (placesOfNumber alphabet width n)
      else (countedEnding alphabet (width + 1) false fuel (n - free)).map
        (fun ending => alphabet.getLastD '?' :: ending)

/-! ## split -/

/-- How a file is cut. -/
inductive Cut
  | lines (count : Nat)
  | bytes (count : Nat)
  /-- Whole lines with at most so many bytes. -/
  | lineBytes (count : Nat)
  /-- A number of pieces, of bytes, whole lines, or lines in turn; or only one of them. -/
  | chunks (kind : Char) (only : Option Nat) (count : Nat)

/-- Groups of at most so many things. -/
def inGroups {α : Type} (size : Nat) : (fuel : Nat) → List α → List (List α)
  | 0, _ => []
  | fuel + 1, items =>
    if items.isEmpty then [] else items.take size :: inGroups size fuel (items.drop size)

/-- Lines in groups with at most so many bytes; a longer line is cut. -/
def filledLines (size : Nat) : (fuel : Nat) → (current : Text) → List Text → List Text
  | 0, current, _ => [current]
  | _, current, [] => if current.isEmpty then [] else [current]
  | fuel + 1, current, line :: rest =>
    if current.length + line.length ≤ size then filledLines size fuel (current ++ line) rest
    else if current.isEmpty then
      line.take size :: filledLines size fuel [] (line.drop size :: rest)
    else current :: filledLines size fuel [] (line :: rest)

/-- Pieces of bytes, of which the last one takes what is left. -/
def evenPieces (count : Nat) (text : Text) : List Text :=
  let size := max 1 (text.length / count)
  (List.range count).map fun i =>
    if i + 1 = count then text.drop (i * size) else (text.drop (i * size)).take size

/-- Whole lines in pieces: a line belongs to the piece in which it begins. -/
def linePieces (count : Nat) (separator : Char) (text : Text) : List Text :=
  let size := max 1 (text.length / count)
  let lines := wholeParts separator text
  let starts := lines.foldl (fun (starts, at_) line => (starts ++ [(at_, line)], at_ + line.length))
    (([] : List (Nat × Text)), 0)
  (List.range count).map fun i =>
    (starts.1.filter (fun (start, _) => min (start / size) (count - 1) = i)).flatMap (·.2)
where
  wholeParts (separator : Char) : Text → List Text
    | [] => []
    | c :: rest =>
      if c = separator then [c] :: wholeParts separator rest
      else
        match wholeParts separator rest with
        | [] => [[c]]
        | first :: others => (c :: first) :: others

def turnPieces (count : Nat) (separator : Char) (text : Text) : List Text :=
  let lines := (linePieces.wholeParts separator text).zipIdx
  (List.range count).map fun i => (lines.filter (fun (_, n) => n % count = i)).flatMap (·.1)

def Cut.pieces (cut : Cut) (separator : Char) (text : Text) : List Text :=
  match cut with
  | .lines count =>
    (inGroups count (text.length + 1) (linePieces.wholeParts separator text)).map List.flatten
  | .bytes count => inGroups count (text.length + 1) text
  | .lineBytes count =>
    filledLines count (2 * text.length + 2) [] (linePieces.wholeParts separator text)
  | .chunks kind only count =>
    let all := if kind = 'l' then linePieces count separator text
      else if kind = 'r' then turnPieces count separator text else evenPieces count text
    match only with
    | some k => [all.getD (k - 1) []]
    | none => all

/-- A count of pieces: a number, one piece out of a number, and how lines are treated. -/
def readChunks (text : Text) : Except String Cut :=
  let (kind, rest) := match text with
    | 'l' :: '/' :: rest => ('l', rest)
    | 'r' :: '/' :: rest => ('r', rest)
    | rest => (' ', rest)
  match rest.splitOn '/' with
  | [n] =>
    match size? n with
    | some (n + 1) => .ok (.chunks kind none (n + 1))
    | _ => .error ("invalid number of chunks: " ++ emphasized n)
  | [k, n] =>
    match size? k, size? n with
    | some k, some (n + 1) =>
      if k = 0 ∨ n + 1 < k then .error ("invalid chunk number: " ++ emphasized (naturalText k))
      else .ok (.chunks kind (some k) (n + 1))
    | _, _ => .error ("invalid number of chunks: " ++ emphasized n)
  | _ => .error ("invalid number of chunks: " ++ emphasized text)

/-- The ways to cut that options ask for; there may be only one. -/
def readCut (a : Arguments) : Except (String × Bool) Cut := do
  let keys := ["lines", "bytes", "line-bytes", "number"]
  let given := a.options.filter (fun option => keys.contains option.1)
  match given with
  | [] => .ok (.lines 1000)
  | [(key, value)] =>
    let number (kind : String) (cut : Nat → Cut) : Except (String × Bool) Cut :=
      match size? value with
      | some (n + 1) => .ok (cut (n + 1))
      | _ => .error ("invalid number of " ++ kind ++ ": " ++ emphasized value, false)
    match key with
    | "lines" => number "lines" .lines
    | "bytes" => number "bytes" .bytes
    | "line-bytes" => number "lines" .lineBytes
    | _ => (readChunks value).mapError (·, false)
  | _ => .error ("cannot split in more than one way", true)

def splitFlags : List Flag := [
  setting 'a' "suffix-length", longFlag "additional-suffix" .value, setting 'b' "bytes",
  setting 'C' "line-bytes", { letter := some 'd', word := "", takes := .nothing },
  longFlag "numeric-suffixes" .optional, flag 'x', longFlag "hex-suffixes" .optional,
  flag 'e' "elide-empty-files", longFlag "filter" .value, setting 'l' "lines", setting 'n' "number",
  setting 't' "separator", flag 'u' "unbuffered", longFlag "verbose"]

/-- A number alone as an option is a count of lines. -/
def spellLines (args : List Text) : List Text :=
  args.map fun arg =>
    match arg with
    | '-' :: d :: rest => if (d :: rest).all isDigitChar then "-l".toList ++ d :: rest else arg
    | arg => arg

/-- Writes a piece into a file. -/
def writePiece (name text : Text) : Eval Bool := do
  match ← openFile .write name with
  | .error e => blame (shown name ++ ": " ++ errorText e)
  | .ok id =>
    match ← writeTo id text.toBytes with
    | .ok () => pure true
    | .error e => blame (shown name ++ ": " ++ errorText e)

def split (args : List Text) : Eval Nat :=
  withArguments splitFlags (spellLines args) fun a => do
    match readCut a, a.operands with
    | .error (text, isUsage), _ => if isUsage then misuse text else do
        say text
        pure 1
    | _, _ :: _ :: extra :: _ => extraOperand extra
    | .ok cut, operands => do
      let input := operands.headD ['-']
      let start := operands.getD 1 ['x']
      let alphabet := match a.lastOf ["d", "numeric-suffixes", "x", "hex-suffixes"] with
        | some "d" => "0123456789".toList
        | some "numeric-suffixes" => "0123456789".toList
        | some _ => "0123456789abcdef".toList
        | none => "abcdefghijklmnopqrstuvwxyz".toList
      let first := (((a.value? "numeric-suffixes").orElse (fun _ => a.value? "hex-suffixes")).bind
        decimal?)
      let width := ((a.value? "suffix-length").bind decimal?).filter (0 < ·)
      match ← openInput input with
      | .error e => do
        say ("cannot open " ++ quoted input ++ " for reading: " ++ errorText e)
        pure 1
      | .ok id =>
        match ← readAll id with
        | .error e => do
          say (shown input ++ ": " ++ errorText e)
          pure 1
        | .ok bytes => do
          let separator := match a.value? "separator" with
            | some [c] => c
            | some ['\\', '0'] => '\x00'
            | _ => '\n'
          let pieces := cut.pieces separator (Text.ofBytes bytes)
          match cut with
          | .chunks _ (some _) _ => do
            print pieces.flatten
            pure 0
          | _ => do
            let pieces := if a.has "elide-empty-files" then pieces.filter (!·.isEmpty) else pieces
            writeAll a alphabet (width.getD 2) (width.isSome || first.isSome) start (first.getD 0)
              pieces
where
  writeAll (a : Arguments) (alphabet : Text) (width : Nat) (isFixed : Bool) (start : Text) :
      (n : Nat) → List Text → Eval Nat
    | _, [] => pure 0
    | n, piece :: rest => do
      match countedEnding alphabet width isFixed 100 n with
      | none => do
        say "output file suffixes exhausted"
        pure 1
      | some ending => do
        let name := start ++ ending ++ (a.value? "additional-suffix").getD []
        if a.has "verbose" then printLine ("creating file ".toList ++ (quoted name).toList)
        if ← writePiece name piece then writeAll a alphabet width isFixed start (n + 1) rest
        else pure 1

/-! ## csplit -/

/-- Where a piece ends. -/
inductive Border
  | line (number : Nat)
  /-- The line that fits, so many lines on; what is in front of it may be left out. -/
  | match (regex : Regex) (offset : Int) (skips : Bool)

/-- A border with its text and with how often it is used again, if not for ever. -/
structure RepeatedBorder where
  text : Text
  border : Border
  times : Option Nat := some 0

/-- A pattern between two marks, and a number of lines behind it. -/
def readBorder? (text : Text) : Option Border :=
  match text with
  | mark :: rest =>
    if mark = '/' ∨ mark = '%' then
      let body := (rest.reverse.dropWhile (· ≠ mark)).reverse
      let after := rest.drop body.length
      if body.isEmpty then none
      else
        match number? 10 (if after.isEmpty then ['0'] else after), Regex.parse false body.dropLast with
        | some offset, .ok (regex, _) => some (.match regex offset (mark = '%'))
        | _, _ => none
    else (decimal? text).map .line
  | [] => none

/-- All borders, each with what is said behind it about how often it comes. -/
def readBorders : List Text → Except String (List RepeatedBorder)
  | [] => .ok []
  | text :: rest => do
    match readBorder? text with
    | none => .error (emphasized text ++ ": invalid pattern")
    | some border =>
      match rest with
      | ('\x7b' :: count) :: rest =>
        let count := count.dropLast
        let more ← readBorders rest
        if count = ['*'] then .ok (⟨text, border, none⟩ :: more)
        else .ok (⟨text, border, decimal? count⟩ :: more)
      | rest => return ⟨text, border, some 0⟩ :: (← readBorders rest)

/-- The lines that are left, their first number, and the pieces so far, the latest first. -/
structure Splitter where
  lines : List Text
  number : Nat := 1
  pieces : List Text := []

/-- Cuts off the lines in front of one. -/
def Splitter.cut (s : Splitter) (number : Nat) (keeps : Bool) : Splitter :=
  let count := number - s.number
  { lines := s.lines.drop count
    number
    pieces := if keeps then (s.lines.take count).flatten :: s.pieces else s.pieces }

/-- Uses a border once; none if it is not found. The first line of a piece is not looked at again. -/
def Splitter.use (s : Splitter) (border : Border) : Except String Splitter :=
  match border with
  | .line number =>
    if number < s.number ∨ s.number + s.lines.length < number + 1 then .error "line number out of range"
    else .ok (s.cut number true)
  | .match regex offset skips =>
    let skipped := if s.pieces.isEmpty ∧ s.number = 1 then 0 else 1
    let found := (s.lines.drop skipped).findIdx? fun line =>
      (regex.find? {} (line.reverse.dropWhile (· = '\n')).reverse.toArray).isSome
    match found with
    | none => .error "match not found"
    | some i =>
      let target : Int := s.number + skipped + i + offset
      if target < s.number ∨ s.number + s.lines.length < target then .error "line number out of range"
      else .ok (s.cut target.toNat (!skips))

def Splitter.useAgain (b : RepeatedBorder) : (fuel : Nat) → (n : Nat) → Splitter →
    Splitter × Option String
  | 0, _, s => (s, none)
  | fuel + 1, n, s =>
    let border := match b.border with
      | .line number => .line (number * (n + 1))
      | border => border
    match s.use border with
    | .error text =>
      if b.times.isNone then (s, none)
      else (s, some (emphasized b.text ++ ": " ++ text
        ++ (if n = 0 then "" else " on repetition " ++ toString n)))
    | .ok s =>
      if b.times.isNone ∨ n < b.times.getD 0 then useAgain b fuel (n + 1) s else (s, none)

def csplitFlags : List Flag := [
  setting 'b' "suffix-format", setting 'f' "prefix", flag 'k' "keep-files", setting 'n' "digits",
  flag 's' "quiet", longFlag "silent", flag 'z' "elide-empty-files", longFlag "suppress-matched"]

def csplit (args : List Text) : Eval Nat :=
  withArguments csplitFlags args fun a => do
    match a.operands with
    | [] => missingOperand
    | [only] => misuse ("missing operand after " ++ emphasized only)
    | input :: texts =>
      match readBorders texts with
      | .error text => do
        say text
        pure 1
      | .ok borders =>
        match ← readText input with
        | .error e => do
          say ("cannot open " ++ quoted input ++ " for reading: " ++ errorText e)
          pure 1
        | .ok text => do
          let start : Splitter := { lines := wholeLines text }
          let (s, problem) := borders.foldl (fun (s, problem) b =>
            match problem with
            | some _ => (s, problem)
            | none => s.useAgain b (text.length + 2) 0) (start, none)
          let pieces := (s.lines.flatten :: s.pieces).reverse
          let pieces := if a.has "elide-empty-files" then pieces.filter (!·.isEmpty) else pieces
          if !(a.has "quiet" || a.has "silent") then
            pieces.forM (fun piece => printLine (naturalText piece.length))
          if let some text := problem then say text
          if problem.isNone ∨ a.has "keep-files" then
            let width := ((a.value? "digits").bind decimal?).getD 2
            pieces.zipIdx.forM fun (piece, i) => do
              let digits := naturalText i
              let name := (a.value? "prefix").getD "xx".toList
                ++ List.replicate (width - digits.length) '0' ++ digits
              let _ ← writePiece name piece
          pure (if problem.isSome then 1 else 0)

end Slipway.Tool
