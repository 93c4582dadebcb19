import Slipway.Calendar.Basic
import Slipway.Text.Binary64
import Slipway.Tool.Lines

/-!
# Programs about the order of lines

Sorting by keys, equal lines in a row, and lines that two inputs have in common.
-/

namespace Slipway.Tool

open Shell

/-! ## Comparing -/

def compareTexts : Text → Text → Ordering
  | [], [] => .eq
  | [], _ => .lt
  | _, [] => .gt
  | c :: cs, d :: ds => if c = d then compareTexts cs ds else compare c.toNat d.toNat

/-- A decimal number at the start of a text: whether it is negative, its whole part without zeros in
front, and its fraction without zeros at the end. -/
def readDecimal (text : Text) : Bool × Text × Text :=
  let text := text.dropWhile (fun c => c = ' ' ∨ c = '\t')
  let (isNegative, text) := match text with
    | '-' :: rest => (true, rest)
    | text => (false, text)
  let whole := text.takeWhile isDigitChar
  let fraction := match text.drop whole.length with
    | '.' :: rest => rest.takeWhile isDigitChar
    | _ => []
  let whole := whole.dropWhile (· = '0')
  let fraction := (fraction.reverse.dropWhile (· = '0')).reverse
  (isNegative && !(whole.isEmpty && fraction.isEmpty), whole, fraction)

def compareDecimals (a b : Text) : Ordering :=
  let (m, x, f) := readDecimal a
  let (n, y, g) := readDecimal b
  let size := (compare x.length y.length).then ((compareTexts x y).then (compareTexts f g))
  match m, n with
  | false, false => size
  | true, true => size.swap
  | true, false => .lt
  | false, true => .gt

/-- How much the letter behind a number multiplies it. -/
def scaleOf (text : Text) : Nat :=
  let rest := (text.dropWhile (fun c => c = ' ' ∨ c = '\t' ∨ c = '-')).dropWhile
    (fun c => isDigitChar c || c = '.')
  match rest with
  | c :: _ => match "KMGTPEZY".toList.findIdx? (· = c) with
    | some i => i + 1
    | none => if c = 'k' then 1 else 0
  | [] => 0

def compareSizes (a b : Text) : Ordering :=
  let (m, _, _) := readDecimal a
  let (n, _, _) := readDecimal b
  match m, n with
  | true, false => .lt
  | false, true => .gt
  | _, _ =>
    let scale := compare (scaleOf a) (scaleOf b)
    (if m then scale.swap else scale).then (compareDecimals a b)

/-- The number of the month that a text begins with, or 0. -/
def monthOf (text : Text) : Nat :=
  let start := ((text.dropWhile isSpaceChar).take 3).map Char.toLower
  ((monthNames.findIdx? (fun name => (name.toList.take 3).map Char.toLower = start)).map
    (· + 1)).getD 0

/-- The place of a character in versions: a tilde comes before the end of the text. -/
def versionRank (c : Option Char) : Nat :=
  match c with
  | some '~' => 0
  | none => 1
  | some c => if isDigitChar c then 1 else if isLetterChar c then c.toNat + 2 else c.toNat + 300

/-- Compares versions: what is no digit by its characters, runs of digits as numbers. -/
def compareVersions : (fuel : Nat) → Text → Text → Ordering
  | 0, _, _ => .eq
  | fuel + 1, a, b =>
    let isPlain := fun (t : Text) => (t.head?.map (fun c => !isDigitChar c)).getD false
    if isPlain a || isPlain b then
      let order := compare (versionRank a.head?) (versionRank b.head?)
      match order with
      | .eq => compareVersions fuel (a.drop 1) (b.drop 1)
      | order => order
    else if a.isEmpty ∧ b.isEmpty then .eq
    else
      let x := (a.takeWhile isDigitChar).dropWhile (· = '0')
      let y := (b.takeWhile isDigitChar).dropWhile (· = '0')
      ((compare x.length y.length).then (compareTexts x y)).then
        (compareVersions fuel (a.dropWhile isDigitChar) (b.dropWhile isDigitChar))

/-- A number that may have an exponent, as a value; what is no number comes first. -/
def compareGeneral (a b : Text) : Ordering :=
  let read (t : Text) : Option Binary64 := (Binary64.read? (t.dropWhile isSpaceChar)).map (·.1)
  match read a, read b with
  | none, none => .eq
  | none, some _ => .lt
  | some _, none => .gt
  | some x, some y => Binary64.order x y

/-! ## Keys -/

/-- How texts are compared. -/
structure Order where
  letters : List Char := []

def Order.has (o : Order) (c : Char) : Bool := o.letters.contains c

/-- What of a text is compared as text. -/
def Order.view (o : Order) (text : Text) : Text :=
  let text := if o.has 'd' then text.filter (fun c =>
      isLetterChar c || isDigitChar c || c = ' ' || c = '\t') else text
  let text := if o.has 'i' then text.filter isPrintChar else text
  if o.has 'f' then text.map Char.toUpper else text

def Order.compare (o : Order) (a b : Text) : Ordering :=
  let order :=
    if o.has 'n' then compareDecimals a b
    else if o.has 'g' then compareGeneral a b
    else if o.has 'h' then compareSizes a b
    else if o.has 'M' then Ord.compare (monthOf a) (monthOf b)
    else if o.has 'V' then compareVersions (a.length + b.length + 2) a b
    else compareTexts (o.view a) (o.view b)
  if o.has 'r' then order.swap else order

/-- A place in a line: a field and a character in it, both counted from 1. -/
structure KeyPlace where
  field : Nat
  char : Nat
  skipsBlanks : Bool := false

/-- A part of lines by which they are sorted. -/
structure Key where
  start : KeyPlace
  stop : Option KeyPlace
  order : Option Order

/-- The numbers of one end of a key, and the letters behind them. -/
def readKeyPlace (isStop : Bool) (text : Text) : Except String (KeyPlace × Text) :=
  let field := text.takeWhile isDigitChar
  let rest := text.drop field.length
  let (char, rest) := match rest with
    | '.' :: more => (some (more.takeWhile isDigitChar), more.dropWhile isDigitChar)
    | rest => (none, rest)
  if field.isEmpty then .error "invalid count at start of "
  else if valueOfDigits 10 field = 0 then .error "field number is zero"
  else
    let usual := if isStop then 0 else 1
    let char := (char.map (valueOfDigits 10)).getD usual
    if !isStop ∧ char = 0 then .error "character offset is zero"
    else .ok ({ field := valueOfDigits 10 field, char, skipsBlanks := rest.contains 'b' }, rest)

def readKey (text : Text) : Except String Key :=
  let parts := text.splitOn ','
  match readKeyPlace false (parts.headD []) with
  | .error e =>
    if startsWith e "invalid" then
      .error ("invalid number at field start: " ++ e ++ emphasized text)
    else .error (e ++ ": invalid field specification " ++ emphasized text)
  | .ok (start, letters) =>
    let stop : Except String (Option (KeyPlace × Text)) := match parts with
      | [_] => .ok none
      | _ => (readKeyPlace true (parts.getD 1 [])).map some
    match stop with
    | .error e =>
      if startsWith e "invalid" then
        .error ("invalid number after ',': " ++ e ++ emphasized (parts.getD 1 []))
      else .error (e ++ ": invalid field specification " ++ emphasized text)
    | .ok stop =>
      let all := letters ++ ((stop.map (·.2)).getD [])
      match all.find? (fun c => !"bdfghiMnRrV".toList.contains c) with
      | some _ => .error ("stray character in field spec: invalid field specification " ++ emphasized text)
      | none => .ok {
          start
          stop := stop.map (·.1)
          order := if all.isEmpty then none else some ⟨all⟩ }

/-- How many characters stand before a field, which begins with its blanks unless there is a
separator. -/
def fieldStart (separator : Option Char) : (field : Nat) → Text → Nat
  | 0, _ => 0
  | 1, _ => 0
  | field + 1, text =>
    match separator with
    | some c =>
      let n := (text.takeWhile (· ≠ c)).length
      if n < text.length then n + 1 + fieldStart separator field (text.drop (n + 1)) else text.length
    | none =>
      let isBlank := fun c => c = ' ' || c = '\t' || c = '\n'
      let blanks := (text.takeWhile isBlank).length
      let n := blanks + ((text.drop blanks).takeWhile (fun c => !isBlank c)).length
      n + fieldStart separator field (text.drop n)

/-- Where a field ends. -/
def fieldEnd (separator : Option Char) (field : Nat) (text : Text) : Nat :=
  let next := fieldStart separator (field + 1) text
  match separator with
  | some c =>
    let start := fieldStart separator field text
    start + ((text.drop start).takeWhile (· ≠ c)).length
  | none => next

/-- The part of a line that a key stands for. -/
def Key.part (k : Key) (separator : Option Char) (skipsBlanks : Bool) (line : Text) : Text :=
  let blanksAt := fun (n : Nat) => ((line.drop n).takeWhile (fun c => c = ' ' ∨ c = '\t')).length
  let start := fieldStart separator k.start.field line
  let start := if k.start.skipsBlanks || skipsBlanks then start + blanksAt start else start
  let start := start + (k.start.char - 1)
  let stop := match k.stop with
    | none => line.length
    | some p =>
      if p.char = 0 then fieldEnd separator p.field line
      else
        let first := fieldStart separator p.field line
        let first := if p.skipsBlanks || skipsBlanks then first + blanksAt first else first
        first + p.char
  (line.take stop).drop start

/-! ## sort -/

/-- What a sort goes by. -/
structure Sorting where
  keys : List Key
  order : Order
  separator : Option Char
  stable : Bool
  unique : Bool

def Sorting.compareKeys (s : Sorting) (a b : Text) : Ordering :=
  match s.keys with
  | [] =>
    let view := fun (t : Text) =>
      if s.order.has 'b' then t.dropWhile (fun c => c = ' ' ∨ c = '\t') else t
    s.order.compare (view a) (view b)
  | keys => keys.foldl (fun order k => order.then (
      let o := k.order.getD s.order
      let skips := k.order.isNone && s.order.has 'b'
      o.compare (k.part s.separator skips a) (k.part s.separator skips b))) .eq

/-- Whole lines decide where the keys do not, unless the order of the input does. -/
def Sorting.compare (s : Sorting) (a b : Text) : Ordering :=
  let order := s.compareKeys a b
  if s.stable ∨ s.unique then order
  else
    let whole := compareTexts a b
    order.then (if s.order.has 'r' then whole.swap else whole)

/-- Keeps the first of lines that count as equal. -/
def Sorting.dropEqual (s : Sorting) : List Text → List Text
  | a :: b :: rest =>
    if s.compareKeys a b = .eq then dropEqual s (a :: rest) else a :: dropEqual s (b :: rest)
  | lines => lines
termination_by lines => lines.length

/-- The first line that is out of order, with its number. -/
def Sorting.disorder (s : Sorting) : (n : Nat) → List Text → Option (Nat × Text)
  | n, a :: b :: rest =>
    let order := s.compare a b
    if order = .gt ∨ (s.unique ∧ order = .eq) then some (n + 1, b) else s.disorder (n + 1) (b :: rest)
  | _, _ => none

def sortFlags : List Flag := [
  flag 'b' "ignore-leading-blanks", flag 'd' "dictionary-order", flag 'f' "ignore-case",
  flag 'g' "general-numeric-sort", flag 'h' "human-numeric-sort", flag 'i' "ignore-nonprinting",
  flag 'M' "month-sort", flag 'n' "numeric-sort", flag 'r' "reverse", flag 'V' "version-sort",
  { letter := some 'c', word := "check", takes := .nothing }, flag 'C', flag 'm' "merge",
  setting 'o' "output", flag 's' "stable", flag 'u' "unique", setting 't' "field-separator",
  setting 'k' "key", setting 'S' "buffer-size", setting 'T' "temporary-directory",
  flag 'z' "zero-terminated", longFlag "parallel" .value]

/-- The letters of the orders that options ask for. -/
def orderLetters (a : Arguments) : List Char :=
  (sortFlags.take 10).filterMap (fun f => if a.has f.word then f.letter else none)

def sort (args : List Text) : Eval Nat :=
  withArguments sortFlags args (fun a => do
    match (a.values "key").mapM readKey with
    | .error text => do
      say text
      pure 2
    | .ok keys =>
      let separator := a.value? "field-separator"
      if separator.any (fun t => 1 < t.length ∧ t ≠ "\\0".toList) then do
        say ("multi-character tab " ++ emphasized (separator.getD []))
        pure 2
      else if separator = some [] then do
        say "empty tab"
        pure 2
      else
        let sorting : Sorting := {
          keys
          order := ⟨orderLetters a⟩
          separator := separator.bind List.head?
          stable := a.has "stable"
          unique := a.has "unique" }
        let mark := if a.has "zero-terminated" then '\x00' else '\n'
        let inputs ← (inputsOf a).mapM fun name => do
          match ← openInput name with
          | .error e => pure (.error ("cannot read: " ++ shown name ++ ": " ++ errorText e))
          | .ok id =>
            match ← readAll id with
            | .error e => pure (.error ("read failed: " ++ shown name ++ ": " ++ errorText e))
            | .ok bytes => pure (.ok (splitAtChar mark (Text.ofBytes bytes)))
        match inputs.mapM (fun (input : Except String (List Text)) => input) with
        | .error text => do
          say text
          pure 2
        | .ok lines =>
          let lines := lines.flatten
          if a.has "check" ∨ a.has "C" then
            match sorting.disorder 1 lines with
            | none => pure 0
            | some (n, line) => do
              if a.has "check" then
                say (String.ofList ((inputsOf a).headD []) ++ ":" ++ toString n ++ ": disorder: "
                  ++ line.toString)
              pure 1
          else
            let sorted := lines.mergeSort (fun a b => (sorting.compare a b).isLE)
            let sorted := if sorting.unique then sorting.dropEqual sorted else sorted
            let text := sorted.flatMap (· ++ [mark])
            match a.value? "output" with
            | none => do
              print text
              pure 0
            | some name =>
              match ← openFile .write name with
              | .error e => do
                say ("open failed: " ++ shown name ++ ": " ++ errorText e)
                pure 2
              | .ok id => do
                let _ ← writeTo id (Text.toBytes text)
                pure 0) true 2

/-! ## uniq -/

/-- Lines that are equal in a row, with their numbers. -/
def groupEqual (view : Text → Text) : List Text → List (List Text)
  | [] => []
  | line :: rest =>
    match groupEqual view rest with
    | [] => [[line]]
    | group :: groups =>
      if (group.head?.map view) = some (view line) then (line :: group) :: groups
      else [line] :: group :: groups

/-- A line without so many fields, each with the blanks before it. -/
def dropFields : (count : Nat) → Text → Text
  | 0, text => text
  | count + 1, text =>
    let isBlank := fun c => c = ' ' || c = '\t'
    dropFields count ((text.dropWhile isBlank).dropWhile (fun c => !isBlank c))

def uniq (args : List Text) : Eval Nat :=
  withArguments [flag 'c' "count", flag 'd' "repeated", flag 'D', flag 'u' "unique",
      flag 'i' "ignore-case", setting 'f' "skip-fields", setting 's' "skip-chars",
      setting 'w' "check-chars", flag 'z' "zero-terminated"] args fun a => do
    let number (key : String) : Option Nat := (a.value? key).bind decimal?
    let view (line : Text) : Text :=
      let line := (dropFields ((number "skip-fields").getD 0) line).drop
        ((number "skip-chars").getD 0)
      let line := match number "check-chars" with
        | some n => line.take n
        | none => line
      if a.has "ignore-case" then line.map Char.toLower else line
    match a.operands with
    | _ :: _ :: extra :: _ => extraOperand extra
    | operands =>
      let name := operands.headD ['-']
      match ← openInput name with
      | .error e => do
        let _ ← blameInput name e
        pure 1
      | .ok id =>
        match ← readAll id with
        | .error e => do
          say ("error reading " ++ quoted name ++ ": " ++ errorText e)
          pure 1
        | .ok bytes => do
          let mark := if a.has "zero-terminated" then '\x00' else '\n'
          let groups := groupEqual view (splitAtChar mark (Text.ofBytes bytes))
          let groups := groups.filter fun group =>
            (!(a.has "repeated" || a.has "D") || 1 < group.length)
              && (!a.has "unique" || group.length = 1)
          let text := groups.flatMap fun group =>
            if a.has "D" then group.flatMap (· ++ [mark])
            else (if a.has "count" then padLeft 7 (naturalText group.length) ++ [' '] else [])
              ++ group.headD [] ++ [mark]
          match operands[1]? with
          | none => do
            print text
            pure 0
          | some output =>
            match ← openFile .write output with
            | .error e => do
              let _ ← blameInput output e
              pure 1
            | .ok id => do
              let _ ← writeTo id (Text.toBytes text)
              pure 0

/-! ## comm -/

/-- What comes of two inputs in turn: a line with the number of its column, or an input that is not
sorted. -/
inductive Merged
  | line (column : Nat) (text : Text)
  | disorder (input : Nat)

/-- The trouble with a line and the one behind it; at the end of an input the last two are looked
at once more, for lines without a partner may have come to light since. -/
def disorderAt (input : Nat) (before : Option Text) (line : Text) (rest : List Text) : List Merged :=
  let isWrong : Bool := match rest, before with
    | next :: _, _ => compareTexts line next = .gt
    | [], some before => compareTexts before line = .gt
    | [], none => false
  if isWrong then [.disorder input] else []

/-- Lines of two inputs, the lesser one first. The order is looked at if `checks` is set, else from
the first line on that only one input has. -/
def mergeLines (checks : Bool) : (before1 : Option Text) → List Text → (before2 : Option Text) →
    List Text → List Merged
  | _, [], _, [] => []
  | before, x :: xs, other, [] =>
    .line 1 x :: disorderAt 1 before x xs ++ mergeLines true (some x) xs other []
  | other, [], before, y :: ys =>
    .line 2 y :: disorderAt 2 before y ys ++ mergeLines true other [] (some y) ys
  | before1, x :: xs, before2, y :: ys =>
    match compareTexts x y with
    | .lt => .line 1 x :: disorderAt 1 before1 x xs ++ mergeLines true (some x) xs before2 (y :: ys)
    | .gt => .line 2 y :: disorderAt 2 before2 y ys ++ mergeLines true before1 (x :: xs) (some y) ys
    | .eq =>
      .line 3 x :: (if checks then disorderAt 1 before1 x xs ++ disorderAt 2 before2 y ys else [])
        ++ mergeLines checks (some x) xs (some y) ys
termination_by _ xs _ ys => xs.length + ys.length

/-- Writes the lines in columns; the inputs that were found not sorted are in `wrong`. -/
def printColumns (a : Arguments) : (counts : List Nat) → (wrong : List Nat) → List Merged → Eval Nat
  | counts, wrong, [] => do
    let tab := (a.value? "output-delimiter").getD ['\t']
    if a.has "total" then
      let numbers := [1, 2, 3].map (fun n => naturalText (counts.filter (· = n)).length)
      printLine ((numbers.map (· ++ tab)).flatten ++ "total".toList)
    if wrong.isEmpty then pure 0
    else do
      say "input is not in sorted order"
      pure 1
  | counts, wrong, .line n text :: rest => do
    let tab := (a.value? "output-delimiter").getD ['\t']
    let isShown := fun (n : Nat) => !a.has (toString n)
    if isShown n then
      let before := ((List.range n).filter (fun i => 0 < i && isShown i)).length
      let mark := if a.has "zero-terminated" then '\x00' else '\n'
      print ((List.replicate before tab).flatten ++ text ++ [mark])
    printColumns a (n :: counts) wrong rest
  | counts, wrong, .disorder n :: rest => do
    if a.has "nocheck-order" ∨ wrong.contains n then printColumns a counts wrong rest
    else
      say ("file " ++ toString n ++ " is not in sorted order")
      if a.has "check-order" then pure 1 else printColumns a counts (n :: wrong) rest

def comm (args : List Text) : Eval Nat :=
  withArguments [flag '1', flag '2', flag '3', longFlag "check-order", longFlag "nocheck-order",
      longFlag "output-delimiter" .value, longFlag "total", flag 'z' "zero-terminated"] args
    fun a => do
    match a.operands with
    | [] => missingOperand
    | [only] => misuse ("missing operand after " ++ emphasized only)
    | [first, second] => do
      let (inputs, ok) ← readInputs [first, second]
      if !ok then pure 1
      else
        let mark := if a.has "zero-terminated" then '\x00' else '\n'
        let lines := inputs.map (fun (_, text) => splitAtChar mark text)
        printColumns a [] [] (mergeLines (a.has "check-order") none (lines.headD []) none
          (lines.getD 1 []))
    | _ :: _ :: extra :: _ => extraOperand extra

end Slipway.Tool
