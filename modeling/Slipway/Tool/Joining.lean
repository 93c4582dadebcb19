import Slipway.Tool.Sorting

/-!
# Joining lines

Lines of two sorted inputs are joined where they agree in a field.
-/

namespace Slipway.Tool

open Shell

/-! ## Fields -/

/-- The fields of a line, between separators or between blanks. -/
def joinFields (separator : Option Char) (line : Text) : List Text :=
  match separator with
  | some '\n' => [line]
  | some c => line.splitOn c
  | none => words [] line
where
  /-- The words of a line; the characters of the open one come latest first. -/
  words : (word : Text) → Text → List Text
    | word, [] => if word.isEmpty then [] else [word.reverse]
    | word, c :: rest =>
      if isBlankChar c then (if word.isEmpty then words [] rest else word.reverse :: words [] rest)
      else words (c :: word) rest

/-- A field of the output: the one that was joined by, or one of an input, by numbers from 0. -/
inductive JoinField
  | key
  | field (input field : Nat)

/-- A line with its fields and its number. -/
structure JoinLine where
  number : Nat
  line : Text
  fields : List Text

structure Joiner where
  key1 : Nat := 0
  key2 : Nat := 0
  separator : Option Char := none
  filler : Option Text := none
  format : Option (List JoinField) := none
  ignoresCase : Bool := false
  showsPairs : Bool := true
  shows1 : Bool := false
  shows2 : Bool := false
  /-- Whether the order is checked always, never, or from the first line without a partner on. -/
  checks : Option Bool := none
  ending : Char := '\n'
  name1 : Text
  name2 : Text

/-- What is left of the inputs. -/
structure JoinState where
  left1 : List JoinLine
  left2 : List JoinLine
  unpaired : Bool := false
  told1 : Bool := false
  told2 : Bool := false

namespace Joiner

def keyOf (j : Joiner) (second : Bool) (line : JoinLine) : Text :=
  let key := line.fields.getD (if second then j.key2 else j.key1) []
  if j.ignoresCase then key.map Char.toUpper else key

def compare (j : Joiner) (x y : JoinLine) : Ordering :=
  compareTexts (j.keyOf false x) (j.keyOf true y)

/-! ## Output -/

/-- A field, or what stands in its place if it is empty. -/
def fill (j : Joiner) (field : Option Text) : Text :=
  match field with
  | some [] => j.filler.getD []
  | none => j.filler.getD []
  | some text => text

/-- Prints lines that belong together, or one that has no partner. -/
def put (j : Joiner) (first second : Option JoinLine) : Eval Unit := do
  let key := match first, second with
    | some x, _ => x.fields[j.key1]?
    | none, some y => y.fields[j.key2]?
    | none, none => none
  let others (line : Option JoinLine) (key : Nat) : List Text :=
    match line with
    | some line => (line.fields.take key ++ line.fields.drop (key + 1)).map (fun f => j.fill (some f))
    | none => []
  let fields := match j.format with
    | some format => format.map fun field =>
        match field with
        | .key => j.fill key
        | .field 0 n => j.fill (first.bind (fun line => line.fields[n]?))
        | .field _ n => j.fill (second.bind (fun line => line.fields[n]?))
    | none => j.fill key :: others first j.key1 ++ others second j.key2
  let separator := match j.separator with
    | some '\n' => []
    | some c => [c]
    | none => [' ']
  print (List.intercalate separator fields ++ [j.ending])

/-! ## The order of the lines -/

/-- Tells that a line should have come before the one that was read before it. -/
def checkOrder (j : Joiner) (second : Bool) (s : JoinState) : List JoinLine → Eval JoinState
  | x :: y :: _ => do
    let isWanted := j.checks.getD s.unpaired
    let isTold := if second then s.told2 else s.told1
    if isWanted ∧ !isTold ∧ compareTexts (j.keyOf second x) (j.keyOf second y) = .gt then do
      say ((if second then j.name2 else j.name1).toString ++ ":" ++ toString y.number
        ++ ": is not sorted: " ++ y.line.toString)
      if j.checks = some true then
        let _ ← flush
        setStatus 1
        throw .gone
      pure (if second then { s with told2 := true } else { s with told1 := true })
    else pure s
  | _ => pure s

/-- Goes on to the next line of an input. -/
def advance (j : Joiner) (second : Bool) (s : JoinState) : Eval JoinState := do
  let left := if second then s.left2 else s.left1
  let s ← j.checkOrder second s left
  pure (if second then { s with left2 := left.drop 1 } else { s with left1 := left.drop 1 })

/-- The lines of an input that agree in their keys with the first one. -/
def takeGroup (j : Joiner) (second : Bool) (test : JoinLine → Bool) : (fuel : Nat) → JoinState →
    Eval (List JoinLine × JoinState)
  | 0, s => pure ([], s)
  | fuel + 1, s => do
    match if second then s.left2 else s.left1 with
    | [] => pure ([], s)
    | line :: _ =>
      if test line then do
        let s ← j.advance second s
        let (more, s) ← takeGroup j second test fuel s
        pure (line :: more, s)
      else pure ([], s)

/-- Joins lines as long as both inputs have some. -/
def merge (j : Joiner) : (fuel : Nat) → JoinState → Eval JoinState
  | 0, s => pure s
  | fuel + 1, s => do
    match s.left1, s.left2 with
    | x :: _, y :: _ =>
      match j.compare x y with
      | .lt => do
        if j.shows1 then j.put (some x) none
        let s ← j.advance false s
        merge j fuel { s with unpaired := true }
      | .gt => do
        if j.shows2 then j.put none (some y)
        let s ← j.advance true s
        merge j fuel { s with unpaired := true }
      | .eq => do
        let (xs, s) ← j.takeGroup false (fun line => j.compare line y = .eq) (s.left1.length + 1) s
        let (ys, s) ← j.takeGroup true (fun line => j.compare x line = .eq) (s.left2.length + 1) s
        if j.showsPairs then
          xs.forM fun x => ys.forM fun y => j.put (some x) (some y)
        merge j fuel s
    | _, _ => pure s

/-- Goes through the lines that are left of an input. -/
def finish (j : Joiner) (second : Bool) : (fuel : Nat) → JoinState → Eval JoinState
  | 0, s => pure s
  | fuel + 1, s => do
    match if second then s.left2 else s.left1 with
    | [] => pure s
    | line :: _ => do
      if (if second then j.shows2 else j.shows1) then
        if second then j.put none (some line) else j.put (some line) none
      let s ← j.advance second s
      finish j second fuel s

end Joiner

/-! ## The program -/

/-- The number of a field, from 1 on. -/
def joinNumber (text : Text) : Except String Nat :=
  match decimal? text with
  | some (n + 1) => .ok n
  | _ => .error ("invalid field number: " ++ emphasized text)

/-- A field of the output as it is asked for. -/
def readJoinField (text : Text) : Except String JoinField :=
  match text with
  | ['0'] => .ok .key
  | d :: '.' :: number =>
    if d = '1' ∨ d = '2' then
      (joinNumber number).map (JoinField.field (if d = '1' then 0 else 1))
    else .error ("invalid file number in field spec: " ++ emphasized text)
  | '0' :: _ => .error ("invalid field specifier: " ++ emphasized text)
  | d :: _ =>
    if d = '1' ∨ d = '2' then .error ("invalid field specifier: " ++ emphasized text)
    else .error ("invalid file number in field spec: " ++ emphasized text)
  | [] => .error ("invalid file number in field spec: " ++ emphasized text)

def joinFlags : List Flag := [
  setting '1', setting '2', setting 'j', setting 't', setting 'a', setting 'v', setting 'e',
  setting 'o', flag 'i' "ignore-case", flag 'z' "zero-terminated", longFlag "header",
  longFlag "check-order", longFlag "nocheck-order"]

/-- Takes one option into account. -/
def Joiner.option (j : Joiner) (option : String × Text) : Except String Joiner :=
  let (key, value) := option
  let file (f : Bool → Joiner) : Except String Joiner :=
    if value = ['1'] then .ok (f false) else if value = ['2'] then .ok (f true)
    else .error ("invalid field number: " ++ emphasized value)
  match key with
  | "1" => (joinNumber value).map (fun n => { j with key1 := n })
  | "2" => (joinNumber value).map (fun n => { j with key2 := n })
  | "j" => (joinNumber value).map (fun n => { j with key1 := n, key2 := n })
  | "t" =>
    match value with
    | [] => .ok { j with separator := some '\n' }
    | [c] => .ok { j with separator := some c }
    | ['\\', '0'] => .ok { j with separator := some '\x00' }
    | _ => .error ("multi-character tab " ++ emphasized value)
  | "a" => file (fun second => if second then { j with shows2 := true } else { j with shows1 := true })
  | "v" => file (fun second =>
      let j := { j with showsPairs := false }
      if second then { j with shows2 := true } else { j with shows1 := true })
  | "e" => .ok { j with filler := some value }
  | "o" =>
    if value = "auto".toList then .ok { j with format := some (j.format.getD []) }
    else do
      let parts := value.splitOnP (fun c => c = ',' ∨ isBlankChar c)
      let fields ← parts.mapM readJoinField
      .ok { j with format := some (j.format.getD [] ++ fields) }
  | "ignore-case" => .ok { j with ignoresCase := true }
  | "zero-terminated" => .ok { j with ending := '\x00' }
  | "check-order" => .ok { j with checks := some true }
  | "nocheck-order" => .ok { j with checks := some false }
  | _ => .ok j

/-- The fields that are shown when they are taken from the first lines of both inputs. -/
def Joiner.autoFormat (j : Joiner) (first second : List JoinLine) : List JoinField :=
  let count (lines : List JoinLine) : Nat := (lines.head?.map (·.fields.length)).getD 0
  let others (input key n : Nat) : List JoinField :=
    ((List.range n).filter (· ≠ key)).map (JoinField.field input)
  .key :: others 0 j.key1 (count first) ++ others 1 j.key2 (count second)

/-- Joins two texts. -/
def Joiner.run (j : Joiner) (isAuto hasHeader : Bool) (first second : Text) : Eval Nat := do
  let lines (text : Text) : List JoinLine := ((splitAtChar j.ending text).zipIdx).map
    (fun (line, i) => { number := i + 1, line, fields := joinFields j.separator line })
  let (xs, ys) := (lines first, lines second)
  let j := if isAuto then { j with format := some (j.autoFormat xs ys) } else j
  if hasHeader ∧ !(xs.isEmpty ∧ ys.isEmpty) then j.put xs.head? ys.head?
  let (xs, ys) := if hasHeader then (xs.drop 1, ys.drop 1) else (xs, ys)
  let s ← j.merge (xs.length + ys.length + 1) { left1 := xs, left2 := ys }
  let s ← j.finish false (xs.length + 1) s
  let s ← j.finish true (ys.length + 1) s
  if s.told1 ∨ s.told2 then do
    let _ ← flush
    say "input is not in sorted order"
    pure 1
  else pure 0

def join (args : List Text) : Eval Nat :=
  withArguments joinFlags args fun a => do
    match a.operands with
    | [] => missingOperand
    | [only] => misuse ("missing operand after " ++ emphasized only)
    | [name1, name2] =>
      match a.options.foldlM Joiner.option { name1, name2 } with
      | .error text => do
        say text
        pure 1
      | .ok j =>
        if name1 = ['-'] ∧ name2 = ['-'] then do
          say "both files cannot be standard input"
          pure 1
        else
          match ← readText name1, ← readText name2 with
          | .error e, _ => do
            let _ ← blameInput name1 e
            pure 1
          | _, .error e => do
            let _ ← blameInput name2 e
            pure 1
          | .ok first, .ok second =>
            j.run (a.values "o" |>.contains "auto".toList) (a.has "header") first second
    | _ :: _ :: extra :: _ => extraOperand extra

end Slipway.Tool
