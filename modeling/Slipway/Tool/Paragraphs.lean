import Slipway.Tool.Lines

/-!
# Filling paragraphs

Words are put on lines of about the same length. Each line has a cost that grows with its distance
from the length that is aimed at, and breaks have costs that depend on the words around them; the
cheapest way through the paragraph is taken.
-/

namespace Slipway.Tool

open Shell

/-! ## Words -/

structure FilledWord where
  text : Text
  /-- How many blanks follow. -/
  space : Nat := 1
  opens : Bool
  /-- It ends with a point or the like, perhaps in brackets. -/
  period : Bool
  punctuated : Bool
  /-- It is the end of a sentence. -/
  final : Bool := false

def isPunctuation (c : Char) : Bool := isPrintChar c && c ≠ ' ' && !isLetterChar c && !isDigitChar c

def FilledWord.ofText (text : Text) (space : Nat) : FilledWord :=
  let last := text.getLastD ' '
  let inner := (text.reverse.dropWhile (fun c => ")]'\"".toList.contains c)).headD (text.headD ' ')
  { text, space
    opens := "(['`\"".toList.contains (text.headD ' ')
    punctuated := isPunctuation last
    period := ".?!".toList.contains inner }

/-! ## Costs -/

/-- The square of a length. -/
def squareOf (n : Int) : Int := n * n

/-- What a line costs that is so much shorter or longer than it should be. -/
def lengthCost (n : Int) : Int := squareOf (n * 10)

/-- What it costs when lines next to each other differ so much. -/
def raggedCost (n : Int) : Int := lengthCost n / 2

/-- What a line costs that begins with a word, whatever its length. The words before it come latest
first. -/
def breakCost (word : FilledWord) (before : List FilledWord) : Int :=
  let start : Int := 4900
  let behind : Int :=
    match before with
    | [] => 0
    | last :: more =>
      if last.period then (if last.final then -2500 else 360000)
      else if last.punctuated then -1600
      else if (more.head?.map (·.final)).getD false then 40000 / (last.text.length + 2)
      else 0
  let own : Int :=
    if word.opens then -1600
    else if word.final then 22500 / (word.text.length + 2)
    else 0
  start + behind + own

/-- The best way to break the words from some place on. -/
structure Filling where
  cost : Int
  /-- How many words the first line has, and how long it is. -/
  count : Nat
  length : Nat

structure FillPlan where
  width : Nat := 75
  goal : Nat := 70

/-- The best first line for words, of which the best ways behind each are known. -/
def FillPlan.best (p : FillPlan) : (words : List FilledWord) →
    (ways : List Filling) → (count length : Nat) → (found : Option Filling) → Option Filling
  | word :: words, ways, count, length, found =>
    let length := length + word.text.length
    -- The way behind this word, if there are words behind it.
    let next := ways.head?
    let lineCost : Int :=
      match next with
      | none => 0
      | some way =>
        lengthCost ((p.goal : Int) - length)
          + (if way.count = words.length then 0 else raggedCost ((length : Int) - way.length))
    let total := lineCost + (next.map (·.cost)).getD 0
    let better : Bool := (found.map (fun way => decide (total < way.cost))).getD true
    let found := if better then some ⟨total, count + 1, length⟩ else found
    match words with
    | [] => found
    | following :: _ =>
      if length + word.space + following.text.length < p.width then
        FillPlan.best p words (ways.drop 1) (count + 1) (length + word.space) found
      else found
  | [], _, _, _, found => found

/-- The best ways from each of the words on, the first word's first. `before` are the words in
front, the latest first. -/
def FillPlan.ways (p : FillPlan) (indent otherIndent : Nat) : (words before : List FilledWord) →
    List Filling
  | [], _ => []
  | word :: rest, before =>
    let behind := p.ways indent otherIndent rest (word :: before)
    let start := if before.isEmpty then indent else otherIndent
    match p.best (word :: rest) behind 0 start none with
    | some way => { way with cost := way.cost + breakCost word before } :: behind
    | none => behind

def breakLines : (fuel : Nat) → List FilledWord → List Filling → List (List FilledWord)
  | 0, _, _ => []
  | fuel + 1, words, ways =>
    match ways with
    | [] => []
    | way :: _ =>
      words.take way.count :: breakLines fuel (words.drop way.count) (ways.drop way.count)

/-! ## Reading paragraphs -/

/-- A line: how far it is indented, and its words. -/
structure FilledLine where
  indent : Nat
  words : List FilledWord

/-- The column behind a blank. -/
def columnBehind (column : Nat) (c : Char) : Nat :=
  if c = '\t' then column + 8 - column % 8 else column + 1

/-- The words of a line from a column on, each with the blanks behind it. -/
def readWords (uniform : Bool) : (fuel : Nat) → (column : Nat) → Text → List FilledWord
  | 0, _, _ => []
  | fuel + 1, column, text =>
    let word := text.takeWhile (fun c => !isSpaceChar c)
    if word.isEmpty then []
    else
      let rest := text.drop word.length
      let blanks := rest.takeWhile isSpaceChar
      let start := column + word.length
      let stop := blanks.foldl columnBehind start
      let isLast := (rest.drop blanks.length).isEmpty
      let w := FilledWord.ofText word (stop - start)
      let final := w.period && (isLast || 1 < stop - start)
      let space := if isLast ∨ uniform then (if final then 2 else 1) else w.space
      { w with final, space } :: readWords uniform fuel stop (rest.drop blanks.length)

def FilledLine.read (uniform : Bool) (line : Text) : FilledLine :=
  let blanks := line.takeWhile isSpaceChar
  let indent := blanks.foldl columnBehind 0
  ⟨indent, readWords uniform (line.length + 1) indent (line.drop blanks.length)⟩

/-- How lines form paragraphs. -/
structure FillStyle where
  crown : Bool := false
  tagged : Bool := false
  /-- Lines are only broken, never joined. -/
  splits : Bool := false
  uniform : Bool := false

/-- The first paragraph of lines that have words: its lines, the indents of its first and its other
lines, and the lines behind it. -/
def takeParagraph (s : FillStyle) (first : FilledLine) (rest : List FilledLine) :
    List FilledLine × Nat × Nat × List FilledLine :=
  let next := rest.head?.filter (fun line => !line.words.isEmpty)
  let other :=
    if s.splits then first.indent
    else if s.crown then (next.map (·.indent)).getD first.indent
    else if s.tagged then
      match next with
      | some line => if line.indent ≠ first.indent then line.indent else first.indent
      | none => if first.indent = 0 then 3 else 0
    else first.indent
  let joins := !s.splits && !(s.tagged && (next.map (·.indent)) = some first.indent)
  let more := if joins then rest.takeWhile (fun line => !line.words.isEmpty && line.indent = other)
    else []
  (first :: more, first.indent, other, rest.drop more.length)

/-- Words of a paragraph; the last one ends a sentence. -/
def paragraphWords (lines : List FilledLine) : List FilledWord :=
  let words := lines.flatMap (·.words)
  match words.reverse with
  | last :: before => ({ last with period := true, final := true } :: before).reverse
  | [] => []

def filledLine (indent : Nat) (words : List FilledWord) : Text :=
  let joined := words.flatMap (fun w => w.text ++ List.replicate w.space ' ')
  List.replicate indent ' ' ++ joined.take (joined.length - (words.getLast?.map (·.space)).getD 0)

/-- Fills all paragraphs; empty lines stay. -/
def fillAll (p : FillPlan) (s : FillStyle) : (fuel : Nat) → List FilledLine → List Text
  | 0, _ => []
  | fuel + 1, lines =>
    match lines with
    | [] => []
    | line :: rest =>
      if line.words.isEmpty then [] :: fillAll p s fuel rest
      else
        let (taken, indent, other, rest) := takeParagraph s line rest
        let words := paragraphWords taken
        let broken := breakLines (words.length + 1) words (p.ways indent other words [])
        (broken.zipIdx.map (fun (words, i) => filledLine (if i = 0 then indent else other) words))
          ++ fillAll p s fuel rest

def fmtFlags : List Flag := [
  flag 'c' "crown-margin", setting 'p' "prefix", flag 's' "split-only", flag 't' "tagged-paragraph",
  flag 'u' "uniform-spacing", setting 'w' "width", setting 'g' "goal"]

/-- A number alone as the first option is a width. -/
def spellWidth (args : List Text) : List Text :=
  match args with
  | ('-' :: d :: rest) :: more =>
    if (d :: rest).all isDigitChar then ("-w".toList ++ d :: rest) :: more else args
  | args => args

def fmt (args : List Text) : Eval Nat :=
  withArguments fmtFlags (spellWidth args) fun a => do
    let widthText := a.value? "width"
    let goalText := a.value? "goal"
    match widthText.filter (fun (text : Text) => ((decimal? text).filter (· ≤ 2500)).isNone),
        goalText.filter (fun (text : Text) => (decimal? text).isNone) with
    | some text, _ => do
      say ("invalid width: " ++ emphasized text)
      pure 1
    | none, some text => do
      say ("invalid width: " ++ emphasized text)
      pure 1
    | none, none => do
      let p : FillPlan := match widthText.bind decimal?, goalText.bind decimal? with
        | some width, some goal => ⟨width, goal⟩
        | some width, none => ⟨width, width * 187 / 200⟩
        | none, some goal => ⟨goal + 10, goal⟩
        | none, none => ⟨75, 70⟩
      let s : FillStyle := {
        crown := a.has "crown-margin", tagged := a.has "tagged-paragraph"
        splits := a.has "split-only", uniform := a.has "uniform-spacing" }
      forEach (inputsOf a) fun name => do
        match ← openInput name with
        | .error e => blame ("cannot open " ++ quoted name ++ " for reading: " ++ errorText e)
        | .ok id =>
          match ← readAll id with
          | .error e => blame ("read error: " ++ errorText e)
          | .ok bytes => do
            let lines := (linesOf (Text.ofBytes bytes)).map (FilledLine.read s.uniform)
            (fillAll p s (2 * bytes.length + 2) lines).forM printLine
            pure true

end Slipway.Tool
