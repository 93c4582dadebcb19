import Slipway.Rich.Pattern
import Slipway.Rich.Syntax
import Slipway.Shell.Fields
import Slipway.Shell.Number

/-!
# Fields of rich words

Words with alternatives in braces stand for several words. An expanded word is split into fields at
separators that expansions have put into it, and fields with patterns stand for the files whose
paths fit.
-/

namespace Slipway.Rich

open Shell (Text Letter Letters)

/-! ## Braces -/

/-- A character of a word that may be a brace, or another part of it. -/
inductive BraceUnit
  | char (c : Char)
  | other (part : Part)

def unitsOf (word : Word) : List BraceUnit :=
  word.flatMap fun part =>
    match part with
    | .text text => text.map .char
    | part => [.other part]

def wordOf (units : List BraceUnit) : Word :=
  units.foldr (fun unit parts =>
    match unit, parts with
    | .char c, .text text :: rest => .text (c :: text) :: rest
    | .char c, _ => .text [c] :: parts
    | .other part, _ => part :: parts) []

/-- The alternatives behind an opening brace, and what follows the closing one. -/
def splitBraces : (depth : Nat) → (found : List BraceUnit) → List BraceUnit →
    Option (List (List BraceUnit) × List BraceUnit)
  | _, _, [] => none
  | depth, found, unit :: rest =>
    match unit with
    | .char '\x7d' =>
      match depth with
      | 0 => some ([found.reverse], rest)
      | depth + 1 => splitBraces depth (unit :: found) rest
    | .char ',' =>
      if depth = 0 then
        (splitBraces 0 [] rest).map (fun (others, rest) => (found.reverse :: others, rest))
      else splitBraces depth (unit :: found) rest
    | .char '\x7b' => splitBraces (depth + 1) (unit :: found) rest
    | unit => splitBraces depth (unit :: found) rest

def plainText? (units : List BraceUnit) : Option Text :=
  units.mapM fun unit =>
    match unit with
    | .char c => some c
    | .other _ => none

/-- The pieces of a text between two dots. -/
def splitDots : Text → List Text
  | [] => [[]]
  | '.' :: '.' :: rest => [] :: splitDots rest
  | c :: rest =>
    match splitDots rest with
    | [] => [[c]]
    | piece :: others => (c :: piece) :: others

def wholeNumber? (text : Text) : Option Int :=
  match text with
  | '-' :: digits => if !digits.isEmpty ∧ digits.all Char.isDigit then
      some (-(Shell.valueOfDigits 10 digits : Int)) else none
  | '+' :: digits => if !digits.isEmpty ∧ digits.all Char.isDigit then
      some (Shell.valueOfDigits 10 digits : Int) else none
  | digits => if !digits.isEmpty ∧ digits.all Char.isDigit then
      some (Shell.valueOfDigits 10 digits : Int) else none

/-- Whether a number is filled up with zeros. -/
def isFilled (text : Text) : Bool :=
  match text with
  | '-' :: '0' :: _ :: _ => true
  | '0' :: _ :: _ => true
  | _ => false

/-- Numbers from one to another. -/
def stepsFrom (first last : Int) (step : Nat) : List Int :=
  let step := max 1 step
  let count := (last - first).natAbs / step + 1
  (List.range count).map (fun (i : Nat) =>
    if first ≤ last then first + (i * step : Nat) else first - (i * step : Nat))

/-- A number with zeros up to a width. -/
def filled (width : Nat) (n : Int) : Text :=
  let digits := Nat.toDigits 10 n.natAbs
  let sign : Text := if n < 0 then ['-'] else []
  sign ++ List.replicate (width - sign.length - digits.length) '0' ++ digits

/-- The texts of a sequence such as `1..5` or `a..e..2`. -/
def sequence? (text : Text) : Option (List Text) :=
  let range (first last : Text) (step : Nat) : Option (List Text) :=
    match wholeNumber? first, wholeNumber? last, first, last with
    | some a, some b, _, _ =>
      let width := if isFilled first || isFilled last then max first.length last.length else 0
      some ((stepsFrom a b step).map (filled width))
    | _, _, [c], [d] =>
      if c.isAlpha ∧ d.isAlpha then
        some ((stepsFrom c.toNat d.toNat step).map (fun n => [Char.ofNat n.toNat]))
      else none
    | _, _, _, _ => none
  match splitDots text with
  | [first, last] => range first last 1
  | [first, last, step] => (wholeNumber? step).bind (fun n => range first last n.natAbs)
  | _ => none

/-- The words that a word with braces stands for. -/
def expandUnits : (fuel : Nat) → List BraceUnit → List (List BraceUnit)
  | 0, units => [units]
  | _, [] => [[]]
  | fuel + 1, unit :: rest =>
    let plain := (expandUnits fuel rest).map (unit :: ·)
    match unit with
    | .char '\x7b' =>
      match splitBraces 0 [] rest with
      | none => plain
      | some ([single], behind) =>
        match (plainText? single).bind sequence? with
        | none => plain
        | some texts =>
          let ends := expandUnits fuel behind
          texts.flatMap (fun text => ends.map (text.map BraceUnit.char ++ ·))
      | some (alternatives, behind) =>
        let ends := expandUnits fuel behind
        alternatives.flatMap (fun alternative =>
          (expandUnits fuel alternative).flatMap (fun start => ends.map (start ++ ·)))
    | _ => plain

def expandBraces (word : Word) : List Word :=
  let hasBrace := word.any fun part =>
    match part with
    | .text text => text.contains '\x7b'
    | _ => false
  if hasBrace then
    let units := unitsOf word
    ((expandUnits (units.length + 1) units).map wordOf).filter (fun word => !word.isEmpty)
  else [word]

/-! ## Splitting -/

structure Splitting where
  /-- The open field, the latest letter first. -/
  field : Letters := []
  isMarked : Bool := false
  /-- Whether blanks have ended the last field. -/
  afterBlank : Bool := false
  /-- The latest first. -/
  fields : List Letters := []

namespace Splitting

def finish (s : Splitting) : Splitting :=
  { fields := s.field.reverse :: s.fields }

/-- Ends the field if there is one. -/
def endField (s : Splitting) : Splitting :=
  if s.field.isEmpty && !s.isMarked then s else s.finish

def take (separators : Text) (s : Splitting) (atom : Atom) : Splitting :=
  match atom with
  | .mark => { s with isMarked := true, afterBlank := false }
  | .cut => { s.endField with afterBlank := false }
  | .letter c quoted splits =>
    if splits && separators.contains c then
      if c = ' ' || c = '\t' || c = '\n' then
        if s.field.isEmpty && !s.isMarked then s else { s.finish with afterBlank := true }
      else if s.afterBlank then { s with afterBlank := false }
      else s.finish
    else { s with field := ⟨c, quoted⟩ :: s.field, afterBlank := false }

end Splitting

def fieldsOf (separators : Text) (atoms : List Atom) : List Letters :=
  (atoms.foldl (Splitting.take separators) {}).endField.fields.reverse

/-- The letters of a word that is not split. -/
def lettersOf (atoms : List Atom) : Letters :=
  atoms.filterMap fun atom =>
    match atom with
    | .letter c quoted _ => some ⟨c, quoted⟩
    | _ => none

def textOf (atoms : List Atom) : Text :=
  atoms.filterMap fun atom =>
    match atom with
    | .letter c _ _ => some c
    | _ => none

/-! ## Paths -/

/-- How paths are matched. -/
structure PathRules where
  hasGroups : Bool := false
  /-- Names with a dot in front fit any pattern. -/
  showsHidden : Bool := false
  anyCase : Bool := false
  /-- Two stars stand for directories to any depth. -/
  isDeep : Bool := false

/-- The names in a directory. -/
def namesIn (m : Machine) (dir : Text) : List Text := Shell.namesIn m dir

def isDirectory (m : Machine) (path : Text) : Bool :=
  match m.files.findNode m.directory (Shell.pathOf path) with
  | .ok (_, .directory _) => true
  | _ => false

/-- The directories below one, with a slash behind each, and the one itself. -/
def directoriesBelow (m : Machine) (rules : PathRules) : (fuel : Nat) → (dir : Text) → List Text
  | 0, dir => [dir]
  | fuel + 1, dir =>
    let inner := (namesIn m dir).filter fun name =>
      (rules.showsHidden || name.head? ≠ some '.')
        && (match m.files.findNode m.directory (Shell.pathOf (dir ++ name)) false with
          | .ok (_, .directory _) => true
          | _ => false)
    dir :: inner.flatMap (fun name => directoriesBelow m rules fuel (dir ++ name ++ ['/']))

/-- What the name behind a directory can be that fits a pattern. Hidden names have to be asked
for. -/
def matchName (m : Machine) (rules : PathRules) (dir : Text) (name : Letters) : List Text :=
  let letters := Shell.applyBackslashes name
  if isPattern rules.hasGroups name then
    let pattern := patternOf rules.hasGroups name
    let asksForHidden := (letters.head?.map (·.char)) = some '.'
    let names := (namesIn m dir).filter fun n =>
      (asksForHidden || rules.showsHidden || n.head? ≠ some '.')
        && pattern.fits (Characters.decode n) rules.anyCase
    names.map (dir ++ ·)
  else [dir ++ letters.map (·.char)]

def isDeepStar (rules : PathRules) (name : Letters) : Bool :=
  rules.isDeep && name.length = 2 && name.all (·.isActive '*')

/-- The paths that fit a pattern, name by name below what was found so far. -/
def matchNames (m : Machine) (rules : PathRules) : (found : List Text) → List Letters → List Text
  | found, [] => found
  | found, [name] =>
    found.flatMap fun dir =>
      if isDeepStar rules name then
        (directoriesBelow m rules 100 dir).flatMap (fun below =>
          (if below = dir then [] else [below.dropLast])
            ++ ((namesIn m below).filter (fun n =>
              (rules.showsHidden || n.head? ≠ some '.') && !isDirectory m (below ++ n))).map
                (below ++ ·))
      else matchName m rules dir name
  | found, name :: rest =>
    let next := if isDeepStar rules name then found.flatMap (directoriesBelow m rules 100)
      else (found.flatMap (fun dir => matchName m rules dir name)).map (· ++ ['/'])
    matchNames m rules next rest

/-- A pattern of a path in the patterns of its names; brackets hold no slashes. -/
def pathPieces (field : Letters) : List Letters := Shell.splitLetters field

/-- The paths that fit a field. -/
def pathsOf (m : Machine) (rules : PathRules) (field : Letters) : List Text :=
  let found := (matchNames m rules [[]] (pathPieces field)).filter
    (fun path => (m.files.findNode m.directory (Shell.pathOf path) false).isOk)
  found.mergeSort Shell.textLe

end Slipway.Rich
