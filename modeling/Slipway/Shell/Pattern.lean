import Slipway.Shell.Syntax
import Slipway.Text.Characters

/-!
# Patterns

Texts in which stars, question marks and brackets stand for other texts. A quoted character of a
pattern stands for itself, and so does one behind a backslash.
-/

namespace Slipway.Shell

/-- A character of an expanded word, and whether it was quoted. -/
structure Letter where
  char : Char
  quoted : Bool
  deriving DecidableEq

abbrev Letters := List Letter

def lettersOf (quoted : Bool) (text : Text) : Letters := text.map (⟨·, quoted⟩)

def textOf (letters : Letters) : Text := letters.map (·.char)

/-- Whether a letter is this character and means more than itself. -/
def Letter.isActive (l : Letter) (c : Char) : Bool := l.char = c && !l.quoted

/-- Part of a set in brackets. -/
inductive SetItem
  | range (low high : Char)
  | named (name : String)
  deriving DecidableEq

def SetItem.matches (c : Char) : SetItem → Bool
  | range low high => low ≤ c && c ≤ high
  | named name =>
    match charClass? name with
    | some p => p c
    | none => false

inductive PatternItem
  | char (c : Char)
  | anyChar
  | anyText
  | oneOf (negated : Bool) (items : List SetItem)
  deriving DecidableEq

/-! ## Reading patterns -/

/-- Takes away the backslashes that quote the letter behind them. -/
def applyBackslashes : Letters → Letters
  | l :: next :: rest =>
    if l.isActive '\\' then { next with quoted := true } :: applyBackslashes rest
    else l :: applyBackslashes (next :: rest)
  | letters => letters

/-- The class whose name stands behind an opening bracket, and what follows it. -/
def readClass? (letters : Letters) : Option (SetItem × Letters) :=
  charClassNames.findSome? fun name =>
    let spelled := (":" ++ name ++ ":]").toList
    if (lettersOf false spelled).isPrefixOf letters then
      some (.named name, letters.drop spelled.length)
    else none

/-- The items of a set up to its end, and what follows it. Only the first letter may be a closing
bracket. -/
def readSet : (fuel : Nat) → (isFirst : Bool) → (found : List SetItem) → Letters →
    Option (List SetItem × Letters)
  | 0, _, _, _ => none
  | _, _, _, [] => none
  | fuel + 1, isFirst, found, l :: rest =>
    if l.isActive ']' ∧ !isFirst then some (found, rest)
    else
      match (if l.isActive '[' then readClass? rest else none) with
      | some (item, rest) => readSet fuel false (item :: found) rest
      | none =>
        match rest with
        | dash :: high :: behind =>
          if dash.isActive '-' ∧ !high.isActive ']' then
            readSet fuel false (.range l.char high.char :: found) behind
          else readSet fuel false (.range l.char l.char :: found) rest
        | _ => readSet fuel false (.range l.char l.char :: found) rest

/-- A set behind its opening bracket, and what follows it. -/
def readBracket (letters : Letters) : Option (PatternItem × Letters) :=
  let read (negated : Bool) (letters : Letters) :=
    (readSet (letters.length + 1) true [] letters).map
      (fun (items, rest) => (PatternItem.oneOf negated items, rest))
  match letters with
  | l :: rest => if l.isActive '!' then read true rest else read false letters
  | [] => none

def patternFrom : (fuel : Nat) → Letters → List PatternItem
  | 0, _ => []
  | _, [] => []
  | fuel + 1, l :: rest =>
    if l.isActive '*' then .anyText :: patternFrom fuel (rest.dropWhile (·.isActive '*'))
    else if l.isActive '?' then .anyChar :: patternFrom fuel rest
    else if l.isActive '[' then
      match readBracket rest with
      | some (item, rest) => item :: patternFrom fuel rest
      | none => .char '[' :: patternFrom fuel rest
    else .char l.char :: patternFrom fuel rest

def patternOf (letters : Letters) : List PatternItem :=
  patternFrom letters.length (applyBackslashes letters)

def isPattern (letters : Letters) : Bool :=
  (patternOf letters).any fun item =>
    match item with
    | .char _ => false
    | _ => true

/-! ## Matching -/

def suffixes : Text → List Text
  | [] => [[]]
  | c :: rest => (c :: rest) :: suffixes rest

def matchesPattern : List PatternItem → Text → Bool
  | [], text => text.isEmpty
  | .char c :: items, d :: text => c = d && matchesPattern items text
  | .anyChar :: items, _ :: text => matchesPattern items text
  | .oneOf negated set :: items, d :: text =>
    (set.any (SetItem.matches d) != negated) && matchesPattern items text
  | .anyText :: items, text => (suffixes text).any (matchesPattern items)
  | _, [] => false

/-- The lengths of the beginnings of a text, in the order in which they are tried. -/
def cutLengths (longest : Bool) (text : Text) : List Nat :=
  let lengths := List.range (text.length + 1)
  if longest then lengths.reverse else lengths

/-- The text without the shortest or longest beginning that fits. -/
def dropMatchingStart (longest : Bool) (items : List PatternItem) (text : Text) : Text :=
  match (cutLengths longest text).find? (fun n => matchesPattern items (text.take n)) with
  | some n => text.drop n
  | none => text

/-- The text without the shortest or longest end that fits. -/
def dropMatchingEnd (longest : Bool) (items : List PatternItem) (text : Text) : Text :=
  match (cutLengths (!longest) text).find? (fun n => matchesPattern items (text.drop n)) with
  | some n => text.take n
  | none => text

end Slipway.Shell
