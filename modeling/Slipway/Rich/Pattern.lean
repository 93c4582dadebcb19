import Slipway.Shell.Pattern
import Slipway.Text.Characters

/-!
# Patterns with groups

Patterns as the plain shell has them, on characters in place of bytes, with groups of patterns that
may be repeated.
-/

namespace Slipway.Rich

open Shell (Text Letter Letters SetItem)

inductive PatternItem
  | char (c : Char)
  | anyChar
  | anyText
  | oneOf (negated : Bool) (items : List SetItem)
  /-- Patterns of which the kind tells how many follow each other: one for `@`, at most one for
  `?`, any number for `*`, one at least for `+`, and something else than one for `!`. -/
  | group (kind : Char) (patterns : List (List PatternItem))

abbrev Pattern := List PatternItem

/-! ## Reading patterns -/

/-- The item whose name stands between two marks behind an opening bracket. -/
def readNamed? (letters : Letters) : Option (SetItem × Letters) :=
  match Shell.readClass? letters with
  | some found => some found
  | none =>
    match letters.map (·.char) with
    | '=' :: c :: '=' :: ']' :: _ => some (.range c c, letters.drop 4)
    | '.' :: c :: '.' :: ']' :: _ => some (.range c c, letters.drop 4)
    | _ => none

/-- The items of a set up to its end, and what follows it. Only the first letter may be a closing
bracket. -/
def readItems : (fuel : Nat) → (isFirst : Bool) → (found : List SetItem) → Letters →
    Option (List SetItem × Letters)
  | 0, _, _, _ => none
  | _, _, _, [] => none
  | fuel + 1, isFirst, found, l :: rest =>
    if l.isActive ']' ∧ !isFirst then some (found, rest)
    else
      match (if l.isActive '[' then readNamed? rest else none) with
      | some (item, rest) => readItems fuel false (item :: found) rest
      | none =>
        match rest with
        | dash :: high :: behind =>
          if dash.isActive '-' ∧ !high.isActive ']' then
            readItems fuel false (.range l.char high.char :: found) behind
          else readItems fuel false (.range l.char l.char :: found) rest
        | _ => readItems fuel false (.range l.char l.char :: found) rest

/-- A set behind its opening bracket, and what follows it. -/
def readSet (letters : Letters) : Option (PatternItem × Letters) :=
  let read (negated : Bool) (letters : Letters) :=
    (readItems (letters.length + 1) true [] letters).map
      (fun (items, rest) => (PatternItem.oneOf negated items, rest))
  match letters with
  | l :: rest => if l.isActive '!' ∨ l.isActive '^' then read true rest else read false letters
  | [] => none

/-- The alternatives of a group up to its closing bracket, and what follows it. -/
def splitGroup : (depth : Nat) → (found : Letters) → Letters → Option (List Letters × Letters)
  | _, _, [] => none
  | depth, found, l :: rest =>
    if l.isActive ')' then
      match depth with
      | 0 => some ([found.reverse], rest)
      | depth + 1 => splitGroup depth (l :: found) rest
    else if l.isActive '|' ∧ depth = 0 then
      (splitGroup depth [] rest).map (fun (others, rest) => (found.reverse :: others, rest))
    else splitGroup (if l.isActive '(' then depth + 1 else depth) (l :: found) rest

def patternFrom (hasGroups : Bool) : (fuel : Nat) → Letters → Pattern
  | 0, _ => []
  | _, [] => []
  | fuel + 1, l :: rest =>
    let group := match rest with
      | opening :: inner =>
        if hasGroups ∧ opening.isActive '(' ∧ !l.quoted ∧ "?*+@!".toList.contains l.char then
          splitGroup 0 [] inner
        else none
      | [] => none
    match group with
    | some (alternatives, rest) =>
      .group l.char (alternatives.map (patternFrom hasGroups fuel)) :: patternFrom hasGroups fuel rest
    | none =>
      if l.isActive '*' then .anyText :: patternFrom hasGroups fuel rest
      else if l.isActive '?' then .anyChar :: patternFrom hasGroups fuel rest
      else if l.isActive '[' then
        match readSet rest with
        | some (item, rest) => item :: patternFrom hasGroups fuel rest
        | none => .char '[' :: patternFrom hasGroups fuel rest
      else .char l.char :: patternFrom hasGroups fuel rest

/-- The letters of an expanded word as characters. -/
def decodedLetters (letters : Letters) : Letters :=
  if letters.all (fun l => l.char.toNat < 0x80) then letters
  else
    let pieces : List Letters := letters.splitBy (fun a b => a.quoted = b.quoted)
    pieces.flatMap fun piece =>
      let quoted := (piece.head?.map (·.quoted)).getD false
      (Characters.decode (piece.map (·.char))).map (fun c => ⟨c, quoted⟩)

def patternOf (hasGroups : Bool) (letters : Letters) : Pattern :=
  let letters := Shell.applyBackslashes (decodedLetters letters)
  patternFrom hasGroups (letters.length + 1) letters

def PatternItem.isPlain : PatternItem → Bool
  | char _ => true
  | _ => false

/-- Whether letters mean more than themselves. -/
def isPattern (hasGroups : Bool) (letters : Letters) : Bool :=
  (patternOf hasGroups letters).any (fun item => !item.isPlain)

/-! ## Matching -/

/-- Both parts of a text for every place in it. -/
def cuts : (before : List Char) → List Char → List (List Char × List Char)
  | before, [] => [(before.reverse, [])]
  | before, c :: rest => (before.reverse, c :: rest) :: cuts (c :: before) rest

/-- Equal characters, in any case if that does not count. -/
def sameChar (anyCase : Bool) (c d : Char) : Bool :=
  c = d || (anyCase && c.toLower = d.toLower)

mutual

/-- Whether a whole text fits a pattern. -/
def fits (anyCase : Bool) : (fuel : Nat) → Pattern → List Char → Bool
  | 0, _, _ => false
  | _ + 1, [], text => text.isEmpty
  | fuel + 1, .char c :: items, text =>
    match text with
    | d :: text => sameChar anyCase c d && fits anyCase fuel items text
    | [] => false
  | fuel + 1, .anyChar :: items, text =>
    match text with
    | _ :: text => fits anyCase fuel items text
    | [] => false
  | fuel + 1, .oneOf negated set :: items, text =>
    match text with
    | d :: text =>
      let isIn (d : Char) : Bool := set.any (SetItem.matches d)
      ((isIn d || (anyCase && (isIn d.toLower || isIn d.toUpper))) != negated)
        && fits anyCase fuel items text
    | [] => false
  | _ + 1, [.anyText], _ => true
  | fuel + 1, .anyText :: items, text =>
    fits anyCase fuel items text || (match text with
      | _ :: text => fits anyCase fuel (.anyText :: items) text
      | [] => false)
  | fuel + 1, .group kind patterns :: items, text =>
    (cuts [] text).any fun (first, rest) =>
      let single (text : List Char) : Bool := patterns.any (fun p => fits anyCase fuel p text)
      (match kind with
        | '@' => single first
        | '?' => first.isEmpty || single first
        | '!' => !single first
        | '*' => first.isEmpty || repeats anyCase fuel patterns first
        | _ => repeats anyCase fuel patterns first)
      && fits anyCase fuel items rest
  termination_by structural fuel => fuel

/-- Whether a text is made of pieces that each fit one of the patterns. -/
def repeats (anyCase : Bool) : (fuel : Nat) → List Pattern → List Char → Bool
  | 0, _, _ => false
  | fuel + 1, patterns, text =>
    (cuts [] text).any fun (first, rest) =>
      patterns.any (fun p => fits anyCase fuel p first)
        && (rest.isEmpty || (!first.isEmpty && repeats anyCase fuel patterns rest))
  termination_by structural fuel => fuel

end

def patternSize : (fuel : Nat) → Pattern → Nat
  | 0, _ => 1
  | _, [] => 1
  | fuel + 1, .group _ patterns :: items =>
    patterns.foldl (fun n p => n + patternSize fuel p) 1 + patternSize fuel items
  | fuel + 1, _ :: items => 1 + patternSize fuel items

def Pattern.fits (p : Pattern) (text : List Char) (anyCase : Bool := false) : Bool :=
  Rich.fits anyCase (2 * (patternSize 1000000 p + text.length) + 4) p text

/-- The length of the texts that fit, if they all have the same. -/
def Pattern.width? (p : Pattern) : Option Nat :=
  if p.all (fun item => match item with
    | .anyText => false
    | .group _ _ => false
    | _ => true) then some p.length else none

/-- The lengths that a fitting part of a text of some length can have, longer ones first if they
are asked for. -/
def Pattern.lengths (p : Pattern) (longest : Bool) (size : Nat) : List Nat :=
  match p.width? with
  | some n => if n ≤ size then [n] else []
  | none => if longest then (List.range (size + 1)).reverse else List.range (size + 1)

/-- The text without the shortest or longest end or start that fits. -/
def Pattern.trim (p : Pattern) (atEnd longest : Bool) (text : List Char) : List Char :=
  let size := text.length
  let part (n : Nat) := if atEnd then text.drop (size - n) else text.take n
  match (p.lengths longest size).find? (fun n => p.fits (part n)) with
  | some n => if atEnd then text.take (size - n) else text.drop n
  | none => text

/-- The length of the longest beginning that fits. -/
def Pattern.longest? (p : Pattern) (text : List Char) (anyCase : Bool := false) : Option Nat :=
  match p.width? with
  | some n =>
    let first := text.take n
    if first.length = n ∧ p.fits first anyCase then some n else none
  | none => (p.lengths true text.length).find? (fun n => p.fits (text.take n) anyCase)

end Slipway.Rich
