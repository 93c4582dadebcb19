import Slipway.Text.Alphanumeric
import Slipway.Text.Basic
import Slipway.Text.Characters

/-!
# Patterns for values

A rule of a log filter may ask for a value that fits a pattern. Nothing is ever compared with one
here, but a filter with a faulty pattern is not used at all, so it is told which texts are patterns.
Patterns know no properties of characters beyond ASCII: neither classes of letters and digits nor
different cases, unless they are restricted to bytes.
-/

namespace Slipway

namespace ValuePattern

/-- What marks in a pattern switch on. -/
structure Modes where
  ignoresCase : Bool := false
  /-- Characters of all scripts are meant. -/
  wide : Bool := true
  /-- Blanks and comments between the parts do not count. -/
  spaced : Bool := false

def isSign (c : Char) : Bool := "\\.+*?()|[]\x7b\x7d^$#&-~".toList.contains c

/-- Whether the character stands for itself behind a backslash. -/
def canBeEscaped (c : Char) : Bool :=
  isSign c || (c.toNat < 128 && !c.isAlphanum && c ≠ '<' && c ≠ '>')

/-- What stands in a pattern for one thing. -/
inductive Item
  | char (c : Char)
  /-- A class of characters, which cannot be the end of a range. -/
  | charClass
  /-- A place between characters, which cannot be in a set. -/
  | place

/-- Whether a character can stand in the pattern as it is. -/
def Modes.allowsChar (m : Modes) (c : Char) : Bool :=
  if m.wide then !m.ignoresCase else c.toNat < 128 || !m.ignoresCase

def skipBlanks (m : Modes) : (fuel : Nat) → List Char → List Char
  | 0, text => text
  | fuel + 1, text =>
    if !m.spaced then text
    else
      match text with
      | '#' :: rest => skipBlanks m fuel (rest.dropWhile (· ≠ '\n'))
      | c :: rest => if isBlank c then skipBlanks m fuel rest else text
      | [] => []

/-- A character given by so many hexadecimal digits. -/
def readHex (m : Modes) (count : Nat) (text : List Char) : Option (Item × List Char) := do
  let digits := text.take count
  let values ← digits.mapM hexDigitValue?
  let n := values.foldl (fun n d => n * 16 + d) 0
  if values.length < count ∨ 0x110000 ≤ n ∨ (0xD800 ≤ n ∧ n < 0xE000) then none
  else if !m.wide ∧ 128 ≤ n then none
  else some (.char (Char.ofNat n), text.drop count)

/-- What stands behind a backslash. -/
def readEscape (m : Modes) : List Char → Option (Item × List Char)
  | [] => none
  | c :: rest =>
    match c with
    | 'x' => readHex m 2 rest
    | 'u' => readHex m 4 rest
    | 'U' => readHex m 8 rest
    | 'd' => if m.wide then none else some (.charClass, rest)
    | 's' => if m.wide then none else some (.charClass, rest)
    | 'w' => if m.wide then none else some (.charClass, rest)
    | 'a' => some (.char '\x07', rest)
    | 'f' => some (.char '\x0c', rest)
    | 't' => some (.char '\t', rest)
    | 'n' => some (.char '\n', rest)
    | 'r' => some (.char '\r', rest)
    | 'v' => some (.char '\x0b', rest)
    | 'A' => some (.place, rest)
    | 'z' => some (.place, rest)
    | 'b' => if m.wide ∨ rest.head? = some '\x7b' then none else some (.place, rest)
    | 'B' => if m.wide then none else some (.place, rest)
    | '<' => if m.wide then none else some (.place, rest)
    | '>' => if m.wide then none else some (.place, rest)
    | c => if canBeEscaped c then some (.char c, rest) else none

/-! ## Sets -/

def readSetItem (m : Modes) : List Char → Option (Item × List Char)
  | [] => none
  | '\\' :: rest => readEscape m rest
  | c :: rest => if !m.wide ∧ 128 ≤ c.toNat then none else some (.char c, rest)

/-- A class with a name between colons. -/
def namedClass? (text : List Char) : Option (List Char) :=
  match text with
  | '[' :: ':' :: rest =>
    let rest := if rest.head? = some '^' then rest.drop 1 else rest
    let name := rest.takeWhile (fun c => c ≠ ':')
    match rest.drop name.length with
    | ':' :: ']' :: rest =>
      if String.ofList name = "word" ∨ String.ofList name = "ascii"
          ∨ (charClass? (String.ofList name)).isSome then some rest
      else none
    | _ => none
  | _ => none

/-- What stands behind the opening bracket before anything else: a sign that turns the set around,
and signs that stand for themselves there. -/
def openSet (m : Modes) (text : List Char) : Option (List Char) :=
  let fuel := text.length + 1
  let text := skipBlanks m fuel text
  let isTurned := text.head? = some '^'
  if isTurned ∧ !m.wide then none
  else
    let text := if isTurned then skipBlanks m fuel (text.drop 1) else text
    let behind := text.dropWhile (· = '-')
    let behind := if behind.length = text.length ∧ behind.head? = some ']' then behind.drop 1
      else behind
    let behind := skipBlanks m fuel behind
    if behind.isEmpty then none else some behind

/-- What stands behind a set. So many sets are open. -/
def readSet (m : Modes) : (fuel : Nat) → (depth : Nat) → List Char → Option (List Char)
  | 0, _, _ => none
  | fuel + 1, depth, text =>
    match skipBlanks m (text.length + 1) text with
    | [] => none
    | ']' :: rest => if depth ≤ 1 then some rest else readSet m fuel (depth - 1) rest
    | '[' :: rest =>
      match namedClass? ('[' :: rest) with
      | some rest => readSet m fuel depth rest
      | none => (openSet m rest).bind (readSet m fuel (depth + 1))
    | '&' :: '&' :: rest => readSet m fuel depth rest
    | '-' :: '-' :: rest => readSet m fuel depth rest
    | '~' :: '~' :: rest => readSet m fuel depth rest
    | text => do
      let (first, rest) ← readSetItem m text
      let rest := skipBlanks m (rest.length + 1) rest
      let isRange := match rest with
        | '-' :: rest =>
          match skipBlanks m (rest.length + 1) rest with
          | c :: _ => c ≠ ']' && c ≠ '-'
          | [] => true
        | _ => false
      if isRange then
        let (last, rest) ← readSetItem m (skipBlanks m (rest.length + 1) (rest.drop 1))
        match first, last with
        | .char a, .char b => if b < a then none else readSet m fuel depth rest
        | _, _ => none
      else
        match first with
        | .place => none
        | _ => readSet m fuel depth rest

/-! ## Groups -/

/-- The modes that letters switch on, or off behind a minus sign, and what stands behind them. -/
def readModes (m : Modes) : (seen : List Char) → List Char → Option (Modes × List Char × List Char)
  | _, [] => none
  | seen, c :: rest =>
    if c = ':' ∨ c = ')' then if seen.head? = some '-' then none else some (m, seen, c :: rest)
    else if seen.contains c then none
    else
      let on := !seen.contains '-'
      match c with
      | '-' => readModes m (c :: seen) rest
      | 'i' => readModes { m with ignoresCase := on } (c :: seen) rest
      | 'u' => readModes { m with wide := on } (c :: seen) rest
      | 'x' => readModes { m with spaced := on } (c :: seen) rest
      | c => if ['m', 's', 'U', 'R'].contains c then readModes m (c :: seen) rest else none

/-- What stands behind the name of a group. -/
def behindName? (text : List Char) : Option (List Char) :=
  let name := text.takeWhile (· ≠ '>')
  match name, text.drop name.length with
  | first :: others, '>' :: rest =>
    if (first = '_' || (isAlphanumeric first && !first.isDigit))
        && others.all (fun c => "_.[]".toList.contains c || isAlphanumeric c) then some rest
    else none
  | _, _ => none

/-- Groups that are open inside each other. -/
def maxDepth : Nat := 250

/-- Whether a text is a pattern. Something that can be repeated stands in front of it if `repeats`;
the modes are those of the open groups, the innermost first. -/
def isWellFormed : (fuel : Nat) → (modes : List Modes) → (repeats : Bool) → List Char → Bool
  | 0, _, _, _ => false
  | _, [], _, _ => false
  | fuel + 1, m :: outer, repeats, text =>
    match skipBlanks m (text.length + 1) text with
    | [] => outer.isEmpty
    | '(' :: rest =>
      if maxDepth ≤ outer.length then false
      else
        let behindName := match rest with
          | '?' :: 'P' :: '<' :: rest => some (behindName? rest)
          | '?' :: '<' :: rest => some (behindName? rest)
          | _ => none
        match behindName, rest with
        | some (some rest), _ => isWellFormed fuel (m :: m :: outer) false rest
        | some none, _ => false
        | none, '?' :: rest =>
          match readModes m [] rest with
          | some (inner, _, ':' :: rest) => isWellFormed fuel (inner :: m :: outer) false rest
          | some (inner, seen, _ :: rest) =>
            !seen.isEmpty && isWellFormed fuel (inner :: outer) false rest
          | _ => false
        | none, rest => isWellFormed fuel (m :: m :: outer) false rest
    | ')' :: rest => !outer.isEmpty && isWellFormed fuel outer true rest
    | '|' :: rest => isWellFormed fuel (m :: outer) false rest
    | '[' :: rest =>
      match (openSet m rest).bind (readSet m (rest.length + 1) 1) with
      | some rest => !(m.wide && m.ignoresCase) && isWellFormed fuel (m :: outer) true rest
      | none => false
    | '\x7b' :: _ => false
    | '\\' :: rest =>
      match readEscape m rest with
      | some (.char c, rest) => m.allowsChar c && isWellFormed fuel (m :: outer) true rest
      | some (_, rest) => isWellFormed fuel (m :: outer) true rest
      | none => false
    | '.' :: rest => m.wide && isWellFormed fuel (m :: outer) true rest
    | '^' :: rest => isWellFormed fuel (m :: outer) true rest
    | '$' :: rest => isWellFormed fuel (m :: outer) true rest
    | c :: rest =>
      if c = '?' ∨ c = '*' ∨ c = '+' then
        repeats && isWellFormed fuel (m :: outer) true
          (if rest.head? = some '?' then rest.drop 1 else rest)
      else m.allowsChar c && isWellFormed fuel (m :: outer) true rest

end ValuePattern

/-- Whether a text without a sign writes a number. -/
def isUnsignedNumber (text : List Char) : Bool :=
  let lower := String.ofList (text.map Char.toLower)
  if ["inf", "infinity", "nan"].contains lower then true
  else
    let whole := text.takeWhile Char.isDigit
    let rest := text.drop whole.length
    let (part, rest) := match rest with
      | '.' :: rest => (rest.takeWhile Char.isDigit, rest.dropWhile Char.isDigit)
      | rest => ([], rest)
    let exponentOk := match rest with
      | [] => true
      | e :: rest =>
        let digits := match rest with
          | '+' :: digits => digits
          | '-' :: digits => digits
          | digits => digits
        (e = 'e' || e = 'E') && !digits.isEmpty && digits.all Char.isDigit
    !(whole ++ part).isEmpty && exponentOk

/-- Whether a value can be asked for: a number, or a pattern. There are no braces in the text, so
nothing can be counted. -/
def isValuePattern (text : String) : Bool :=
  let chars := text.toList
  (match chars with
    | '+' :: rest => isUnsignedNumber rest
    | _ => false)
  || ValuePattern.isWellFormed (chars.length + 1) [{}] false chars

end Slipway
