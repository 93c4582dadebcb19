import Slipway.Shell.Number
import Slipway.Text.Characters

/-!
# Escapes

What stands behind a backslash in texts, and texts in a form that a shell reads again.
-/

namespace Slipway.Rich

open Shell (Text isOctalDigit valueOfDigits)

/-! ## Reading escapes -/

/-- Which escapes there are. -/
structure EscapeRules where
  /-- Octal numbers need a zero in front. -/
  zeroFirst : Bool := false
  /-- That zero is none of the three digits. -/
  zeroIsExtra : Bool := false
  /-- Quotes and question marks can be escaped. -/
  quotes : Bool := true
  /-- A `c` stands for a control character, which the next one names. -/
  controls : Bool := false
  /-- A `c` ends the text. -/
  stops : Bool := false

/-- Behind a dollar sign and a quote. -/
def quoteEscapes : EscapeRules where
  controls := true

def echoEscapes : EscapeRules where
  zeroFirst := true
  zeroIsExtra := true
  quotes := false
  stops := true

/-- In an argument of `printf`. -/
def argumentEscapes : EscapeRules where
  zeroIsExtra := true
  stops := true

/-- In the format of `printf`. -/
def formatEscapes : EscapeRules := {}

def escapedChar? : Char → Option Char
  | 'a' => some '\x07'
  | 'b' => some '\x08'
  | 'e' => some '\x1b'
  | 'E' => some '\x1b'
  | 'f' => some '\x0c'
  | 'n' => some '\n'
  | 'r' => some '\r'
  | 't' => some '\t'
  | 'v' => some '\x0b'
  | '\\' => some '\\'
  | _ => none

/-- The value of at most so many digits at the start of a text, and what follows them. -/
def readDigits? (base most : Nat) (text : Text) : Option (Nat × Text) :=
  let digits := (text.take most).takeWhile (Shell.isDigitOf base)
  if digits.isEmpty then none else some (valueOfDigits base digits, text.drop digits.length)

def byteOf (n : Nat) : Text := [Char.ofNat (n % 256)]

/-- The bytes of the character with a number. -/
def characterOf (n : Nat) : Text :=
  if n < 128 then [Char.ofNat n]
  else if n < 0x110000 ∧ !(0xD800 ≤ n ∧ n < 0xE000) then Characters.encodeOne (Char.ofNat n)
  else if n < 0x10000 then
    [Char.ofNat (0xE0 + n / 4096), Char.ofNat (0x80 + n / 64 % 64), Char.ofNat (0x80 + n % 64)]
  else []

/-- What stands behind a backslash: the text for it, what follows, and whether all ends there. -/
def readEscape (rules : EscapeRules) (text : Text) : Text × Text × Bool :=
  let kept : Text × Text × Bool := (['\\'], text, false)
  let number (base most : Nat) (behind : Text) (show? : Nat → Text) : Text × Text × Bool :=
    match readDigits? base most behind with
    | some (n, rest) => (show? n, rest, false)
    | none => kept
  match text with
  | [] => kept
  | 'x' :: rest => number 16 2 rest byteOf
  | 'u' :: rest => number 16 4 rest characterOf
  | 'U' :: rest => number 16 8 rest characterOf
  | 'c' :: rest =>
    if rules.stops then ([], [], true)
    else if rules.controls then
      match rest with
      | '\\' :: '\\' :: rest => (['\x1c'], rest, false)
      | d :: rest => (byteOf (if d = '?' then 127 else d.toUpper.toNat % 32), rest, false)
      | [] => kept
    else kept
  | c :: rest =>
    if let some d := escapedChar? c then ([d], rest, false)
    else if c = '0' ∧ rules.zeroIsExtra then
      match readDigits? 8 3 rest with
      | some (n, rest) => (byteOf n, rest, false)
      | none => (['\x00'], rest, false)
    else if isOctalDigit c ∧ !rules.zeroFirst then number 8 3 text byteOf
    else if (c = '\'' ∨ c = '"' ∨ c = '?') ∧ rules.quotes then ([c], rest, false)
    else kept

/-- The text with its escapes replaced, and whether an escape ended it. -/
def unescape (rules : EscapeRules) : (fuel : Nat) → Text → Text × Bool
  | 0, _ => ([], false)
  | _, [] => ([], false)
  | fuel + 1, '\\' :: rest =>
    let (found, rest, ended) := readEscape rules rest
    if ended then (found, true)
    else
      let (more, ended) := unescape rules fuel rest
      (found ++ more, ended)
  | fuel + 1, c :: rest =>
    let (more, ended) := unescape rules fuel rest
    (c :: more, ended)

def unescaped (rules : EscapeRules) (text : Text) : Text × Bool :=
  unescape rules (text.length + 1) text

/-! ## Writing texts in quotes -/

def singleQuoted (text : Text) : Text :=
  if text = ['\''] then "\\'".toList
  else '\'' :: text.flatMap (fun c => if c = '\'' then "'\\''".toList else [c]) ++ ['\'']

def doubleQuoted (text : Text) : Text :=
  '"' :: text.flatMap (fun c => if "\"$\x60\\".toList.contains c then ['\\', c] else [c]) ++ ['"']

/-- Whether a text has characters that cannot be shown. -/
def hasHidden (text : Text) : Bool := (Characters.decode text).any (fun c => !Characters.isShown c)

/-- A text with its hidden characters as escapes. -/
def escapeQuoted (text : Text) : Text :=
  let escape (c : Char) : Text :=
    match c with
    | '\x1b' => "\\E".toList
    | '\x07' => "\\a".toList
    | '\x0b' => "\\v".toList
    | '\x08' => "\\b".toList
    | '\x0c' => "\\f".toList
    | '\n' => "\\n".toList
    | '\r' => "\\r".toList
    | '\t' => "\\t".toList
    | '\\' => "\\\\".toList
    | '\'' => "\\'".toList
    | c =>
      let bytes := Characters.encodeOne c
      if Characters.isShown c then bytes
      else bytes.flatMap (fun b => '\\' :: fixedDigits 8 3 b.toNat)
  '$' :: '\'' :: (Characters.decode text).flatMap escape ++ ['\'']

/-- Whether a tilde or a number sign has a meaning behind what stands in front of it. -/
def startsMeaning (before : Option Char) (c : Char) : Bool :=
  match before with
  | none => c = '~' || c = '#'
  | some b => c = '~' && (b = '=' || b = ':')

/-- A text with backslashes in front of what has a meaning. -/
def backslashed : (before : Option Char) → Text → Text
  | _, [] => []
  | before, c :: rest =>
    let marked := " \t\n!\"$&'()*,;<>?[\\]^\x60\x7b|\x7d".toList.contains c || startsMeaning before c
    (if marked then ['\\', c] else [c]) ++ backslashed (some c) rest

/-- Whether anything in a text has a meaning to a shell. -/
def hasMeaning : (before : Option Char) → Text → Bool
  | _, [] => false
  | before, c :: rest =>
    " \t\n'\"\\|&;()<>!\x7b\x7d*[?]^$\x60".toList.contains c || startsMeaning before c
      || hasMeaning (some c) rest

/-- A text in quotes of the kind that it needs. -/
def quotedAlways (text : Text) : Text :=
  if hasHidden text then escapeQuoted text else singleQuoted text

/-- A text as an argument would be written for it. -/
def quotedArgument (text : Text) : Text :=
  if text.isEmpty then "''".toList
  else if hasHidden text then escapeQuoted text
  else backslashed none text

def quotedIfNeeded (text : Text) : Text :=
  if text.isEmpty then "''".toList
  else if hasHidden text then escapeQuoted text
  else if hasMeaning none text then singleQuoted text
  else text

/-- A text as it is shown when a command runs. Single quotes come first here. -/
def quotedInTrace (text : Text) : Text :=
  if text.isEmpty then "''".toList
  else if hasMeaning none text then singleQuoted text
  else if hasHidden text then escapeQuoted text
  else text

/-- The value of a variable as it is shown in a declaration. -/
def quotedValue (text : Text) : Text :=
  if hasHidden text then escapeQuoted text else doubleQuoted text

end Slipway.Rich
