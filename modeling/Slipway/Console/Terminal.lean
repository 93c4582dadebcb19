import Slipway.Text.Utf8

/-!
# Terminals

The codes that set text off on a terminal, and what is left of a text without its codes and its
other invisible characters.
-/

namespace Slipway

/-- The code that makes a terminal show what follows in another manner. -/
def terminalCode (n : Nat) : String := "\x1b[" ++ toString n ++ "m"

/-! ## Text without codes -/

/-- Where in the codes of a terminal the reading of a text is. -/
inductive CodePlace
  | outside
  /-- Behind the escape character, and maybe behind marks that follow it. -/
  | escape
  | marks
  /-- In a control sequence, which a letter ends. -/
  | sequence
  /-- In a command for the terminal, which a bell ends. -/
  | command
  /-- In a text for something else, which only its own end mark ends. -/
  | remark
  deriving DecidableEq

namespace CodePlace

/-- The place behind a character that is in a code. -/
def next (place : CodePlace) (c : Char) : CodePlace :=
  let n := c.toNat
  if n = 0x18 ∨ n = 0x1a then .outside
  else if n = 0x1b then .escape
  else match place with
    | .outside => .outside
    | .escape =>
      if c = '[' then .sequence
      else if c = ']' then .command
      else if c = 'P' ∨ c = 'X' ∨ c = '^' ∨ c = '_' then .remark
      else if 0x20 ≤ n ∧ n < 0x30 then .marks
      else if 0x30 ≤ n ∧ n < 0x7f then .outside
      else .escape
    | .marks => if 0x30 ≤ n ∧ n < 0x7f then .outside else .marks
    | .sequence => if 0x40 ≤ n ∧ n < 0x7f then .outside else .sequence
    | .command => if n = 7 then .outside else .command
    | .remark => if (Utf8.encode (String.singleton c)).contains 0x9c then .outside else .remark

def isBlankMark (c : Char) : Bool := c = '\t' || c = '\n' || c = '\r' || c = '\x0c'

/-- Whether the character is shown. Tabs and line ends are also shown inside the codes that have a
fixed form. -/
def shows (place : CodePlace) (c : Char) : Bool :=
  match place with
  | .outside => isBlankMark c || (0x20 ≤ c.toNat && c.toNat ≠ 0x7f)
  | .escape | .marks | .sequence => isBlankMark c
  | .command | .remark => false

end CodePlace

/-- The characters that a terminal would show. A character that is shown inside a code makes all that
follow it shown, up to the first that never is. -/
def visibleFrom (place : CodePlace) (showing : Bool) : List Char → List Char
  | [] => []
  | c :: rest =>
    if showing && CodePlace.outside.shows c then c :: visibleFrom place true rest
    else if showing && CodePlace.outside.next c ≠ .outside then
      visibleFrom (CodePlace.outside.next c) false rest
    else if place.shows c then c :: visibleFrom place true rest
    else visibleFrom (place.next c) false rest

/-- The text without the codes for terminals and without invisible characters. -/
def visibleText (text : String) : String :=
  String.ofList (visibleFrom .outside false text.toList)

/-! ## Pieces -/

/-- What a piece of a text for the user is. -/
inductive Tone
  | plain
  /-- Something to be typed as it stands. -/
  | literal
  /-- Something that was given and is wrong. -/
  | wrong
  | heading
  /-- The word that announces an error. -/
  | alarm
  deriving DecidableEq

def Tone.codes : Tone → List Nat
  | plain => []
  | literal => [1]
  | wrong => [33]
  | heading => [1, 4]
  | alarm => [1, 31]

structure Piece where
  tone : Tone
  text : String
  deriving DecidableEq

/-- The piece with its codes around it. -/
def Piece.styled (p : Piece) : String :=
  match p.tone.codes with
  | [] => p.text
  | codes => String.join (codes.map terminalCode) ++ p.text ++ terminalCode 0

/-- The text of all pieces, with codes where they are wanted. Without them no code is left, be it
one that was in the text itself, which a code between the pieces may end. -/
def Piece.joined (styled : Bool) (pieces : List Piece) : String :=
  let text := String.join (pieces.map Piece.styled)
  if styled then text else visibleText text

end Slipway
