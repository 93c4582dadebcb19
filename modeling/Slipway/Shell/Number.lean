import Slipway.Shell.Channels
import Slipway.Text.Basic
import Slipway.Text.Characters

/-!
# Numbers

Reading numbers in texts. They have 64 bits and a sign.
-/

namespace Slipway.Shell

def maxNumber : Int := 9223372036854775807
def minNumber : Int := -9223372036854775808

/-- The number that is left of a larger one when only the lowest 64 bits are kept. -/
def wrapped (n : Int) : Int :=
  let m := n % 18446744073709551616
  if maxNumber < m then m - 18446744073709551616 else m

def isOctalDigit (c : Char) : Bool := '0' ≤ c && c ≤ '7'

def valueOfDigits (base : Nat) (digits : Text) : Nat :=
  digits.foldl (fun n c => n * base + (hexDigitValue? c).getD 0) 0

def isDigitOf (base : Nat) (c : Char) : Bool :=
  match hexDigitValue? c with
  | some value => value < base
  | none => false

/-- The digits at the start of a text, and what follows them. -/
def spanDigits (base : Nat) (text : Text) : Text × Text :=
  let digits := text.takeWhile (isDigitOf base)
  (digits, text.drop digits.length)

/-- The number at the start of a text that has no sign, and what follows it. To base 0 the digits
may say themselves what base they are to. -/
def readUnsigned? (base : Nat) (text : Text) : Option (Nat × Text) :=
  let plain (base : Nat) :=
    match spanDigits base text with
    | ([], _) => none
    | (digits, rest) => some (valueOfDigits base digits, rest)
  let hex (behind : Text) :=
    match spanDigits 16 behind with
    | ([], _) => plain 8
    | (digits, rest) => some (valueOfDigits 16 digits, rest)
  if base = 0 then
    match text with
    | '0' :: 'x' :: behind => hex behind
    | '0' :: 'X' :: behind => hex behind
    | '0' :: _ => plain 8
    | _ => plain 10
  else plain base

/-- Blanks, a sign and a number at the start of a text, and what follows them. -/
def readSigned? (base : Nat) (text : Text) : Option (Int × Text) :=
  match text.dropWhile isSpaceChar with
  | '-' :: behind => (readUnsigned? base behind).map (fun (n, rest) => (-(n : Int), rest))
  | '+' :: behind => (readUnsigned? base behind).map (fun (n, rest) => ((n : Int), rest))
  | behind => (readUnsigned? base behind).map (fun (n, rest) => ((n : Int), rest))

def inRange (n : Int) : Bool := minNumber ≤ n && n ≤ maxNumber

/-- The nearest number that there is. -/
def clamped (n : Int) : Int := max minNumber (min maxNumber n)

/-- The number that a whole text is. To base 0 blanks alone are zero. -/
def number? (base : Nat) (text : Text) : Option Int :=
  match readSigned? base text with
  | some (n, rest) => if inRange n ∧ rest.all isSpaceChar then some n else none
  | none => if base = 0 ∧ text.all isSpaceChar then some 0 else none

def badNumber {α : Type} (text : Text) : Eval α := fail ("Illegal number: " ++ text.toString)

/-- A number that is not negative. -/
def smallNumber (text : Text) : Eval Nat := do
  match number? 10 text with
  | some n => if 0 ≤ n ∧ n ≤ 2147483647 then pure n.toNat else badNumber text
  | none => badNumber text

def textOfInt (n : Int) : Text := (toString n).toList

end Slipway.Shell
