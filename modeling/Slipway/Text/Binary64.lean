import Slipway.Text.Basic
import Slipway.Text.Characters

/-!
# Binary fractions

Numbers of 64 bits with a fraction: reading them from texts, and writing them in decimal and
hexadecimal digits. A finite number is a whole one times a power of two, so all digits are exact.
-/

namespace Slipway

/-- `n / d` to the nearest whole number, a tie to the even one. -/
def roundQuotient (n d : Nat) : Nat :=
  let below := n / d
  let twice := 2 * (n % d)
  if twice < d then below
  else if d < twice then below + 1
  else if below % 2 = 0 then below else below + 1

inductive Binary64
  | finite (negative : Bool) (mantissa : Nat) (exponent : Int)
  | infinite (negative : Bool)
  | nan (negative : Bool)
  deriving DecidableEq

namespace Binary64

/-! ## Rounding -/

/-- A quotient times a power of two, as a quotient. -/
def scale (n d : Nat) (power : Int) : Nat × Nat :=
  match power with
  | .ofNat k => (n * Nat.pow 2 k, d)
  | .negSucc k => (n, d * Nat.pow 2 (k + 1))

/-- The nearest number to `n / d`, a tie to the even one. -/
def ofQuotient (negative : Bool) (n d : Nat) : Binary64 :=
  if n = 0 then .finite negative 0 0
  else
    let estimate : Int := (Nat.log2 n : Int) - (Nat.log2 d : Int) - 52
    let (a, b) := scale n d (-estimate)
    -- The estimate of the exponent may be one too high.
    let exponent := if a < Nat.pow 2 52 * b then estimate - 1 else estimate
    let exponent := max exponent (-1074)
    let (a, b) := scale n d (-exponent)
    let mantissa := roundQuotient a b
    if 971 < exponent ∨ (exponent = 971 ∧ Nat.pow 2 53 ≤ mantissa) then .infinite negative
    else .finite negative mantissa exponent

def negate : Binary64 → Binary64
  | finite negative mantissa exponent => finite (!negative) mantissa exponent
  | infinite negative => infinite (!negative)
  | nan negative => nan (!negative)

def isNegative : Binary64 → Bool
  | finite negative _ _ => negative
  | infinite negative => negative
  | nan negative => negative

/-- The magnitude of a finite number, as a quotient. -/
def quotient : Binary64 → Nat × Nat
  | finite _ mantissa exponent => scale mantissa 1 exponent
  | _ => (0, 1)

/-- The order of numbers by their values; what is no number comes before all others. -/
def order (x y : Binary64) : Ordering :=
  let rank : Binary64 → Nat
    | nan _ => 0
    | infinite true => 1
    | finite _ _ _ => 2
    | infinite false => 3
  let signed := fun (z : Binary64) (factor : Nat) =>
    if z.isNegative then -(z.quotient.1 * factor : Int) else (z.quotient.1 * factor : Int)
  (compare (rank x) (rank y)).then (compare (signed x y.quotient.2) (signed y x.quotient.2))

/-! ## Reading -/

/-- Decimal exponents beyond this make no difference. -/
def maxExponent : Int := 5000

/-- A power and what follows it, behind the letter that announces it. -/
def readPower (letter : Char) (text : List Char) : Int × List Char :=
  match text with
  | c :: rest =>
    if c.toLower ≠ letter then (0, text)
    else
      let (negative, digits) := match rest with
        | '-' :: rest => (true, rest)
        | '+' :: rest => (false, rest)
        | rest => (false, rest)
      let found := digits.takeWhile isDigitChar
      if found.isEmpty then (0, text)
      else
        let n : Nat := found.foldl (fun n c => n * 10 + (hexDigitValue? c).getD 0) 0
        (max (-maxExponent) (min maxExponent (if negative then -(n : Int) else n)),
          digits.drop found.length)
  | [] => (0, text)

/-- Digits to a base with a point among them: their value without the point, how many stand behind
it, and what follows. -/
def readDigits? (base : Nat) (text : List Char) : Option (Nat × Nat × List Char) :=
  let isDigit := fun (c : Char) => match hexDigitValue? c with
    | some value => value < base
    | none => false
  let whole := text.takeWhile isDigit
  let rest := text.drop whole.length
  let (part, rest) := match rest with
    | '.' :: behind =>
      let part := behind.takeWhile isDigit
      (part, behind.drop part.length)
    | rest => ([], rest)
  if whole.isEmpty ∧ part.isEmpty then none
  else
    some ((whole ++ part).foldl (fun n c => n * base + (hexDigitValue? c).getD 0) 0, part.length, rest)

/-- A number without a sign at the start of a text, and what follows it. -/
def readUnsigned? (negative : Bool) (text : List Char) : Option (Binary64 × List Char) :=
  let lower := text.map Char.toLower
  let decimal : Option (Binary64 × List Char) :=
    (readDigits? 10 text).map fun (value, places, rest) =>
      let (power, rest) := readPower 'e' rest
      let power := power - places
      (match power with
        | .ofNat k => ofQuotient negative (value * Nat.pow 10 k) 1
        | .negSucc k => ofQuotient negative value (Nat.pow 10 (k + 1)), rest)
  if "infinity".toList.isPrefixOf lower then some (.infinite negative, text.drop 8)
  else if "inf".toList.isPrefixOf lower then some (.infinite negative, text.drop 3)
  else if "nan".toList.isPrefixOf lower then some (.nan negative, text.drop 3)
  else if "0x".toList.isPrefixOf lower then
    match readDigits? 16 (text.drop 2) with
    | some (value, places, rest) =>
      let (power, rest) := readPower 'p' rest
      let (n, d) := scale value 1 (power - 4 * (places : Int))
      some (ofQuotient negative n d, rest)
    | none => decimal
  else decimal

/-- A number at the start of a text, behind blanks and a sign, and what follows it. -/
def read? (text : List Char) : Option (Binary64 × List Char) :=
  match text.dropWhile isSpaceChar with
  | '-' :: rest => readUnsigned? true rest
  | '+' :: rest => readUnsigned? false rest
  | rest => readUnsigned? false rest

/-! ## Writing -/

/-- Puts a point in front of the last `places` digits. -/
def withPoint (places : Nat) (keepsPoint : Bool) (digits : List Char) : List Char :=
  let padded := List.replicate (places + 1 - digits.length) '0' ++ digits
  let whole := padded.take (padded.length - places)
  if places = 0 then (if keepsPoint then whole ++ ['.'] else whole)
  else whole ++ '.' :: padded.drop (padded.length - places)

/-- The magnitude with so many places behind the point. -/
def fixedText (places : Nat) (keepsPoint : Bool) (x : Binary64) : List Char :=
  let (n, d) := x.quotient
  withPoint places keepsPoint (Nat.toDigits 10 (roundQuotient (n * Nat.pow 10 places) d))

/-- How often a quotient below one has to be multiplied by ten to be one at least. -/
def countPlaces (n d : Nat) : (fuel : Nat) → (count : Nat) → Nat
  | 0, count => count
  | fuel + 1, count => if d ≤ n then count else countPlaces (n * 10) d fuel (count + 1)

/-- The magnitude in so many digits behind the first one, and its decimal exponent. -/
def decimalDigits (places : Nat) (x : Binary64) : List Char × Int :=
  let (n, d) := x.quotient
  if n = 0 then (List.replicate (places + 1) '0', 0)
  else
    let exponent : Int := if d ≤ n then (Nat.toDigits 10 (n / d)).length - 1
      else -(countPlaces n d 400 0 : Int)
    let digits := fun (exponent : Int) => match (places : Int) - exponent with
      | .ofNat k => roundQuotient (n * Nat.pow 10 k) d
      | .negSucc k => roundQuotient n (d * Nat.pow 10 (k + 1))
    let found := digits exponent
    if Nat.pow 10 (places + 1) ≤ found then (Nat.toDigits 10 (digits (exponent + 1)), exponent + 1)
    else (Nat.toDigits 10 found, exponent)

def exponentText (letter : Char) (exponent : Int) (width : Nat) : List Char :=
  let digits := Nat.toDigits 10 exponent.natAbs
  letter :: (if exponent < 0 then '-' else '+') ::
    List.replicate (width - digits.length) '0' ++ digits

/-- The magnitude with one digit in front of the point and a power of ten. -/
def powerText (places : Nat) (keepsPoint : Bool) (x : Binary64) : List Char :=
  let (digits, exponent) := x.decimalDigits places
  withPoint places keepsPoint digits ++ exponentText 'e' exponent 2

/-- A text with a point but without zeros at its end. -/
def dropZeros (text : List Char) : List Char :=
  if text.contains '.' then
    let kept := (text.reverse.dropWhile (· = '0')).reverse
    if kept.getLast? = some '.' then kept.dropLast else kept
  else text

/-- The magnitude in so many digits, with a power of ten only where that is shorter. -/
def shortText (digits : Nat) (keepsZeros : Bool) (x : Binary64) : List Char :=
  let digits := max digits 1
  let (_, exponent) := x.decimalDigits (digits - 1)
  let trim := if keepsZeros then id else dropZeros
  if -4 ≤ exponent ∧ exponent < digits then
    trim (x.fixedText ((digits : Int) - 1 - exponent).toNat keepsZeros)
  else
    let (found, exponent) := x.decimalDigits (digits - 1)
    trim (withPoint (digits - 1) keepsZeros found) ++ exponentText 'e' exponent 2

/-- The magnitude in hexadecimal digits with a power of two. -/
def hexText (places : Option Nat) (keepsPoint : Bool) (x : Binary64) : List Char :=
  match x with
  | finite _ mantissa exponent =>
    let shift := if mantissa = 0 then 0 else 52 - Nat.log2 mantissa
    let mantissa := mantissa * Nat.pow 2 shift
    let power : Int := if mantissa = 0 then 0 else exponent - shift + 52
    let kept := places.getD 13
    let rounded := if kept < 13 then roundQuotient mantissa (Nat.pow 16 (13 - kept))
      else mantissa * Nat.pow 16 (kept - 13)
    let text := withPoint kept keepsPoint (Nat.toDigits 16 rounded)
    let text := if places.isNone then dropZeros text else text
    '0' :: 'x' :: text ++ exponentText 'p' power 1
  | _ => []

end Binary64

end Slipway
