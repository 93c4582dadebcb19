import Slipway.Records.Pattern
import Slipway.Shell.Format
import Slipway.Text.Binary64

/-!
# Values

Numbers and texts, and texts from outside that count as numbers if they look like ones.
-/

namespace Slipway.Records

open Shell (Text Conversion)

/-! ## Numbers -/

/-- The exact value of a number. -/
def exactValue (x : Float) : Binary64 :=
  let bits := x.toBits.toNat
  let negative := bits / Nat.pow 2 63 = 1
  let exponent := bits / Nat.pow 2 52 % 2048
  let fraction := bits % Nat.pow 2 52
  if exponent = 2047 then (if fraction = 0 then .infinite negative else .nan true)
  else if exponent = 0 then .finite negative fraction (-1074)
  else .finite negative (fraction + Nat.pow 2 52) ((exponent : Int) - 1075)

def ofExact : Binary64 → Float
  | .finite negative mantissa exponent =>
    let x := (Float.ofNat mantissa).scaleB exponent
    if negative then -x else x
  | .infinite negative => if negative then -(1.0 / 0.0) else 1.0 / 0.0
  | .nan _ => 0.0 / 0.0

/-- The whole part of a number, the fraction dropped. -/
def wholePart (x : Float) : Int :=
  match exactValue x with
  | .finite negative mantissa exponent =>
    let n : Nat := match exponent with
      | .ofNat k => mantissa * Nat.pow 2 k
      | .negSucc k => mantissa / Nat.pow 2 (k + 1)
    if negative then -(n : Int) else n
  | _ => 0

/-- The number that whole units are. -/
def ofWhole (n : Int) : Float := Float.ofInt n

/-- What is left of a number when another one was taken away as often as it goes in. -/
def remainderOf (x y : Float) : Float :=
  match exactValue x, exactValue y with
  | .finite negative m e, .finite _ n f =>
    if n = 0 then 0.0 / 0.0
    else
      let low := min e f
      let a := m * Nat.pow 2 (e - low).toNat
      let b := n * Nat.pow 2 (f - low).toNat
      let (p, q) := Binary64.scale (a % b) 1 low
      ofExact (Binary64.ofQuotient negative p q)
  | .finite _ _ _, .infinite _ => x
  | _, _ => 0.0 / 0.0

def infinity : Float := 1.0 / 0.0

/-- The number at the start of a text. -/
def leadingNumber (text : Text) : Float :=
  let digits := text.takeWhile isDigitChar
  if digits.length < 16 ∧ !digits.isEmpty ∧ digits.length = text.length then
    Float.ofNat (Shell.valueOfDigits 10 digits)
  else
    match Binary64.read? text with
    | some (x, _) => ofExact x
    | none => 0

/-- Whether a text with blanks at its ends is a number. -/
def looksNumeric (text : Text) : Bool :=
  let inner := ((text.dropWhile isSpaceChar).reverse.dropWhile isSpaceChar).reverse
  match inner, inner.getLast? with
  | c :: _, some d =>
    (isDigitChar d || d = '.') && (isDigitChar c || c = '+' || c = '-' || c = '.') &&
      (match Binary64.read? inner with
        | some (_, rest) => rest.isEmpty
        | none => false)
  | _, _ => false

/-! ## Values -/

inductive Value
  | unset
  | number (x : Float)
  | text (s : Text)
  /-- A text from outside. -/
  | input (s : Text)

namespace Value

def toNumber : Value → Float
  | unset => 0
  | number x => x
  | text s => leadingNumber s
  | input s => leadingNumber s

/-- Whether a value counts as a number. -/
def isNumeric : Value → Bool
  | unset => true
  | number _ => true
  | text _ => false
  | input s => looksNumeric s

def isTrue : Value → Bool
  | unset => false
  | number x => x != 0
  | text s => !s.isEmpty
  | input s => if looksNumeric s then leadingNumber s != 0 else !s.isEmpty

end Value

/-! ## Formats -/

/-- What is wrong with a format. -/
inductive FormatProblem
  | tooFew
  | conversion (number : Nat)

/-- The flags, the width and the precision of a conversion that are written out; what asks for an
argument takes it from `args`. -/
def readSize (args : List Value) (text : Text) : Option (Option Int × List Value × Text) :=
  match text with
  | '*' :: rest =>
    match args with
    | v :: args => some (some (wholePart v.toNumber), args, rest)
    | [] => none
  | _ =>
    let digits := text.takeWhile isDigitChar
    some (if digits.isEmpty then none else some (Shell.valueOfDigits 10 digits : Int), args,
      text.drop digits.length)

/-- A number as a whole one for a conversion. -/
def signedField (c : Conversion) (x : Float) : Text :=
  let n := wholePart x
  if x == infinity ∨ Shell.maxNumber < n then
    c.unsignedField 'u' (if x == infinity then 18446744073709551615 else min n.toNat 18446744073709551615)
  else c.signedField (max n Shell.minNumber)

def unsignedField (c : Conversion) (kind : Char) (x : Float) : Text :=
  let n := wholePart x
  let m := if n < 0 then ((max n Shell.minNumber) % 18446744073709551616).toNat
    else min n.toNat 18446744073709551615
  c.unsignedField kind m

mutual

/-- A number as a text: whole ones in all their digits, others as a format says. -/
def numberText (format : Text) (x : Float) : (fuel : Nat) → Text
  | 0 => []
  | fuel + 1 =>
    if x == x.floor ∧ x ≤ 18446744073709551616.0 ∧ -9223372036854775808.0 ≤ x then
      (toString (min (wholePart x) 18446744073709551615)).toList
    else (formatted format format fuel 1 [.number x]).1

/-- A format filled from values: what was written, and why it could not go on. -/
def formatted (numbers : Text) (format : Text) : (fuel : Nat) → (count : Nat) →
    (args : List Value) → Text × Option FormatProblem
  | 0, _, _ => ([], none)
  | fuel + 1, count, args =>
    match format with
    | [] => ([], none)
    | '%' :: '%' :: rest =>
      let (more, problem) := formatted numbers rest fuel count args
      ('%' :: more, problem)
    | '%' :: rest =>
      let flags := rest.takeWhile (fun c => "#-+ 0".toList.contains c)
      let rest := rest.drop flags.length
      match readSize args rest with
      | none => ([], some .tooFew)
      | some (width, args, rest) =>
        let sizes : Option (Option Int × List Value × Text) := match rest with
          | '.' :: rest =>
            match readSize args rest with
            | some (p, args, rest) => some (some (p.getD 0), args, rest)
            | none => none
          | _ => some (none, args, rest)
        match sizes with
        | none => ([], some .tooFew)
        | some (precision, args, rest) =>
          let width := width.getD 0
          let c : Conversion := {
            leftAligned := flags.contains '-' || width < 0
            zeroPadded := flags.contains '0', plus := flags.contains '+'
            space := flags.contains ' ', alternative := flags.contains '#', width := width.natAbs
            precision := (precision.filter (0 ≤ ·)).map Int.toNat }
          match rest.dropWhile (fun c => c = 'l' ∨ c = 'h') with
          | [] => ([], some (.conversion count))
          | kind :: rest =>
            if !"csdiouxXeEfFgG".toList.contains kind then ([], some (.conversion count))
            else
              match args with
              | [] => ([], some .tooFew)
              | v :: args =>
                let piece : Text :=
                  if kind = 's' then
                    c.textField (match v with
                      | .unset => []
                      | .number x => numberText numbers x fuel
                      | .text s => s
                      | .input s => s)
                  else if kind = 'c' then
                    let one (s : Text) : Text := c.pad false [] [s.headD '\x00']
                    match v with
                    | .unset => one []
                    | .text s => one s
                    | .number x => one [Char.ofNat ((wholePart x) % 256).toNat]
                    | .input s =>
                      if looksNumeric s then one [Char.ofNat ((wholePart (leadingNumber s)) % 256).toNat]
                      else one s
                  else if kind = 'd' ∨ kind = 'i' then signedField c v.toNumber
                  else if "ouxX".toList.contains kind then unsignedField c kind v.toNumber
                  else c.realField kind (exactValue v.toNumber)
                let (more, problem) := formatted numbers rest fuel (count + 1) args
                (piece ++ more, problem)
    | c :: rest =>
      let (more, problem) := formatted numbers rest fuel count args
      (c :: more, problem)

end

/-- The text of a value, where numbers that are not whole are written as a format says. -/
def Value.toText (format : Text) : Value → Text
  | unset => []
  | number x => numberText format x (format.length + 4)
  | text s => s
  | input s => s

/-! ## Order -/

def textOrder : Text → Text → Ordering
  | [], [] => .eq
  | [], _ :: _ => .lt
  | _ :: _, [] => .gt
  | a :: as, b :: bs => if a < b then .lt else if b < a then .gt else textOrder as bs

/-- Numbers are compared as numbers, everything else as texts. -/
def Relation.holds (r : Relation) (format : Text) (a b : Value) : Bool :=
  let byNumber := match a, b with
    | .unset, .text _ => false
    | .text _, .unset => false
    | a, b => a.isNumeric && b.isNumeric
  if byNumber then
    let x := a.toNumber
    let y := b.toNumber
    match r with
    | .less => x < y
    | .lessOrEqual => x ≤ y
    | .equal => x == y
    | .notEqual => x != y
    | .greater => y < x
    | .greaterOrEqual => y ≤ x
  else
    let o := textOrder (a.toText format) (b.toText format)
    match r with
    | .less => o = .lt
    | .lessOrEqual => o ≠ .gt
    | .equal => o = .eq
    | .notEqual => o ≠ .eq
    | .greater => o = .gt
    | .greaterOrEqual => o ≠ .lt

def Operator.apply : Operator → Float → Float → Float
  | .add, x, y => x + y
  | .subtract, x, y => x - y
  | .multiply, x, y => x * y
  | .divide, x, y => x / y
  | .remainder, x, y => remainderOf x y
  | .power, x, y => x.pow y

end Slipway.Records
