import Slipway.Shell.Number
import Slipway.Text.Binary64

/-!
# Formatted output

What `printf` and `echo` write: escapes, and conversions that are filled from arguments.
-/

namespace Slipway.Shell

/-! ## Escapes -/

def simpleEscape? : Char → Option Char
  | 'a' => some '\x07'
  | 'b' => some '\x08'
  | 'e' => some '\x1b'
  | 'f' => some '\x0c'
  | 'n' => some '\n'
  | 'r' => some '\r'
  | 't' => some '\t'
  | 'v' => some '\x0b'
  | '\\' => some '\\'
  | _ => none

/-- The character of up to three octal digits, and what follows them. -/
def readOctal (text : Text) : Char × Text :=
  let digits := (text.take 3).takeWhile isOctalDigit
  (Char.ofNat (valueOfDigits 8 digits % 256), text.drop digits.length)

/-- The characters for what stands behind a backslash, and what follows it. -/
def readEscape (text : Text) : Text × Text :=
  match text with
  | [] => (['\\'], [])
  | c :: rest =>
    match simpleEscape? c with
    | some d => ([d], rest)
    | none =>
      if isOctalDigit c then
        let (d, rest) := readOctal text
        ([d], rest)
      else (['\\'], text)

/-- The text with its escapes replaced, and whether `\c` ended it. An octal number may start with a
zero that does not count as one of its digits. -/
def unescape : (fuel : Nat) → Text → Text × Bool
  | 0, _ => ([], false)
  | _, [] => ([], false)
  | _, '\\' :: 'c' :: _ => ([], true)
  | fuel + 1, '\\' :: rest =>
    let (found, rest) := match rest with
      | '0' :: c :: more => if isOctalDigit c then readEscape (c :: more) else readEscape rest
      | _ => readEscape rest
    let (more, ended) := unescape fuel rest
    (found ++ more, ended)
  | fuel + 1, c :: rest =>
    let (more, ended) := unescape fuel rest
    (c :: more, ended)

def unescaped (text : Text) : Text × Bool := unescape (text.length + 1) text

/-- What `echo` writes. -/
def echoText (args : List Text) : Text :=
  let (newline, args) := match args with
    | ['-', 'n'] :: rest => (false, rest)
    | _ => (true, args)
  let (out, ended) := unescaped (List.intercalate [' '] args)
  if newline && !ended then out ++ ['\n'] else out

/-! ## Conversions -/

structure Conversion where
  leftAligned : Bool := false
  zeroPadded : Bool := false
  plus : Bool := false
  space : Bool := false
  alternative : Bool := false
  width : Nat := 0
  precision : Option Nat := none

namespace Conversion

/-- Fills up the width, with zeros behind the sign if they are wanted. -/
def pad (c : Conversion) (zeros : Bool) (sign body : Text) : Text :=
  let missing := c.width - (sign.length + body.length)
  if c.leftAligned then sign ++ body ++ List.replicate missing ' '
  else if zeros then sign ++ List.replicate missing '0' ++ body
  else List.replicate missing ' ' ++ sign ++ body

def textField (c : Conversion) (text : Text) : Text :=
  c.pad false [] (match c.precision with
    | some n => text.take n
    | none => text)

def sign (c : Conversion) (negative : Bool) : Text :=
  if negative then ['-'] else if c.plus then ['+'] else if c.space then [' '] else []

/-- A whole number; its precision is the least number of digits. -/
def wholeField (c : Conversion) (sign mark digits : Text) : Text :=
  let digits := if c.precision = some 0 ∧ digits = ['0'] then [] else digits
  let digits := List.replicate (c.precision.getD 1 - digits.length) '0' ++ digits
  c.pad (c.zeroPadded && c.precision.isNone) (sign ++ mark) digits

def signedField (c : Conversion) (n : Int) : Text :=
  c.wholeField (c.sign (n < 0)) [] (Nat.toDigits 10 n.natAbs)

def unsignedField (c : Conversion) (kind : Char) (n : Nat) : Text :=
  let marked := c.alternative && n ≠ 0
  match kind with
  | 'o' =>
    let digits := Nat.toDigits 8 n
    c.wholeField [] [] (if marked then '0' :: digits else digits)
  | 'x' => c.wholeField [] (if marked then "0x".toList else []) (Nat.toDigits 16 n)
  | 'X' =>
    c.wholeField [] (if marked then "0X".toList else []) ((Nat.toDigits 16 n).map Char.toUpper)
  | _ => c.wholeField [] [] (Nat.toDigits 10 n)

def realField (c : Conversion) (kind : Char) (x : Binary64) : Text :=
  let places := c.precision.getD 6
  let body := match x with
    | .infinite _ => "inf".toList
    | .nan _ => "nan".toList
    | x =>
      match kind.toLower with
      | 'e' => x.powerText places c.alternative
      | 'f' => x.fixedText places c.alternative
      | 'g' => x.shortText places c.alternative
      | _ => x.hexText c.precision c.alternative
  let isFinite := match x with
    | .finite _ _ _ => true
    | _ => false
  let body := if kind.isUpper then body.map Char.toUpper else body
  c.pad (c.zeroPadded && isFinite) (c.sign x.isNegative) body

end Conversion

/-! ## Formatting -/

/-- What is wrong with an argument that should be a number. -/
inductive NumberProblem
  | none
  | partly
  | range

/-- What formatting came to. -/
structure Formatted where
  /-- The latest piece first. -/
  out : List Text := []
  args : List Text
  /-- Arguments that were no good numbers, the latest first. -/
  problems : List (Text × NumberProblem) := []
  /-- Why the format cannot be carried out. -/
  failure : Option String := none
  ended : Bool := false
  used : Bool := false

namespace Formatted

def add (f : Formatted) (text : Text) : Formatted := { f with out := text :: f.out }

/-- Takes the next argument, if one is left. -/
def next (f : Formatted) : Option Text × Formatted :=
  match f.args with
  | [] => (none, f)
  | arg :: rest => (some arg, { f with args := rest, used := true })

/-- Notes what is wrong with an argument behind whose number something follows. -/
def check (f : Formatted) (arg rest : Text) (outOfRange : Bool) : Formatted :=
  if !rest.isEmpty then
    { f with problems := (arg, if rest = arg then .none else .partly) :: f.problems }
  else if outOfRange then { f with problems := (arg, .range) :: f.problems }
  else f

/-- The next argument as a number that `read` finds; a quote stands for the code of the character
behind it. -/
def nextNumber {α : Type} (f : Formatted) (zero : α) (ofCode : Nat → α)
    (read : Text → Option (α × Bool × Text)) : α × Formatted :=
  match f.next with
  | (none, f) => (zero, f)
  | (some ('\'' :: rest), f) => (ofCode ((rest.head?.map Char.toNat).getD 0), f)
  | (some ('"' :: rest), f) => (ofCode ((rest.head?.map Char.toNat).getD 0), f)
  | (some arg, f) =>
    match read arg with
    | some (n, outOfRange, rest) => (n, f.check arg rest outOfRange)
    | none => (zero, f.check arg arg false)

def nextSigned (f : Formatted) : Int × Formatted :=
  f.nextNumber 0 (fun n => (n : Int)) (fun arg =>
    (readSigned? 0 arg).map (fun (n, rest) => (clamped n, !inRange n, rest)))

/-- Negative numbers count down from the end of the range. -/
def nextUnsigned (f : Formatted) : Nat × Formatted :=
  let size : Int := 18446744073709551616
  f.nextNumber 0 id (fun arg =>
    (readSigned? 0 arg).map (fun (n, rest) =>
      if size ≤ n ∨ n ≤ -size then ((size - 1).toNat, true, rest) else ((n % size).toNat, false, rest)))

def nextReal (f : Formatted) : Binary64 × Formatted :=
  f.nextNumber (.finite false 0 0) (fun n => .ofQuotient false n 1) (fun arg =>
    (Binary64.read? arg).map (fun (x, rest) => (x, false, rest)))

/-- A width or precision, which may be asked of the arguments. -/
def readSize (f : Formatted) (text : Text) : Option Int × Formatted × Text :=
  match text with
  | '*' :: rest =>
    let (n, f) := f.nextSigned
    (some n, f, rest)
  | _ =>
    let digits := text.takeWhile isDigitChar
    (if digits.isEmpty then none else some (valueOfDigits 10 digits), f, text.drop digits.length)

/-- Flags, width and precision, and what follows them. -/
def readConversion (f : Formatted) (text : Text) : Conversion × Formatted × Text :=
  let flags := text.takeWhile (fun c => "#-+ 0".toList.contains c)
  let (width, f, rest) := f.readSize (text.drop flags.length)
  let (precision, f, rest) := match rest with
    | '.' :: rest =>
      let (precision, f, rest) := f.readSize rest
      (some (precision.getD 0), f, rest)
    | _ => (none, f, rest)
  let width := width.getD 0
  ({ leftAligned := flags.contains '-' || width < 0
     zeroPadded := flags.contains '0', plus := flags.contains '+', space := flags.contains ' '
     alternative := flags.contains '#', width := width.natAbs
     precision := (precision.filter (0 ≤ ·)).map Int.toNat }, f, rest)

def convert (f : Formatted) (c : Conversion) (kind : Char) (written : Text) : Formatted :=
  match kind with
  | 's' =>
    let (arg, f) := f.next
    f.add (c.textField (arg.getD []))
  | 'b' =>
    let (arg, f) := f.next
    let (text, ended) := unescaped (arg.getD [])
    { f.add (c.textField text) with ended }
  | 'c' =>
    let (arg, f) := f.next
    f.add (c.pad false [] [(arg.bind List.head?).getD '\x00'])
  | _ =>
    if kind = 'd' ∨ kind = 'i' then
      let (n, f) := f.nextSigned
      f.add (c.signedField n)
    else if "ouxX".toList.contains kind then
      let (n, f) := f.nextUnsigned
      f.add (c.unsignedField kind n)
    else if "aAeEfFgG".toList.contains kind then
      let (x, f) := f.nextReal
      f.add (c.realField kind x)
    else
      { f with
        failure := some (String.ofList ('%' :: written ++ [kind]) ++ ": invalid directive")
        ended := true }

/-- Writes a format once. -/
def once : (fuel : Nat) → Formatted → Text → Formatted
  | 0, f, _ => f
  | _, f, [] => f
  | fuel + 1, f, '\\' :: rest =>
    let (found, rest) := readEscape rest
    once fuel (f.add found) rest
  | fuel + 1, f, '%' :: '%' :: rest => once fuel (f.add ['%']) rest
  | fuel + 1, f, '%' :: rest =>
    let (c, f, behind) := f.readConversion rest
    match behind with
    | [] => { f with failure := some "missing format character", ended := true }
    | kind :: behind' =>
      let f := f.convert c kind (rest.take (rest.length - behind.length))
      if f.ended then f else once fuel f behind'
  | fuel + 1, f, c :: rest => once fuel (f.add [c]) rest

/-- Writes a format again and again until no argument is left. -/
def all (format : Text) : (fuel : Nat) → Formatted → Formatted
  | 0, f => f
  | fuel + 1, f =>
    let f := once (format.length + 1) { f with used := false } format
    if f.ended || f.args.isEmpty || !f.used then f else all format fuel f

def text (f : Formatted) : Text := f.out.reverse.flatten

end Formatted

/-- What `printf` does with a format and arguments. -/
def format (format : Text) (args : List Text) : Formatted :=
  Formatted.all format (args.length + 1) { args }

end Slipway.Shell
