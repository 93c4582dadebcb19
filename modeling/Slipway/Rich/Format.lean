import Slipway.Calendar.Format
import Slipway.Rich.Escapes
import Slipway.Shell.Format

/-!
# Formatted output of rich scripts

Conversions that are filled from arguments, with quoted arguments and points in time among them.
-/

namespace Slipway.Rich

open Shell (Text Conversion)

/-- What formatting came to. -/
structure Formatted where
  now : Int
  /-- The latest piece first. -/
  out : List Text := []
  args : List Text
  /-- What is wrong with arguments, the latest first. -/
  problems : List String := []
  /-- Why the format cannot be carried out. -/
  failure : Option String := none
  ended : Bool := false
  used : Bool := false

namespace Formatted

def add (f : Formatted) (text : Text) : Formatted := { f with out := text :: f.out }

def next (f : Formatted) : Option Text × Formatted :=
  match f.args with
  | [] => (none, f)
  | arg :: rest => (some arg, { f with args := rest, used := true })

def complain (f : Formatted) (problem : String) : Formatted :=
  { f with problems := problem :: f.problems }

/-- The next argument as a number; a quote stands for the code of the character behind it. -/
def nextNumber {α : Type} (f : Formatted) (zero : α) (ofCode : Nat → α)
    (read : Text → Option (α × Bool × Text)) : α × Formatted :=
  let code (rest : Text) : Nat := ((Characters.decode rest).head?.map Char.toNat).getD 0
  match f.next with
  | (none, f) => (zero, f)
  | (some [], f) => (zero, f)
  | (some ('\'' :: rest), f) => (ofCode (code rest), f)
  | (some ('"' :: rest), f) => (ofCode (code rest), f)
  | (some arg, f) =>
    let invalid := Text.toString arg ++ ": invalid number"
    match read arg with
    | some (n, outOfRange, []) =>
      (n, if outOfRange then f.complain ("warning: " ++ Text.toString arg
        ++ ": Numerical result out of range") else f)
    | some (n, _, _) => (n, f.complain invalid)
    | none => (zero, f.complain invalid)

def nextSigned (f : Formatted) : Int × Formatted :=
  f.nextNumber 0 (fun n => (n : Int)) (fun arg =>
    (Shell.readSigned? 0 arg).map (fun (n, rest) => (Shell.clamped n, !Shell.inRange n, rest)))

/-- Negative numbers count down from the end of the range. -/
def nextUnsigned (f : Formatted) : Nat × Formatted :=
  let size : Int := 18446744073709551616
  f.nextNumber 0 id (fun arg =>
    (Shell.readSigned? 0 arg).map (fun (n, rest) =>
      if size ≤ n ∨ n ≤ -size then ((size - 1).toNat, true, rest)
      else ((n % size).toNat, false, rest)))

def nextReal (f : Formatted) : Binary64 × Formatted :=
  f.nextNumber (.finite false 0 0) (fun n => .ofQuotient false n 1) (fun arg =>
    (Binary64.read? arg).map (fun (x, rest) => (x, false, rest)))

/-- A width or precision, which may be asked of the arguments. -/
def readSize (f : Formatted) (text : Text) : Option Int × Formatted × Text :=
  match text with
  | '*' :: rest =>
    let (n, f) := f.nextSigned
    (some n, f, rest)
  | _ =>
    let digits := text.takeWhile isDigitChar
    (if digits.isEmpty then none else some (Shell.valueOfDigits 10 digits : Int), f,
      text.drop digits.length)

/-- Flags, width and precision, and what follows them. -/
def readConversion (f : Formatted) (text : Text) : Conversion × Formatted × Text :=
  let flags := text.takeWhile (fun c => "#'-+ 0".toList.contains c)
  let (width, f, rest) := f.readSize (text.drop flags.length)
  let (precision, f, rest) := match rest with
    | '.' :: rest =>
      let (precision, f, rest) := f.readSize rest
      (some (precision.getD 0), f, rest)
    | _ => (none, f, rest)
  let width := width.getD 0
  ({ leftAligned := flags.contains '-' || width < 0
     zeroPadded := flags.contains '0', plus := flags.contains '+', space := flags.contains ' '
     alternative := flags.contains '#', width := width.natAbs
     precision := (precision.filter (0 ≤ ·)).map Int.toNat }, f,
    rest.dropWhile (fun c => "hjlLtz".toList.contains c))

def convert (f : Formatted) (c : Conversion) (kind : Char) (written : Text) : Formatted :=
  match kind with
  | 's' =>
    let (arg, f) := f.next
    f.add (c.textField (arg.getD []))
  | 'b' =>
    let (arg, f) := f.next
    let (text, ended) := unescaped argumentEscapes (arg.getD [])
    { f.add (c.textField text) with ended }
  | 'q' =>
    let (arg, f) := f.next
    f.add (c.textField (quotedArgument (arg.getD [])))
  | 'Q' =>
    let (arg, f) := f.next
    f.add (c.pad false [] (quotedArgument ((arg.getD []).take (c.precision.getD (arg.getD []).length))))
  | 'c' =>
    let (arg, f) := f.next
    f.add (c.pad false [] ((arg.getD []).take 1))
  | 'n' => f.next.2
  | _ =>
    if kind = 'd' ∨ kind = 'i' then
      let (n, f) := f.nextSigned
      f.add (c.signedField n)
    else if "ouxX".toList.contains kind then
      let (n, f) := f.nextUnsigned
      f.add (c.unsignedField kind n)
    else if "aAeEfFgG".toList.contains kind then
      let (x, f) := f.nextReal
      f.add (c.realField kind x)
    else
      { f with
        failure := some ("\x60" ++ Text.toString (written.take 0 ++ [kind])
          ++ "': invalid format character")
        ended := true }

/-- Writes a point in time that an argument names, in the format in brackets. -/
def convertTime (f : Formatted) (c : Conversion) (format : Text) : Formatted :=
  let (n, f) := match f.args with
    | [] => (f.now, f)
    | _ =>
      let (n, f) := f.nextSigned
      (if n < 0 then f.now else n, f)
  let format := if format.isEmpty then "%X".toList else format
  f.add (c.textField (Text.ofString (String.ofList ((Moment.ofSeconds n).format 0 format))))

/-- Writes a format once. -/
def once : (fuel : Nat) → Formatted → Text → Formatted
  | 0, f, _ => f
  | _, f, [] => f
  | fuel + 1, f, '\\' :: rest =>
    let (found, rest, _) := readEscape formatEscapes rest
    once fuel (f.add found) rest
  | fuel + 1, f, '%' :: '%' :: rest => once fuel (f.add ['%']) rest
  | fuel + 1, f, '%' :: rest =>
    let (c, f, behind) := f.readConversion rest
    match behind with
    | [] =>
      { f with
        failure := some ("\x60" ++ Text.toString ('%' :: rest) ++ "': missing format character")
        ended := true }
    | '(' :: inner =>
      let format := inner.takeWhile (· ≠ ')')
      match inner.drop (format.length + 1) with
      | 'T' :: behind => once fuel (f.convertTime c format) behind
      | _ => { f with failure := some "warning: \x60(': invalid time format specification", ended := true }
    | kind :: behind' =>
      let f := f.convert c kind (rest.take (rest.length - behind.length))
      if f.ended then f else once fuel f behind'
  | fuel + 1, f, c :: rest => once fuel (f.add [c]) rest

/-- Writes a format again and again until no argument is left. -/
def all (format : Text) : (fuel : Nat) → Formatted → Formatted
  | 0, f => f
  | fuel + 1, f =>
    let f := once (format.length + 1) { f with used := false } format
    if f.ended || f.args.isEmpty || !f.used then f else all format fuel f

def text (f : Formatted) : Text := f.out.reverse.flatten

end Formatted

/-- What `printf` does with a format and arguments at a point in time. -/
def format (now : Int) (template : Text) (args : List Text) : Formatted :=
  Formatted.all template (args.length + 1) { now, args }

end Slipway.Rich
