import Slipway.Regex.Parser
import Slipway.Shell.Condition
import Slipway.Shell.Format
import Slipway.Tool.Sorting

/-!
# Programs that compute and speak

Texts and numbers on the standard output, and conditions as exit codes.
-/

namespace Slipway.Tool

open Shell

/-! ## echo and printf -/

/-- The escapes of `echo`, up to one that ends all output. -/
def echoEscapes : (fuel : Nat) → Text → Text × Bool
  | 0, text => (text, false)
  | fuel + 1, text =>
    match text with
    | [] => ([], false)
    | '\\' :: c :: rest =>
      let (found, rest, ends) : Text × Text × Bool := match c with
        | 'a' => (['\x07'], rest, false)
        | 'b' => (['\x08'], rest, false)
        | 'c' => ([], rest, true)
        | 'e' => (['\x1b'], rest, false)
        | 'f' => (['\x0c'], rest, false)
        | 'n' => (['\n'], rest, false)
        | 'r' => (['\r'], rest, false)
        | 't' => (['\t'], rest, false)
        | 'v' => (['\x0b'], rest, false)
        | '\\' => (['\\'], rest, false)
        | '0' =>
          let digits := (rest.take 3).takeWhile isOctalDigit
          ([Char.ofNat (valueOfDigits 8 digits % 256)], rest.drop digits.length, false)
        | 'x' =>
          let digits := (rest.take 2).takeWhile isHexChar
          if digits.isEmpty then ("\\x".toList, rest, false)
          else ([Char.ofNat (valueOfDigits 16 digits)], rest.drop digits.length, false)
        | c =>
          let digits := ((c :: rest).take 3).takeWhile isOctalDigit
          if digits.isEmpty then (['\\', c], rest, false)
          else ([Char.ofNat (valueOfDigits 8 digits % 256)], (c :: rest).drop digits.length, false)
      if ends then (found, true)
      else
        let (more, ended) := echoEscapes fuel rest
        (found ++ more, ended)
    | c :: rest =>
      let (more, ended) := echoEscapes fuel rest
      (c :: more, ended)

/-- The options in front: whether the line is left open, and whether escapes count. -/
def echoOptions : (isOpen escapes : Bool) → List Text → Bool × Bool × List Text
  | isOpen, escapes, ('-' :: c :: letters) :: rest =>
    if (c :: letters).all (fun c => c = 'n' ∨ c = 'e' ∨ c = 'E') then
      let (isOpen, escapes) := (c :: letters).foldl (fun (isOpen, escapes) c =>
        if c = 'n' then (true, escapes) else (isOpen, c = 'e')) (isOpen, escapes)
      echoOptions isOpen escapes rest
    else (isOpen, escapes, ('-' :: c :: letters) :: rest)
  | isOpen, escapes, rest => (isOpen, escapes, rest)

def echo (args : List Text) : Eval Nat := do
  let (isOpen, escapes, words) := echoOptions false false args
  let text := List.intercalate [' '] words
  let (text, ended) := if escapes then echoEscapes (text.length + 1) text else (text, false)
  print (if isOpen ∨ ended then text else text ++ ['\n'])
  pure 0

def printf (args : List Text) : Eval Nat := do
  match if args.head? = some ['-', '-'] then args.drop 1 else args with
  | [] => missingOperand
  | template :: args => do
    let f := format template args
    print f.text
    f.problems.reverse.forM fun (arg, problem) =>
      say (match problem with
        | .none => emphasized arg ++ ": expected a numeric value"
        | .partly => emphasized arg ++ ": value not completely converted"
        | .range => emphasized arg ++ ": Numerical result out of range")
    match f.failure with
    | some text => do
      say (text.replace "invalid directive" "invalid conversion specification")
      pure 1
    | none => do
      if !f.args.isEmpty then
        say ("warning: ignoring excess arguments, starting with " ++ emphasized (f.args.headD []))
      pure (if f.problems.isEmpty then 0 else 1)

/-! ## test -/

/-- A condition without the messages of the shell. -/
def testCondition (args : List Text) : Eval Nat := do
  let descriptors := (← self).descriptors
  modifySelf (·.connect 2 none)
  let result ← attempt (condition args)
  modifySelf (fun p => { p with descriptors })
  match result with
  | .ok holds => pure (if holds then 0 else 1)
  | .error .error => do
    let wrong := args.find? (fun arg => (number? 10 arg).isNone)
    let compares := args.any (fun arg => ["-eq", "-ne", "-lt", "-le", "-gt", "-ge"].contains
      (String.ofList arg))
    match args, compares, wrong with
    | _, true, some arg => say ("invalid integer " ++ emphasized arg)
    | [_, operator, _], false, _ => say (emphasized operator ++ ": binary operator expected")
    | _, _, _ => say ("missing argument after " ++ emphasized (args.getLastD []))
    pure 2
  | .error stop => throw stop

def bracket (args : List Text) : Eval Nat := do
  if args.getLast? = some [']'] then testCondition args.dropLast
  else
    say "missing ‘]’"
    pure 2

/-! ## expr -/

/-- Why an expression has no value. -/
inductive ExprError
  | missing (after : Text)
  | unexpected (arg : Text)
  | unclosed (after : Text)
  | noInteger
  | zeroDivision
  | pattern (text : String)

/-- A parser of the arguments. -/
abbrev ExprReader := StateT (List Text × Text) (Except ExprError)

namespace Expr

def int? (text : Text) : Option Int :=
  match text with
  | '-' :: digits => (decimal? digits).map (fun n => -(n : Int))
  | digits => (decimal? digits).map (fun n => (n : Int))

def isNull (text : Text) : Bool := text.isEmpty || int? text = some 0

def integer (text : Text) : ExprReader Int :=
  match int? text with
  | some n => pure n
  | none => throw .noInteger

/-- The next argument is taken if it is one of these. -/
def take? (allowed : List String) : ExprReader (Option String) := do
  match (← get).1 with
  | arg :: rest =>
    if allowed.contains (String.ofList arg) then
      set (rest, arg)
      pure (some (String.ofList arg))
    else pure none
  | [] => pure none

def next : ExprReader Text := do
  match ← get with
  | (arg :: rest, _) => do
    set (rest, arg)
    pure arg
  | ([], before) => throw (.missing before)

/-- What a pattern finds at the start of a text: its first group, or the number of characters. -/
def matchStart (text pattern : Text) : ExprReader Text :=
  match Regex.parse false pattern with
  | .error e => throw (.pattern e)
  | .ok (r, groups) =>
    let found := r.matchAt {} text.toArray 0
    if groups = 0 then pure (naturalText ((found.map (·.1)).getD 0))
    else pure (match found.bind (fun m => m.2.lookup 1) with
      | some (start, stop) => (text.take stop).drop start
      | none => [])

/-- The value of the first operand and those behind it that are joined to it. -/
def chain (operators : List String) (operand : ExprReader Text)
    (apply : String → Text → Text → ExprReader Text) : (fuel : Nat) → Text → ExprReader Text
  | 0, left => pure left
  | fuel + 1, left => do
    match ← take? operators with
    | none => pure left
    | some operator => do
      let right ← operand
      chain operators operand apply fuel (← apply operator left right)

def boolText (b : Bool) : Text := if b then ['1'] else ['0']

def applyOperator (operator : String) (left right : Text) : ExprReader Text := do
  let order (lt eq gt : Bool) : ExprReader Text :=
    let o := match int? left, int? right with
      | some x, some y => compare x y
      | _, _ => compareTexts left right
    pure (boolText (match o with
      | .lt => lt
      | .eq => eq
      | .gt => gt))
  match operator with
  | "|" => pure (if !isNull left then left else if isNull right then ['0'] else right)
  | "&" => pure (if isNull left || isNull right then ['0'] else left)
  | "<" => order true false false
  | "<=" => order true true false
  | "=" => order false true false
  | "==" => order false true false
  | "!=" => order true false true
  | ">=" => order false true true
  | ">" => order false false true
  | ":" => matchStart left right
  | operator => do
    let x ← integer left
    let y ← integer right
    match operator with
    | "+" => pure (textOfInt (x + y))
    | "-" => pure (textOfInt (x - y))
    | "*" => pure (textOfInt (x * y))
    | operator =>
      if y = 0 then throw .zeroDivision
      else pure (textOfInt (if operator = "/" then x.tdiv y else x.tmod y))

/-- An argument, a function or an expression in brackets, with all that is joined to it. -/
def expression : (fuel : Nat) → ExprReader Text
  | 0 => throw (.missing [])
  | fuel + 1 => do
    let simple : ExprReader Text := do
      let arg ← next
      match String.ofList arg with
      | "(" => do
        let value ← expression fuel
        match ← get with
        | ([')'] :: rest, _) => do
          set (rest, [')'])
          pure value
        | (arg :: _, _) => throw (.unclosed arg)
        | ([], before) => throw (.unclosed before)
      | ")" => throw (.unexpected [')'])
      | "+" => next
      | "length" => return naturalText (← simpleArgument fuel).length
      | "match" => do
        let text ← simpleArgument fuel
        matchStart text (← simpleArgument fuel)
      | "index" => do
        let text ← simpleArgument fuel
        let set ← simpleArgument fuel
        pure (naturalText (((text.findIdx? set.contains).map (· + 1)).getD 0))
      | "substr" => do
        let text ← simpleArgument fuel
        let start := int? (← simpleArgument fuel)
        let length := int? (← simpleArgument fuel)
        match start, length with
        | some start, some length =>
          if start ≤ 0 ∨ length ≤ 0 then pure []
          else pure ((text.drop (start.toNat - 1)).take length.toNat)
        | _, _ => pure []
      | _ => pure arg
    let level (operators : List String) (operand : ExprReader Text) : ExprReader Text := do
      chain operators operand applyOperator (fuel + 1) (← operand)
    level ["|"] (level ["&"] (level ["<", "<=", "=", "==", "!=", ">=", ">"]
      (level ["+", "-"] (level ["*", "/", "%"] (level [":"] simple)))))
where
  simpleArgument (fuel : Nat) : ExprReader Text := do
    match (← get).1 with
    | ['('] :: _ => expression fuel
    | _ => next

end Expr

def expr (args : List Text) : Eval Nat := do
  let args := if args.head? = some ['-', '-'] then args.drop 1 else args
  if args.isEmpty then missingOperand 2
  else
    let whole : ExprReader Text := do
      let value ← Expr.expression (args.length + 1)
      match (← get).1 with
      | [] => pure value
      | arg :: _ => throw (.unexpected arg)
    match whole.run' (args, []) with
    | .ok value => do
      printLine value
      pure (if Expr.isNull value then 1 else 0)
    | .error e => do
      say (match e with
        | .missing after => "syntax error: missing argument after " ++ emphasized after
        | .unexpected arg => "syntax error: unexpected argument " ++ emphasized arg
        | .unclosed after => "syntax error: expecting ')' after " ++ emphasized after
        | .noInteger => "non-integer argument"
        | .zeroDivision => "division by zero"
        | .pattern text => text)
      pure 2

/-! ## seq -/

/-- A number with places behind the point: its value times a power of ten, and the places. -/
structure Decimal where
  value : Int
  places : Nat

def Decimal.read? (text : Text) : Option Decimal :=
  let (isNegative, digits) := match text with
    | '-' :: rest => (true, rest)
    | '+' :: rest => (false, rest)
    | rest => (false, rest)
  let signed := fun (n : Nat) => if isNegative then -(n : Int) else (n : Int)
  match digits with
  | '0' :: x :: hex =>
    if (x = 'x' ∨ x = 'X') ∧ !hex.isEmpty ∧ hex.all isHexChar then
      some ⟨signed (valueOfDigits 16 hex), 0⟩
    else plain signed digits
  | _ => plain signed digits
where
  plain (signed : Nat → Int) (digits : Text) : Option Decimal :=
    let whole := digits.takeWhile isDigitChar
    let (fraction, rest) := match digits.drop whole.length with
      | '.' :: more => (more.takeWhile isDigitChar, more.dropWhile isDigitChar)
      | rest => ([], rest)
    let exponent? : Option Int := match rest with
      | [] => some 0
      | e :: more => if e = 'e' ∨ e = 'E' then Expr.int? (more.dropWhile (· = '+')) else none
    if whole.isEmpty ∧ fraction.isEmpty then none
    else
      exponent?.map fun exponent =>
        let n := valueOfDigits 10 (whole ++ fraction)
        let places : Int := fraction.length - exponent
        if places < 0 then ⟨signed (n * Nat.pow 10 places.natAbs), 0⟩
        else ⟨signed n, places.toNat⟩

/-- The value when it is counted in so many places. -/
def Decimal.scaled (d : Decimal) (places : Nat) : Int := d.value * (Nat.pow 10 (places - d.places) : Nat)

/-- A number in so many places. -/
def placesText (places : Nat) (n : Int) : Text :=
  let digits := naturalText n.natAbs
  let digits := List.replicate (places + 1 - digits.length) '0' ++ digits
  let whole := digits.take (digits.length - places)
  (if n < 0 then ['-'] else []) ++ whole
    ++ if places = 0 then [] else '.' :: digits.drop whole.length

/-- The values from the first to the last. -/
def sequence (last step : Int) : (fuel : Nat) → (n : Int) → List Int
  | 0, _ => []
  | fuel + 1, n =>
    if (0 < step ∧ last < n) ∨ (step < 0 ∧ n < last) then []
    else n :: sequence last step fuel (n + step)

/-- What a format lacks. -/
def formatProblem? (text : Text) : Option String :=
  let shownFormat := "format " ++ emphasized text ++ " has "
  let rec go : (fuel : Nat) → (count : Nat) → Text → Option String
    | 0, _, _ => none
    | fuel + 1, count, text =>
      match text with
      | [] => if count = 0 then some (shownFormat ++ "no % directive")
          else if 1 < count then some (shownFormat ++ "too many % directives") else none
      | '%' :: '%' :: rest => go fuel count rest
      | '%' :: rest =>
        match rest.dropWhile (fun c => isDigitChar c || "-+#0 '.".toList.contains c) with
        | [] => some (shownFormat ++ "no % directive")
        | c :: rest =>
          if "efgaEFGA".toList.contains c then go fuel (count + 1) rest
          else some (shownFormat ++ "unknown %" ++ Text.toString [c] ++ " directive")
      | _ :: rest => go fuel count rest
  go (text.length + 1) 0 text

/-- Numbers that look like options are none. -/
def isNegativeNumber (arg : Text) : Bool :=
  match arg with
  | '-' :: c :: _ => isDigitChar c || c = '.'
  | _ => false

def seq (args : List Text) : Eval Nat :=
  let start := args.takeWhile (fun arg => arg.head? = some '-' ∧ !isNegativeNumber arg)
  let valued := fun (arg : Text) => ["-s", "-f", "--separator", "--format"].contains (String.ofList arg)
  let count := if (start.getLast?.map valued).getD false then start.length + 1 else start.length
  let more := ((args.drop count).takeWhile (fun arg => arg.head? = some '-' ∧ !isNegativeNumber arg)).length
  let more := if more = 0 then 0
    else if (((args.drop count).take more).getLast?.map valued).getD false then more + 1 else more
  withArguments [flag 'w' "equal-width", setting 's' "separator", setting 'f' "format"]
    (args.take (count + more)) fun a => do
    let operands := a.operands ++ args.drop (count + more)
    let numbers := operands.map (fun arg => (arg, Decimal.read? arg))
    match operands.length, numbers.find? (·.2.isNone) with
    | 0, _ => missingOperand
    | n, wrong =>
      if 3 < n then extraOperand (operands.getD 3 [])
      else
        match wrong with
        | some (arg, _) => misuse ("invalid floating point argument: " ++ emphasized arg)
        | none => run a (numbers.filterMap (·.2)) operands
where
  run (a : Arguments) (numbers : List Decimal) (operands : List Text) : Eval Nat := do
    let one : Decimal := ⟨1, 0⟩
    let (first, step, last) := match numbers with
      | [last] => (one, one, last)
      | [first, last] => (first, one, last)
      | [first, step, last] => (first, step, last)
      | _ => (one, one, one)
    if step.value = 0 then
      return ← misuse ("invalid Zero increment value: " ++ emphasized (operands.getD 1 []))
    if let some template := a.value? "format" then
      if let some text := formatProblem? template then
        say text
        return 1
    let places := max first.places step.places
    let all := max places last.places
    let factor : Int := (Nat.pow 10 (all - places) : Nat)
    let values := (sequence (last.scaled all) (step.scaled all) 1000000 (first.scaled all)).map
      (· / factor)
    let texts := match a.value? "format" with
      | some template => values.map fun n => (format template [placesText places n]).text
      | none =>
        let texts := values.map (placesText places)
        if !a.has "equal-width" then texts
        else
          let ends := [first.scaled all / factor, last.scaled all / factor].map (placesText places)
          let width := ((texts ++ ends).map List.length).foldl max 0
          texts.map fun text => match text with
            | '-' :: rest => '-' :: List.replicate (width - text.length) '0' ++ rest
            | text => List.replicate (width - text.length) '0' ++ text
    let separator := (a.value? "separator").getD ['\n']
    if !texts.isEmpty then printLine (List.intercalate separator texts)
    pure 0

end Slipway.Tool
