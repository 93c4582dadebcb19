import Slipway.Shell.Bindings

/-!
# Arithmetic

Expressions on numbers, with variables and assignments to them. Parts that do not count, such as
what stands behind a false condition, are read without being evaluated.
-/

namespace Slipway.Shell

namespace Arithmetic

/-! ## Tokens -/

inductive Token
  | number (n : Int)
  | name (name : Text)
  | symbol (symbol : String)
  /-- A character that stands in no expression. -/
  | bad
  | ended
  deriving DecidableEq

/-- The symbols of more than one character, longer ones first. -/
def longSymbols : List String :=
  ["<<=", ">>=", "==", "!=", "<=", ">=", "<<", ">>", "&&", "||", "+=", "-=", "*=", "/=", "%=", "&=",
    "|=", "^="]

/-- The first token of a text, and what follows it. -/
def nextToken (text : Text) : Token × Text :=
  match text.dropWhile (fun c => c = ' ' || c = '\t' || c = '\n') with
  | [] => (.ended, [])
  | c :: rest =>
    if c.isDigit then
      match readUnsigned? 0 (c :: rest) with
      | some (n, behind) => (.number (clamped n), behind)
      | none => (.bad, rest)
    else if isNameStart c then
      let name := (c :: rest).takeWhile isNameChar
      (.name name, (c :: rest).drop name.length)
    else
      match longSymbols.find? (fun s => s.toList.isPrefixOf (c :: rest)) with
      | some symbol => (.symbol symbol, (c :: rest).drop symbol.length)
      | none =>
        if "=<>|&!()*/%+-~?:^".toList.contains c then (.symbol (String.ofList [c]), rest)
        else (.bad, rest)

/-- What was read of an expression: the token that comes next, and the text behind it. -/
structure Reading where
  whole : Text
  token : Token
  rest : Text

abbrev Reader (α : Type) := StateT Reading Eval α

def advance : Reader Unit :=
  modify fun r =>
    let (token, rest) := nextToken r.rest
    { r with token, rest }

def refuse {α : Type} (message : String) : Reader α := do
  let r ← get
  fail ("arithmetic expression: " ++ message ++ ": \"" ++ r.whole.toString ++ "\"")

/-- Takes the next token if it is this symbol. -/
def accept (symbol : String) : Reader Bool := do
  if (← get).token = .symbol symbol then
    advance
    pure true
  else pure false

/-! ## Operators -/

/-- The strength of an operator between two numbers, the strongest first. -/
def strength? (symbol : String) : Option Nat :=
  [("*", 0), ("/", 0), ("%", 0), ("+", 1), ("-", 1), ("<<", 2), (">>", 2), ("<", 3), ("<=", 3),
    (">", 3), (">=", 3), ("==", 4), ("!=", 4), ("&", 5), ("^", 6), ("|", 7)].lookup symbol

def maxStrength : Nat := 8

/-- The bits of a number, without its sign. -/
def bitsOf (n : Int) : Nat := (n % 18446744073709551616).toNat

def truth (p : Bool) : Int := if p then 1 else 0

/-- The result of an operator, unless it divides by zero. -/
def operate? (symbol : String) (a b : Int) : Option Int :=
  match symbol with
  | "*" => some (wrapped (a * b))
  | "/" => if b = 0 then none else some (wrapped (Int.tdiv a b))
  | "%" => if b = 0 then none else some (Int.tmod a b)
  | "+" => some (wrapped (a + b))
  | "-" => some (wrapped (a - b))
  | "<<" => some (wrapped ((bitsOf a * Nat.pow 2 (bitsOf b % 64) : Nat) : Int))
  | ">>" => some (a / (Nat.pow 2 (bitsOf b % 64) : Nat))
  | "<" => some (truth (a < b))
  | "<=" => some (truth (a ≤ b))
  | ">" => some (truth (b < a))
  | ">=" => some (truth (b ≤ a))
  | "==" => some (truth (a = b))
  | "!=" => some (truth (a ≠ b))
  | "&" => some (wrapped (bitsOf a &&& bitsOf b : Nat))
  | "^" => some (wrapped (bitsOf a ^^^ bitsOf b : Nat))
  | "|" => some (wrapped (bitsOf a ||| bitsOf b : Nat))
  | _ => some b

def operate (symbol : String) (a b : Int) : Reader Int := do
  match operate? symbol a b with
  | some n => pure n
  | none => refuse "division by zero"

/-- The operator that an assignment is made with; none for a plain one. -/
def assignmentOperator? (symbol : String) : Option (Option String) :=
  if symbol = "=" then some none
  else if ["*=", "/=", "%=", "+=", "-=", "<<=", ">>=", "&=", "^=", "|="].contains symbol then
    some (some (String.ofList symbol.toList.dropLast))
  else none

/-! ## Expressions -/

/-- The number that a variable stands for. -/
def valueOf (name : Text) : Eval Int := do
  let value := ((← self).get? name).getD []
  match number? 0 value with
  | some n => pure n
  | none => badNumber value

mutual

/-- A number, a variable, or an expression in brackets, with signs in front. -/
def primary : (fuel : Nat) → (counts : Bool) → Reader Int
  | 0, _ => refuse "expecting primary"
  | fuel + 1, counts => do
    let token := (← get).token
    match token with
    | .number n => do
      advance
      pure n
    | .name name => do
      advance
      if counts then valueOf name else pure 0
    | .symbol "(" => do
      advance
      let n ← assignment fuel counts
      if !(← accept ")") then refuse "expecting ')'"
      pure n
    | .symbol "+" => do
      advance
      primary fuel counts
    | .symbol "-" => do
      advance
      return wrapped (-(← primary fuel counts))
    | .symbol "!" => do
      advance
      return truth ((← primary fuel counts) = 0)
    | .symbol "~" => do
      advance
      return -(← primary fuel counts) - 1
    | _ => refuse "expecting primary"

/-- The operators behind `left` that are stronger than `limit`. -/
def operators : (fuel : Nat) → (counts : Bool) → (limit : Nat) → (left : Int) → Reader Int
  | 0, _, _, left => pure left
  | fuel + 1, counts, limit, left => do
    match (← get).token with
    | .symbol symbol =>
      match strength? symbol with
      | none => pure left
      | some strength =>
        if limit ≤ strength then pure left
        else
          advance
          let right ← primary fuel counts
          let right ← operators fuel counts strength right
          let n ← if counts then operate symbol left right else pure right
          operators fuel counts limit n
    | _ => pure left

def conjunction : (fuel : Nat) → (counts : Bool) → Reader Int
  | 0, _ => refuse "expecting primary"
  | fuel + 1, counts => do
    let first ← primary fuel counts
    let left ← operators fuel counts maxStrength first
    if ← accept "&&" then
      let right ← conjunction fuel (counts && left ≠ 0)
      pure (truth (left ≠ 0 ∧ right ≠ 0))
    else pure left

def disjunction : (fuel : Nat) → (counts : Bool) → Reader Int
  | 0, _ => refuse "expecting primary"
  | fuel + 1, counts => do
    let left ← conjunction fuel counts
    if ← accept "||" then
      let right ← disjunction fuel (counts && left = 0)
      pure (truth (left ≠ 0 ∨ right ≠ 0))
    else pure left

def choice : (fuel : Nat) → (counts : Bool) → Reader Int
  | 0, _ => refuse "expecting primary"
  | fuel + 1, counts => do
    let test ← disjunction fuel counts
    if ← accept "?" then
      let yes ← assignment fuel (counts && test ≠ 0)
      if !(← accept ":") then refuse "expecting ':'"
      let no ← choice fuel (counts && test = 0)
      pure (if test ≠ 0 then yes else no)
    else pure test

def assignment : (fuel : Nat) → (counts : Bool) → Reader Int
  | 0, _ => refuse "expecting primary"
  | fuel + 1, counts => do
    let start ← get
    let assigned : Option (Text × Option String × Text) :=
      match start.token, nextToken start.rest with
      | .name name, (.symbol symbol, rest) =>
        (assignmentOperator? symbol).map (fun operator => (name, operator, rest))
      | _, _ => none
    match assigned with
    | none => choice fuel counts
    | some (name, operator, rest) => do
      set { start with rest }
      advance
      let right ← assignment fuel counts
      if !counts then pure right
      else
        let n ← match operator with
          | none => pure right
          | some symbol => do operate symbol (← valueOf name) right
        assign name (textOfInt n)
        pure n

end

/-- The value of an expression. -/
def evaluate (text : Text) : Eval Int := do
  let (token, rest) := nextToken text
  let read : Reader Int := do
    let n ← assignment (8 * text.length + 16) true
    if (← get).token ≠ .ended then refuse "expecting EOF"
    pure n
  let (n, _) ← read.run { whole := text, token, rest }
  pure n

end Arithmetic

end Slipway.Shell
