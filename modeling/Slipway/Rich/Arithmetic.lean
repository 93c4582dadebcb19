import Slipway.Rich.Store

/-!
# Arithmetic of rich scripts

Expressions on numbers with assignments, counting up and down, powers and numbers to any base.
The value of a variable is an expression itself. Parts that do not count are read only.
-/

namespace Slipway.Rich

open Shell (Text Eval self wrapped isNameStart isNameChar)

namespace Arithmetic

/-! ## Tokens -/

inductive Token
  | number (n : Int)
  | name (name : Text) (subscript : Option Text)
  | symbol (symbol : String)
  | ended
  deriving DecidableEq

/-- What was read of an expression. -/
structure Reading where
  whole : Text
  token : Token := .ended
  /-- The text from the token on, and behind it. -/
  start : Text := []
  rest : Text
  /-- The variable that the token in front was. -/
  before : Option (Text × Option Text) := none

abbrev Reader (α : Type) := StateT Reading Eval α

def isBlank (c : Char) : Bool := c = ' ' || c = '\t' || c = '\n'

/-- Refuses the expression, and names the text at which it went wrong. -/
def refuseText {α : Type} (whole token : Text) (message : String) : Eval α :=
  fail (Text.toString (whole.dropWhile isBlank) ++ ": " ++ message ++ " (error token is \""
    ++ Text.toString token ++ "\")")

def refuse {α : Type} (message : String) : Reader α := do
  let r ← get
  refuseText r.whole r.start message

def longSymbols : List String :=
  ["<<=", ">>=", "**", "==", "!=", "<=", ">=", "<<", ">>", "&&", "||", "+=", "-=", "*=", "/=",
    "%=", "&=", "|=", "^="]

/-- The value of a character as a digit; letters count on behind the digits. -/
def digitValue? (base : Nat) (c : Char) : Option Nat :=
  if c.isDigit then some (c.toNat - '0'.toNat)
  else if c.isLower then some (c.toNat - 'a'.toNat + 10)
  else if c.isUpper then some (c.toNat - 'A'.toNat + (if base ≤ 36 then 10 else 36))
  else if c = '@' then some 62
  else if c = '_' then some 63
  else none

/-- The number that digits to a base write, unless one of them is too great. -/
def numberOf? (base : Nat) (digits : Text) : Option Nat :=
  digits.foldlM (fun n c =>
    match digitValue? base c with
    | some value => if value < base then some (n * base + value) else none
    | none => none) 0

/-- The number that a text writes, or what is wrong with it. -/
def readNumber (text : Text) : Except String Int :=
  let inBase (base : Nat) (digits : Text) : Except String Int :=
    match numberOf? base digits with
    | some n => .ok (wrapped n)
    | none => .error "value too great for base"
  let marked := text.takeWhile (· ≠ '#')
  if marked.length < text.length then
    match numberOf? 10 marked with
    | some base =>
      if base < 2 ∨ 64 < base then .error "invalid arithmetic base"
      else if marked.length + 1 = text.length then .error "invalid integer constant"
      else inBase base (text.drop (marked.length + 1))
    | none => .error "invalid number"
  else
    match text with
    | '0' :: x :: digits =>
      if x = 'x' ∨ x = 'X' then inBase 16 digits else inBase 8 (x :: digits)
    | digits => inBase 10 digits

/-- What stands in brackets, and what follows them. -/
def splitSubscript : (depth : Nat) → (found : Text) → Text → Option (Text × Text)
  | _, _, [] => none
  | depth, found, c :: rest =>
    if c = ']' then
      match depth with
      | 0 => some (found.reverse, rest)
      | depth + 1 => splitSubscript depth (c :: found) rest
    else splitSubscript (if c = '[' then depth + 1 else depth) (c :: found) rest

/-- Whether two equal signs count a variable up or down: one is in front of them, or comes next. -/
def counts (before : Token) (rest : Text) : Bool :=
  match before with
  | .name _ _ => true
  | .number _ => false
  | _ => ((rest.dropWhile isBlank).head?.map isNameStart).getD false

/-- Goes on to the next token. -/
def advance : Reader Unit := do
  let r ← get
  let before := match r.token with
    | .name name subscript => some (name, subscript)
    | _ => none
  let text := r.rest.dropWhile isBlank
  let take (token : Token) (rest : Text) : Reader Unit :=
    set { r with token, start := text, rest, before }
  match text with
  | [] => set { r with token := .ended, rest := [], before }
  | c :: rest =>
    if isNameStart c then
      let name := text.takeWhile isNameChar
      match text.drop name.length with
      | '[' :: behind =>
        match splitSubscript 0 [] behind with
        | some (subscript, rest) => take (.name name (some subscript)) rest
        | none => refuseText r.whole text "bad array subscript"
      | rest => take (.name name none) rest
    else if c.isDigit then
      let number := text.takeWhile (fun c => isNameChar c || c = '#' || c = '@')
      match readNumber number with
      | .ok n => take (.number n) (text.drop number.length)
      | .error message =>
        refuseText (r.whole.take (r.whole.length - (text.length - number.length))) number message
    else
      let isDouble := (c = '+' ∨ c = '-') ∧ rest.head? = some c
      if isDouble ∧ counts r.token (rest.drop 1) then
        take (.symbol (String.ofList [c, c])) (rest.drop 1)
      else
        match longSymbols.find? (fun s => s.toList.isPrefixOf text) with
        | some symbol => take (.symbol symbol) (text.drop symbol.length)
        | none =>
          if "=<>|&!()*/%+-~?:^,".toList.contains c then take (.symbol (String.ofList [c])) rest
          else
            let isBehindValue := match r.token with
              | .number _ => true
              | .name _ _ => true
              | .symbol ")" => true
              | _ => false
            refuseText r.whole text (if isBehindValue then "syntax error: invalid arithmetic operator"
              else "syntax error: operand expected")

/-- Takes the next token if it is this symbol. -/
def accept (symbol : String) : Reader Bool := do
  if (← get).token = .symbol symbol then
    advance
    pure true
  else pure false

/-! ## Operators -/

/-- The strength of an operator between two numbers, the weakest first. -/
def strength? (symbol : String) : Option Nat :=
  [("||", 1), ("&&", 2), ("|", 3), ("^", 4), ("&", 5), ("==", 6), ("!=", 6), ("<", 7), ("<=", 7),
    (">", 7), (">=", 7), ("<<", 8), (">>", 8), ("+", 9), ("-", 9), ("*", 10), ("/", 10),
    ("%", 10)].lookup symbol

/-- The operator that an assignment is made with; none for a plain one. -/
def assignmentOperator? (symbol : String) : Option (Option String) :=
  if symbol = "=" then some none
  else if ["*=", "/=", "%=", "+=", "-=", "<<=", ">>=", "&=", "^=", "|="].contains symbol then
    some (some (String.ofList symbol.toList.dropLast))
  else none

/-- The power of a number, by squaring. -/
def power : (fuel : Nat) → (base : Int) → (exponent : Nat) → Int
  | 0, _, _ => 1
  | fuel + 1, base, n =>
    if n = 0 then 1
    else
      let half := power fuel (wrapped (base * base)) (n / 2)
      if n % 2 = 1 then wrapped (half * base) else half

def operate (counts : Bool) (symbol : String) (a b : Int) : Reader Int := do
  if !counts then return 0
  match symbol with
  | "&&" => pure (Shell.Arithmetic.truth (a ≠ 0 ∧ b ≠ 0))
  | "||" => pure (Shell.Arithmetic.truth (a ≠ 0 ∨ b ≠ 0))
  | symbol =>
    match Shell.Arithmetic.operate? symbol a b with
    | some n => pure n
    | none => refuse "division by 0"

/-! ## Variables -/

/-- Where a value is kept: in a variable, or under a number or key of a list. -/
inductive Slot
  | whole (name : Text)
  | at (name : Text) (index : Nat)
  | key (name key : Text)

def slotText (slot : Slot) : Eval (Option Text) := do
  match slot with
  | .whole name => return (← current? name).bind (·.content.first?)
  | .at name index => do
    let content : Option Content := (← current? name).map (·.content)
    match content with
    | some content => pure (content.toIndexed.lookup index)
    | none => pure none
  | .key name key => do
    let content : Option Content := (← current? name).map (·.content)
    match content with
    | some (.keyed elements) => pure (elements.lookup key)
    | _ => pure none

def setSlot (slot : Slot) (value : Text) : Eval Unit :=
  match slot with
  | .whole name => putText name value
  | .at name index => putAt name index value
  | .key name key => putKey name key value

/-- The place of a number among those of a list; negative ones count from its end. -/
def placeOf (name : Text) (subscript : Text) (n : Int) : Eval Nat := do
  if 0 ≤ n then pure n.toNat
  else
    let elements := ((← current? name).map (·.content.toIndexed)).getD []
    let size : Int := ((elements.getLast?.map (fun e => e.1 + 1)).getD 0 : Nat)
    if 0 ≤ size + n then pure (size + n).toNat
    else
      fail (Text.toString name ++ "[" ++ Text.toString subscript ++ "]: bad array subscript")

/-! ## Expressions -/

mutual

/-- The value of an expression. -/
def evaluateFrom : (fuel : Nat) → (text : Text) → Eval Int
  | 0, text => refuseText text text "expression recursion level exceeded"
  | fuel + 1, text => do
    let read : Reader Int := do
      advance
      if (← get).token = .ended then return 0
      let n ← commas fuel true
      if (← get).token ≠ .ended then refuse "syntax error in expression"
      pure n
    let (n, _) ← read.run { whole := text, rest := text }
    pure n
  termination_by structural fuel => fuel

/-- Where a variable keeps its value. -/
def slotOf : (fuel : Nat) → (name : Text) → (subscript : Option Text) → Eval Slot
  | 0, name, _ => pure (.whole name)
  | fuel + 1, name, subscript => do
    let (name, subscript) ← resolved name subscript
    match subscript with
    | none => pure (.whole name)
    | some subscript =>
      let content : Option Content := (← current? name).map (·.content)
      match content with
      | some (.keyed _) => pure (.key name subscript)
      | _ => do
        let n ← evaluateFrom fuel subscript
        return .at name (← placeOf name subscript n)
  termination_by structural fuel => fuel

/-- The number that a variable stands for. -/
def valueOf : (fuel : Nat) → (name : Text) → (subscript : Option Text) → Eval Int
  | 0, _, _ => pure 0
  | fuel + 1, name, subscript => do
    match ← slotText (← slotOf fuel name subscript) with
    | some [] => pure 0
    | some value => evaluateFrom fuel value
    | none =>
      if (← self).has "nounset" then
        abandon (Text.toString name ++ (match subscript with
          | some subscript => "[" ++ Text.toString subscript ++ "]"
          | none => "") ++ ": unbound variable")
      pure 0
  termination_by structural fuel => fuel

/-- Gives a variable a number. -/
def give : (fuel : Nat) → (name : Text) → (subscript : Option Text) → Int → Eval Unit
  | 0, _, _, _ => pure ()
  | fuel + 1, name, subscript, n => do
    setSlot (← slotOf fuel name subscript) (Shell.textOfInt n)
  termination_by structural fuel => fuel

def commas : (fuel : Nat) → (counts : Bool) → Reader Int
  | 0, _ => refuse "expression recursion level exceeded"
  | fuel + 1, counts => do
    let n ← assignment fuel counts
    if ← accept "," then commas fuel counts else pure n
  termination_by structural fuel => fuel

def assignment : (fuel : Nat) → (counts : Bool) → Reader Int
  | 0, _ => refuse "expression recursion level exceeded"
  | fuel + 1, counts => do
    let left ← choice fuel counts
    let r ← get
    match r.token with
    | .symbol symbol =>
      match assignmentOperator? symbol, r.before with
      | none, _ => pure left
      | some _, none => refuse "attempted assignment to non-variable"
      | some operator, some (name, subscript) => do
        advance
        let right ← assignment fuel counts
        let n ← match operator with
          | none => pure right
          | some symbol => operate counts symbol left right
        if counts then give fuel name subscript n
        modify (fun r => { r with before := none })
        pure n
    | _ => pure left
  termination_by structural fuel => fuel

def choice : (fuel : Nat) → (counts : Bool) → Reader Int
  | 0, _ => refuse "expression recursion level exceeded"
  | fuel + 1, counts => do
    let test ← operators fuel counts 1
    if ← accept "?" then
      let missing := (← get).token
      if missing = .ended ∨ missing = .symbol ":" then refuse "expression expected"
      let yes ← commas fuel (counts && test ≠ 0)
      if (← get).token ≠ .symbol ":" then refuse "\x60:' expected for conditional expression"
      advance
      if (← get).token = .ended then refuse "expression expected"
      let no ← choice fuel (counts && test = 0)
      modify (fun r => { r with before := none })
      pure (if test ≠ 0 then yes else no)
    else pure test
  termination_by structural fuel => fuel

/-- Operators that are at least so strong. -/
def operators : (fuel : Nat) → (counts : Bool) → (least : Nat) → Reader Int
  | 0, _, _ => refuse "expression recursion level exceeded"
  | fuel + 1, counts, least => do
    let left ← powers fuel counts
    operatorsFrom fuel counts least left
  termination_by structural fuel => fuel

def operatorsFrom : (fuel : Nat) → (counts : Bool) → (least : Nat) → (left : Int) → Reader Int
  | 0, _, _, left => pure left
  | fuel + 1, counts, least, left => do
    match (← get).token with
    | .symbol symbol =>
      match strength? symbol with
      | none => pure left
      | some strength =>
        if strength < least then pure left
        else
          advance
          let matters := counts && !(symbol = "&&" && left = 0) && !(symbol = "||" && left ≠ 0)
          let right ← operators fuel matters (strength + 1)
          let n ← operate counts symbol left right
          modify (fun r => { r with before := none })
          operatorsFrom fuel counts least n
    | _ => pure left
  termination_by structural fuel => fuel

def powers : (fuel : Nat) → (counts : Bool) → Reader Int
  | 0, _ => refuse "expression recursion level exceeded"
  | fuel + 1, counts => do
    let base ← primary fuel counts
    if ← accept "**" then
      let exponent ← powers fuel counts
      modify (fun r => { r with before := none })
      if exponent < 0 then refuse "exponent less than 0"
      pure (power 64 base exponent.toNat)
    else pure base
  termination_by structural fuel => fuel

/-- Counts a variable up or down, and gives its number before. -/
def count : (fuel : Nat) → (counts : Bool) → (name : Text) → (subscript : Option Text) →
    (by_ : Int) → Reader Int
  | 0, _, _, _, _ => pure 0
  | fuel + 1, counts, name, subscript, by_ => do
    if !counts then return 0
    let n ← valueOf fuel name subscript
    give fuel name subscript (wrapped (n + by_))
    pure n
  termination_by structural fuel => fuel

/-- A number, a variable, or an expression in brackets, with signs in front. -/
def primary : (fuel : Nat) → (counts : Bool) → Reader Int
  | 0, _ => refuse "expression recursion level exceeded"
  | fuel + 1, counts => do
    let signed (f : Int → Int) : Reader Int := do
      advance
      let n ← primary fuel counts
      modify (fun r => { r with before := none })
      pure (f n)
    let stepped (by_ : Int) : Reader Int := do
      advance
      match (← get).token with
      | .name name subscript => do
        advance
        let n ← count fuel counts name subscript by_
        modify (fun r => { r with before := none })
        pure (wrapped (n + by_))
      | _ => refuse "identifier expected after pre-increment or pre-decrement"
    match (← get).token with
    | .number n => do
      advance
      pure n
    | .name name subscript => do
      advance
      match (← get).token with
      | .symbol "++" => do
        let n ← count fuel counts name subscript 1
        advance
        pure n
      | .symbol "--" => do
        let n ← count fuel counts name subscript (-1)
        advance
        pure n
      | .symbol "=" => pure 0
      | _ => if counts then valueOf fuel name subscript else pure 0
    | .symbol "(" => do
      advance
      let n ← commas fuel counts
      if (← get).token ≠ .symbol ")" then refuse "missing \x60)'"
      advance
      pure n
    | .symbol "+" => signed id
    | .symbol "-" => signed (fun n => wrapped (-n))
    | .symbol "!" => signed (fun n => Shell.Arithmetic.truth (n = 0))
    | .symbol "~" => signed (fun n => -n - 1)
    | .symbol "++" => stepped 1
    | .symbol "--" => stepped (-1)
    | _ => refuse "syntax error: operand expected"
  termination_by structural fuel => fuel

end

/-- More steps than one expression takes. -/
def maxSteps : Nat := 9000

def evaluate (text : Text) : Eval Int := evaluateFrom maxSteps text

/-- Where a name and what stands in brackets behind it keep a value. -/
def slot (name : Text) (subscript : Option Text) : Eval Slot := slotOf maxSteps name subscript

end Arithmetic

end Slipway.Rich
