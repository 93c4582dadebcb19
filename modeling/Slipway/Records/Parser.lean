import Slipway.Records.Tokens

/-!
# Reading programs over records

Programs are read by descent, one function for each rank of operators. Names get their slots as
they are met; what a name stands for is settled by its first use.
-/

namespace Slipway.Records

open Shell (Text)

/-- Why a program cannot be read. -/
structure Refusal where
  line : Nat
  message : String
  /-- The line is given without a word before it. -/
  isPlain : Bool := false

/-- What a shared name stands for, as far as that is known. -/
inductive Meaning
  | open
  | value
  | table
  deriving DecidableEq

structure Symbol where
  name : Text
  index : Nat
  meaning : Meaning := .open

/-- A bare name that is passed to a function. -/
structure Passed where
  own : Nat
  function : Nat
  position : Nat

structure Reader where
  rest : List Lexeme
  symbols : List Symbol := []
  functions : Array Function := #[]
  /-- The parameters of the function that is read. -/
  params : Option (List Text) := none
  /-- Those of them that are used as tables. -/
  tables : List Nat := []
  passed : List Passed := []
  /-- For each function the parameters that are tables, and those that are passed on. -/
  uses : List (Nat × List Nat × List Passed) := []
  /-- The calls: function, number of arguments and line. -/
  calls : List (Nat × Nat × Nat) := []
  loops : Nat := 0
  inRule : Bool := false
  ranges : Nat := 0

abbrev Parse (α : Type) := StateT Reader (Except Refusal) α

namespace Parse

def refuseAt {α : Type} (line : Nat) (message : String) : Parse α :=
  throw { line, message }

/-- The next token. -/
def peek : Parse Token := return ((← get).rest.head?.map (·.token)).getD .stop

/-- The token behind the next one. -/
def peekSecond : Parse Token := return (((← get).rest.drop 1).head?.map (·.token)).getD .stop

def line : Parse Nat := return ((← get).rest.head?.map (·.line)).getD 1

def skip : Parse Unit := modify (fun r => { r with rest := r.rest.drop 1 })

/-- How the next token is named in a message. -/
def shownNext : Parse String := do
  match (← get).rest.head? with
  | some l => pure (if l.isImplied then "\x7d" else l.token.shown)
  | none => pure ""

/-- The program cannot go on with the next token. -/
def unexpected {α : Type} : Parse α := do
  let at_ ← line
  match ← peek with
  | .wrong message isPlain => throw { line := at_, message, isPlain }
  | .stop => refuseAt at_ "missing \x7d near end of file"
  | _ => refuseAt at_ ("syntax error at or near " ++ (← shownNext))

def isSign (s : String) : Parse Bool := do
  match ← peek with
  | .sign t => pure (s = t)
  | _ => pure false

def isWord (s : String) : Parse Bool := do
  match ← peek with
  | .keyword t => pure (s = t)
  | _ => pure false

/-- Takes a sign if it comes next. -/
def takeSign (s : String) : Parse Bool := do
  if ← isSign s then
    skip
    pure true
  else pure false

def expect (s : String) : Parse Unit := do
  if !(← takeSign s) then unexpected

/-- A parenthesis has to be closed here. -/
def closeParen : Parse Unit := do
  if ← takeSign ")" then pure ()
  else
    match ← peek with
    | .wrong _ _ => unexpected
    | .stop => unexpected
    | _ => refuseAt (← line) ("missing ) near " ++ (← shownNext))

def isBreak : Parse Bool := do
  match ← peek with
  | .newline => pure true
  | _ => pure false

def skipBreaks : (fuel : Nat) → Parse Unit
  | 0 => pure ()
  | fuel + 1 => do
    if ← isBreak then
      skip
      skipBreaks fuel

def endStatement : Parse Unit := do
  if ← isBreak then skip
  else if ← isSign ";" then skip
  else
    match ← peek with
    | .stop => pure ()
    | _ => unexpected

/-! ## Names -/

def positionOf (name : Text) (names : List Text) : Option Nat := names.findIdx? (· = name)

def slotOf (name : Text) : Parse Slot := do
  let r ← get
  match r.params.bind (positionOf name) with
  | some i => pure (.own i)
  | none =>
    match r.symbols.find? (·.name = name) with
    | some s => pure (.shared s.index)
    | none => do
      let index := r.symbols.length
      set { r with symbols := { name, index } :: r.symbols }
      pure (.shared index)

/-- Settles what a name stands for. -/
def settle (place : Slot) (meaning : Meaning) : Parse Unit := do
  let r ← get
  match place with
  | .own i => if meaning = .table then set { r with tables := i :: r.tables }
  | .shared i =>
    match r.symbols.find? (·.index = i) with
    | none => pure ()
    | some s =>
      if s.meaning = .open then
        let symbols := r.symbols.map fun (t : Symbol) =>
          if t.index = i then { t with meaning } else t
        set { r with symbols }
      else if s.meaning ≠ meaning then
        let kind := if s.meaning = .table then "array " else "variable "
        refuseAt (← line) ("illegal reference to " ++ kind ++ Text.toString s.name)

/-- The number of a function. -/
def functionOf (name : Text) : Parse Nat := do
  let r ← get
  match r.functions.findIdx? (·.name = name) with
  | some i => pure i
  | none => do
    if r.symbols.any (·.name = name) then
      refuseAt (← line) ("illegal reference to variable " ++ Text.toString name)
    set { r with functions := r.functions.push { name } }
    pure r.functions.size

end Parse

open Parse

/-! ## Expressions -/

def assignSigns : List (String × Option Operator) := [
  ("=", none), ("+=", some .add), ("-=", some .subtract), ("*=", some .multiply),
  ("/=", some .divide), ("%=", some .remainder), ("^=", some .power)]

def relationSigns : List (String × Relation) := [
  ("<", .less), ("<=", .lessOrEqual), ("==", .equal), ("!=", .notEqual), (">", .greater),
  (">=", .greaterOrEqual)]

/-- Whether a value can be put there. -/
def Expr.isTarget : Expr → Bool
  | slot _ => true
  | element _ _ => true
  | field _ => true
  | _ => false

/-- Whether an operand begins with the token, so that it is joined to what stands before it. -/
def Token.startsOperand : Token → Bool
  | number _ => true
  | text _ => true
  | pattern _ => true
  | name _ => true
  | called _ => true
  | builtin _ _ => true
  | sign s => ["$", "!", "(", "-", "+", "++", "--"].contains s
  | _ => false

/-- How many arguments a function of the language takes. -/
def Builtin.arity : Builtin → Nat × Nat
  | .index => (2, 2)
  | .substr => (2, 3)
  | .length => (0, 1)
  | .split => (2, 3)
  | .search => (2, 2)
  | .sub => (2, 3)
  | .gsub => (2, 3)
  | .sprintf => (1, 1000)
  | .atan2 => (2, 2)
  | .rand => (0, 0)
  | .srand => (0, 1)
  | .fflush => (0, 1)
  | .strftime => (0, 3)
  | .systime => (0, 0)
  | _ => (1, 1)

def compiled (source : Text) : Parse Pattern := do
  match Pattern.read source with
  | .ok p => pure p
  | .error e =>
    refuseAt (← line) ("regular expression compile failed (" ++ e ++ ")\n" ++ Text.toString source)

/-- An operand that is a text stands for an expression. -/
def asPattern (e : Expr) : Parse Expr := do
  match e with
  | .text s => return .pattern (← compiled s)
  | e => pure e

mutual

/-- An expression of the lowest rank. Where `plain` is set, a greater-than sign ends it. -/
def parseExpr (plain : Bool) : (fuel : Nat) → Parse Expr
  | 0 => unexpected
  | fuel + 1 => do
    let condition ← parseEither plain fuel
    if ← takeSign "?" then
      skipBreaks fuel
      let yes ← parseExpr plain fuel
      skipBreaks fuel
      expect ":"
      skipBreaks fuel
      let no ← parseExpr plain fuel
      pure (.choose condition yes no)
    else pure condition

def parseEither (plain : Bool) : (fuel : Nat) → Parse Expr
  | 0 => unexpected
  | fuel + 1 => do
    let a ← parseBoth plain fuel
    restOfEither plain fuel a

def restOfEither (plain : Bool) : (fuel : Nat) → Expr → Parse Expr
  | 0, _ => unexpected
  | fuel + 1, a => do
    if ← takeSign "||" then
      let b ← parseBoth plain fuel
      restOfEither plain fuel (.either a b)
    else pure a

def parseBoth (plain : Bool) : (fuel : Nat) → Parse Expr
  | 0 => unexpected
  | fuel + 1 => do
    let a ← parseMember plain fuel
    restOfBoth plain fuel a

def restOfBoth (plain : Bool) : (fuel : Nat) → Expr → Parse Expr
  | 0, _ => unexpected
  | fuel + 1, a => do
    if ← takeSign "&&" then
      let b ← parseMember plain fuel
      restOfBoth plain fuel (.both a b)
    else pure a

def parseMember (plain : Bool) : (fuel : Nat) → Parse Expr
  | 0 => unexpected
  | fuel + 1 => do
    let a ← parseFits plain fuel
    restOfMember fuel a

def restOfMember : (fuel : Nat) → Expr → Parse Expr
  | 0, _ => unexpected
  | fuel + 1, a => do
    if ← isWord "in" then
      skip
      let table ← parseTable
      restOfMember fuel (.member [a] table)
    else pure a

def parseFits (plain : Bool) : (fuel : Nat) → Parse Expr
  | 0 => unexpected
  | fuel + 1 => do
    let a ← parseRelation plain fuel
    restOfFits plain fuel a

def restOfFits (plain : Bool) : (fuel : Nat) → Expr → Parse Expr
  | 0, _ => unexpected
  | fuel + 1, a => do
    if ← takeSign "~" then
      let b ← asPattern (← parseRelation plain fuel)
      restOfFits plain fuel (.fits a b)
    else if ← takeSign "!~" then
      let b ← asPattern (← parseRelation plain fuel)
      restOfFits plain fuel (.not (.fits a b))
    else pure a

def parseRelation (plain : Bool) : (fuel : Nat) → Parse Expr
  | 0 => unexpected
  | fuel + 1 => do
    let a ← parseJoin plain fuel
    restOfRelation plain fuel a

def restOfRelation (plain : Bool) : (fuel : Nat) → Expr → Parse Expr
  | 0, _ => unexpected
  | fuel + 1, a => do
    let relation := match ← peek with
      | .sign s => if plain && s = ">" then none else relationSigns.lookup s
      | _ => none
    match relation with
    | some r => do
      skip
      let b ← parseJoin plain fuel
      restOfRelation plain fuel (.compare r a b)
    | none => pure a

def parseJoin (plain : Bool) : (fuel : Nat) → Parse Expr
  | 0 => unexpected
  | fuel + 1 => do
    let a ← parseTerms plain fuel
    restOfJoin plain fuel a

def restOfJoin (plain : Bool) : (fuel : Nat) → Expr → Parse Expr
  | 0, _ => unexpected
  | fuel + 1, a => do
    if (← peek).startsOperand then
      let b ← parseTerms plain fuel
      restOfJoin plain fuel (.join a b)
    else pure a

def parseTerms (plain : Bool) : (fuel : Nat) → Parse Expr
  | 0 => unexpected
  | fuel + 1 => do
    let a ← parseFactors plain fuel
    restOfTerms plain fuel a

def restOfTerms (plain : Bool) : (fuel : Nat) → Expr → Parse Expr
  | 0, _ => unexpected
  | fuel + 1, a => do
    if ← takeSign "+" then
      let b ← parseFactors plain fuel
      restOfTerms plain fuel (.arithmetic .add a b)
    else if ← takeSign "-" then
      let b ← parseFactors plain fuel
      restOfTerms plain fuel (.arithmetic .subtract a b)
    else pure a

def parseFactors (plain : Bool) : (fuel : Nat) → Parse Expr
  | 0 => unexpected
  | fuel + 1 => do
    let a ← parseUnary plain fuel
    restOfFactors plain fuel a

def restOfFactors (plain : Bool) : (fuel : Nat) → Expr → Parse Expr
  | 0, _ => unexpected
  | fuel + 1, a => do
    let operator := match ← peek with
      | .sign "*" => some Operator.multiply
      | .sign "/" => some Operator.divide
      | .sign "%" => some Operator.remainder
      | _ => none
    match operator with
    | some o => do
      skip
      let b ← parseUnary plain fuel
      restOfFactors plain fuel (.arithmetic o a b)
    | none => pure a

def parseUnary (plain : Bool) : (fuel : Nat) → Parse Expr
  | 0 => unexpected
  | fuel + 1 => do
    if ← takeSign "!" then return .not (← parseUnary plain fuel)
    if ← takeSign "-" then return .negate (← parseUnary plain fuel)
    if ← takeSign "+" then return .plus (← parseUnary plain fuel)
    let a ← parsePower plain fuel
    restOfPipes plain fuel a

/-- Lines that are read from a command. -/
def restOfPipes (plain : Bool) : (fuel : Nat) → Expr → Parse Expr
  | 0, _ => unexpected
  | fuel + 1, a => do
    let isRead ← do
      match ← peek, ← peekSecond with
      | .sign "|", .keyword "getline" => pure true
      | _, _ => pure false
    if isRead then
      skip
      skip
      let target ← parseReadTarget plain fuel
      restOfPipes plain fuel (.readCommand a target)
    else pure a

def parsePower (plain : Bool) : (fuel : Nat) → Parse Expr
  | 0 => unexpected
  | fuel + 1 => do
    let a ← parseStep plain fuel
    if ← takeSign "^" then
      let b ← parsePowerOf plain fuel
      pure (.arithmetic .power a b)
    else pure a

/-- An exponent may have a sign. -/
def parsePowerOf (plain : Bool) : (fuel : Nat) → Parse Expr
  | 0 => unexpected
  | fuel + 1 => do
    if ← takeSign "-" then return .negate (← parsePowerOf plain fuel)
    if ← takeSign "+" then return .plus (← parsePowerOf plain fuel)
    if ← takeSign "!" then return .not (← parsePowerOf plain fuel)
    parsePower plain fuel

/-- An operand with steps behind it, or with a value that is put there. -/
def parseStep (plain : Bool) : (fuel : Nat) → Parse Expr
  | 0 => unexpected
  | fuel + 1 => do
    let a ← parseOperand plain fuel
    if a.isTarget then
      if ← takeSign "++" then return .step a true true
      if ← takeSign "--" then return .step a false true
      let assign := match ← peek with
        | .sign s => assignSigns.lookup s
        | _ => none
      match assign with
      | some operator => do
        if let .slot place := a then settle place .value
        skip
        skipBreaks fuel
        let value ← parseExpr plain fuel
        pure (.assign a operator value)
      | none => pure a
    else pure a

/-- Where a line that is read goes. -/
def parseReadTarget (plain : Bool) : (fuel : Nat) → Parse (Option Expr)
  | 0 => unexpected
  | fuel + 1 => do
    match ← peek with
    | .name _ => return some (← parseOperand plain fuel)
    | .sign "$" => return some (← parseOperand plain fuel)
    | _ => pure none

def parseOperand (plain : Bool) : (fuel : Nat) → Parse Expr
  | 0 => unexpected
  | fuel + 1 => do
    match ← peek with
    | .number x => do
      skip
      pure (.number x)
    | .text s => do
      skip
      pure (.text s)
    | .pattern s => do
      let p ← compiled s
      skip
      pure (.pattern p)
    | .sign "$" => do
      skip
      if ← takeSign "-" then return .field (.negate (← parseOperand plain fuel))
      if ← takeSign "++" then return .field (.step (← parseOperand plain fuel) true false)
      if ← takeSign "--" then return .field (.step (← parseOperand plain fuel) false false)
      return .field (← parseOperand plain fuel)
    | .sign "++" => do
      skip
      let target ← parseOperand plain fuel
      if !target.isTarget then unexpected
      pure (.step target true false)
    | .sign "--" => do
      skip
      let target ← parseOperand plain fuel
      if !target.isTarget then unexpected
      pure (.step target false false)
    | .sign "-" => do
      skip
      return .negate (← parseUnary plain fuel)
    | .sign "(" => do
      skip
      let e ← parseExpr false fuel
      if ← isSign "," then
        let more ← parseMore fuel
        closeParen
        if ← isWord "in" then
          skip
          let table ← parseTable
          pure (.member (e :: more) table)
        else unexpected
      else
        closeParen
        pure e
    | .name s => do
      let place ← slotOf s
      skip
      if ← takeSign "[" then
        settle place .table
        let first ← parseExpr false fuel
        let more ← parseMore fuel
        expect "]"
        pure (.element place (first :: more))
      else
        let mayBePassed ← do
          match ← peek with
          | .sign t => pure (t = "," || t = ")")
          | _ => pure false
        if !mayBePassed then settle place .value
        pure (.slot place)
    | .called s => do
      let at_ ← line
      let f ← functionOf s
      skip
      skip
      let args ← parseArgs fuel
      modify (fun r => { r with
        calls := (f, args.length, at_) :: r.calls
        passed := (args.zipIdx.filterMap (fun (e, i) => match e with
          | .slot (.own own) => some { own, function := f, position := i }
          | _ => none)) ++ r.passed })
      pure (.call f args)
    | .builtin f word => do
      let at_ ← line
      skip
      let args ← if ← takeSign "(" then
          parseArgs fuel
        else if f = .length then pure []
        else unexpected
      let (least, most) := f.arity
      if args.length < least ∨ most < args.length then
        refuseAt at_ ("wrong number of arguments in call to " ++ word)
      finishBuiltin f args
    | .keyword "getline" => do
      skip
      let target ← parseReadTarget plain fuel
      if ← takeSign "<" then
        let file ← parseStep plain fuel
        pure (.readFile file target)
      else pure (.readMain target)
    | _ => unexpected

/-- The expressions behind commas. -/
def parseMore : (fuel : Nat) → Parse (List Expr)
  | 0 => unexpected
  | fuel + 1 => do
    if ← takeSign "," then
      skipBreaks fuel
      let e ← parseExpr false fuel
      let more ← parseMore fuel
      pure (e :: more)
    else pure []

/-- The arguments of a call up to the closing parenthesis. -/
def parseArgs : (fuel : Nat) → Parse (List Expr)
  | 0 => unexpected
  | fuel + 1 => do
    if ← takeSign ")" then pure []
    else
      let first ← parseExpr false fuel
      let more ← parseMore fuel
      closeParen
      pure (first :: more)

/-- The name of a table. -/
def parseTable : Parse Slot := do
  match ← peek with
  | .name s => do
    let place ← slotOf s
    skip
    settle place .table
    pure place
  | _ => unexpected

/-- Some arguments are tables or expressions. -/
def finishBuiltin (f : Builtin) (args : List Expr) : Parse Expr := do
  match f, args with
  | .split, subject :: .slot place :: rest => do
    settle place .table
    let separators ← rest.mapM fun e => match e with
      | .text [c] => if c = ' ' then pure (Expr.text [' ']) else pure (.pattern (Pattern.exactly [c]))
      | .text [] => pure (.text [])
      | e => asPattern e
    pure (.builtin .split (subject :: .slot place :: separators))
  | .split, _ => unexpected
  | .search, [subject, p] => return .builtin .search [subject, ← asPattern p]
  | .sub, p :: rest => return .builtin .sub ((← asPattern p) :: rest)
  | .gsub, p :: rest => return .builtin .gsub ((← asPattern p) :: rest)
  | f, args => pure (.builtin f args)

end

end Slipway.Records
