import Slipway.Records.Parser

/-!
# Statements and whole programs

Rules, functions and statements. At the end every function that is called has to be there, and
tables that are passed on make tables of the parameters that they are passed by.
-/

namespace Slipway.Records

open Shell (Text)
open Parse

/-! ## Statements -/

/-- Whether the arguments of a statement for output are at their end. -/
def Token.endsOutput : Token → Bool
  | newline => true
  | stop => true
  | sign s => [";", "\x7d", ">", ">>", "|"].contains s
  | _ => false

/-- The arguments of a statement for output; they may all stand in parentheses. -/
def parseOutputArgs (fuel : Nat) : Parse (List Expr) := do
  let plainArgs : Parse (List Expr) := do
    if (← peek).endsOutput then pure []
    else
      let first ← parseExpr true fuel
      let rec more : (count : Nat) → Parse (List Expr)
        | 0 => unexpected
        | count + 1 => do
          if ← takeSign "," then
            skipBreaks fuel
            let e ← parseExpr true fuel
            let rest ← more count
            pure (e :: rest)
          else pure []
      let rest ← more fuel
      pure (first :: rest)
  if ← isSign "(" then
    let before ← get
    skip
    let first ← parseExpr false fuel
    let more ← parseMore fuel
    closeParen
    if (← peek).endsOutput then pure (first :: more)
    else do
      set before
      plainArgs
  else plainArgs

def parseDirection (fuel : Nat) : Parse (Option (Direction × Expr)) := do
  let direction := match ← peek with
    | .sign ">" => some Direction.replace
    | .sign ">>" => some Direction.append
    | .sign "|" => some Direction.pipe
    | _ => none
  match direction with
  | some d => do
    skip
    return some (d, ← parseExpr true fuel)
  | none => pure none

/-- The value behind a word, if there is one. -/
def parseOptional (fuel : Nat) : Parse (Option Expr) := do
  if (← peek).endsOutput then pure none else return some (← parseExpr false fuel)

def insideLoop {α : Type} (body : Parse α) : Parse α := do
  modify (fun r => { r with loops := r.loops + 1 })
  let a ← body
  modify (fun r => { r with loops := r.loops - 1 })
  pure a

/-- A statement without parts that are statements. -/
def parseSimple (fuel : Nat) : Parse Statement := do
  match ← peek with
  | .keyword "print" => do
    skip
    let args ← parseOutputArgs fuel
    return .print args (← parseDirection fuel)
  | .keyword "printf" => do
    let at_ ← line
    skip
    let args ← parseOutputArgs fuel
    if args.isEmpty then refuseAt at_ "no arguments in call to printf"
    return .printf args (← parseDirection fuel)
  | .keyword "delete" => do
    skip
    let table ← parseTable
    if ← takeSign "[" then
      let first ← parseExpr false fuel
      let more ← parseMore fuel
      expect "]"
      pure (.delete table (first :: more))
    else pure (.clear table)
  | .keyword "next" => do
    if !(← get).inRule then refuseAt (← line) "improper use of next"
    skip
    pure .next
  | .keyword "nextfile" => do
    if !(← get).inRule then refuseAt (← line) "improper use of nextfile"
    skip
    pure .nextFile
  | .keyword "exit" => do
    skip
    return .exit (← parseOptional fuel)
  | .keyword "return" => do
    if (← get).params.isNone then refuseAt (← line) "return outside function body"
    skip
    return .giveBack (← parseOptional fuel)
  | .keyword "break" => do
    if (← get).loops = 0 then refuseAt (← line) "break statement outside of loop"
    skip
    pure .leave
  | .keyword "continue" => do
    if (← get).loops = 0 then refuseAt (← line) "continue statement outside of loop"
    skip
    pure .again
  | _ => return .expr (← parseExpr false fuel)

mutual

def parseStatement : (fuel : Nat) → Parse Statement
  | 0 => unexpected
  | fuel + 1 => do
    match ← peek with
    | .newline => do
      skip
      pure (.block [])
    | .sign ";" => do
      skip
      pure (.block [])
    | .sign "\x7b" => parseBlock fuel
    | .keyword "if" => do
      skip
      expect "("
      let condition ← parseExpr false fuel
      expect ")"
      skipBreaks fuel
      let yes ← parseStatement fuel
      if ← isWord "else" then
        skip
        skipBreaks fuel
        let no ← parseStatement fuel
        pure (.branch condition yes no)
      else pure (.branch condition yes (.block []))
    | .keyword "while" => do
      skip
      expect "("
      let condition ← parseExpr false fuel
      expect ")"
      if ← takeSign ";" then pure (.whileLoop condition (.block []))
      else
        skipBreaks fuel
        let body ← insideLoop (parseStatement fuel)
        pure (.whileLoop condition body)
    | .keyword "do" => do
      skip
      skipBreaks fuel
      let body ← insideLoop (parseStatement fuel)
      skipBreaks fuel
      if !(← isWord "while") then unexpected
      skip
      expect "("
      let condition ← parseExpr false fuel
      expect ")"
      endStatement
      pure (.doWhile body condition)
    | .keyword "for" => do
      skip
      expect "("
      parseFor fuel
    | _ => do
      let s ← parseSimple fuel
      endStatement
      pure s

/-- The head of a loop behind its parenthesis, and its body. -/
def parseFor : (fuel : Nat) → Parse Statement
  | 0 => unexpected
  | fuel + 1 => do
    let isEach := match (← get).rest.map (·.token) with
      | .name _ :: .keyword "in" :: .name _ :: .sign ")" :: _ => true
      | _ => false
    if isEach then
      let target ← parseOperand false fuel
      if let .slot place := target then settle place .value
      skip
      let table ← parseTable
      expect ")"
      skipBreaks fuel
      let body ← insideLoop (parseStatement fuel)
      pure (.forEach target table body)
    else do
      let first ← parseForPart fuel ";"
      expect ";"
      skipBreaks fuel
      let condition ← do
        if ← isSign ";" then pure none
        else
          let e ← parseExpr false fuel
          pure (some e)
      expect ";"
      skipBreaks fuel
      let after ← parseForPart fuel ")"
      expect ")"
      if ← takeSign ";" then pure (.forLoop first condition after (.block []))
      else
        skipBreaks fuel
        let body ← insideLoop (parseStatement fuel)
        pure (.forLoop first condition after body)

def parseForPart : (fuel : Nat) → (stop : String) → Parse Statement
  | 0, _ => unexpected
  | fuel + 1, stop => do
    if ← isSign stop then pure (.block []) else parseSimple fuel

def parseBlock : (fuel : Nat) → Parse Statement
  | 0 => unexpected
  | fuel + 1 => do
    expect "\x7b"
    let statements ← parseStatements fuel
    expect "\x7d"
    pure (.block statements)

def parseStatements : (fuel : Nat) → Parse (List Statement)
  | 0 => unexpected
  | fuel + 1 => do
    if ← isSign "\x7d" then pure []
    else
      let first ← parseStatement fuel
      let more ← parseStatements fuel
      pure (first :: more)

end

/-! ## Rules and functions -/

/-- The parameters of a function up to the closing parenthesis. -/
def parseParams (function : Text) : (fuel : Nat) → (found : List Text) → Parse (List Text)
  | 0, _ => unexpected
  | fuel + 1, found => do
    match ← peek with
    | .name s => do
      let at_ ← line
      if s = function then refuseAt at_ "function parameter cannot be the function"
      if found.contains s then refuseAt at_ (Text.toString s ++ " is duplicated in argument list")
      skip
      let found := found ++ [s]
      if ← takeSign "," then
        skipBreaks fuel
        match ← peek with
        | .name _ => parseParams function fuel found
        | _ => unexpected
      else
        expect ")"
        pure found
    | .sign ")" =>
      skip
      pure found
    | _ => unexpected

/-- A function behind the word that announces it. -/
def parseFunction (fuel : Nat) : Parse Unit := do
  let name ← do
    match ← peek with
    | .name s => pure s
    | .called s => pure s
    | _ => unexpected
  let index ← functionOf name
  if let some f := (← get).functions[index]? then
    if f.body.isSome then unexpected
  skip
  expect "("
  let params ← parseParams name fuel []
  skipBreaks fuel
  modify (fun r => { r with params := some params, tables := [], passed := [], inRule := false })
  let body ← parseBlock fuel
  modify (fun r => { r with
    functions := r.functions.modify index (fun f => { f with params, body := some body })
    uses := (index, r.tables, r.passed) :: r.uses
    params := none })

def parseRule (fuel : Nat) : Parse Rule := do
  let action : Parse (Option Statement) := do
    if ← isSign "\x7b" then
      let body ← parseBlock fuel
      pure (some body)
    else
      endStatement
      pure none
  match ← peek with
  | .keyword "BEGIN" => do
    skip
    modify (fun r => { r with inRule := false })
    let body ← parseBlock fuel
    pure { trigger := .start, action := some body }
  | .keyword "END" => do
    skip
    modify (fun r => { r with inRule := false })
    let body ← parseBlock fuel
    pure { trigger := .finish, action := some body }
  | .sign "\x7b" => do
    modify (fun r => { r with inRule := true })
    let body ← parseBlock fuel
    pure { trigger := .always, action := some body }
  | _ => do
    modify (fun r => { r with inRule := true })
    let first ← parseExpr false fuel
    if ← takeSign "," then
      skipBreaks fuel
      let last ← parseExpr false fuel
      let number := (← get).ranges
      modify (fun r => { r with ranges := number + 1 })
      return { trigger := .range first last number, action := ← action }
    else return { trigger := .when first, action := ← action }

/-- The rules up to the end of the program. -/
def parseItems : (fuel : Nat) → Parse (List Rule)
  | 0 => unexpected
  | fuel + 1 => do
    match ← peek with
    | .stop => pure []
    | .newline => do
      skip
      parseItems fuel
    | .sign ";" => do
      skip
      parseItems fuel
    | .keyword "function" => do
      skip
      parseFunction fuel
      parseItems fuel
    | _ => do
      let rule ← parseRule fuel
      let more ← parseItems fuel
      pure (rule :: more)

/-! ## Programs -/

/-- The parameters that are tables because they are passed on as ones. -/
def spreadTables (uses : List (Nat × List Nat × List Passed)) : (rounds : Nat) →
    (tables : List (Nat × Nat)) → List (Nat × Nat)
  | 0, tables => tables
  | rounds + 1, tables =>
    let more := uses.flatMap fun (f, _, passed) => passed.filterMap fun p =>
      if tables.contains (p.function, p.position) ∧ !tables.contains (f, p.own) then some (f, p.own)
      else none
    if more.isEmpty then tables else spreadTables uses rounds (more ++ tables)

/-- The program of a text, or the messages about it. -/
def parseProgram (source : Text) : Except (List Refusal) Program :=
  let source := source ++ ['\n']
  let scanned := scan (source.length + 1) {} source
  let symbols := builtinNames.zipIdx.map fun (name, index) =>
    let meaning : Meaning := if name = "ENVIRON" ∨ name = "ARGV" then .table else .value
    ({ name := name.toList, index, meaning } : Symbol)
  let start : Reader := { rest := scanned.found.reverse, symbols := symbols.reverse }
  let fuel := 40 * scanned.found.length + 100
  let complaints (before : Nat) : List Refusal := (scanned.complaints.reverse.filter
    (fun c => c.1 ≤ before)).map (fun c => { line := c.2.1, message := c.2.2 })
  match (parseItems fuel).run start with
  | .error e => .error (complaints scanned.found.length ++ [e])
  | .ok (rules, r) =>
    if !scanned.complaints.isEmpty then .error (complaints scanned.found.length)
    else
      let last := (scanned.found.head?.map (·.line)).getD 1
      let undefined := r.functions.toList.filter (·.body.isNone)
      let excess := r.calls.reverse.find? fun (f, count, _) =>
        match r.functions[f]? with
        | some function => function.params.length < count
        | none => false
      match undefined, excess with
      | f :: _, _ => .error [⟨last, "function " ++ Text.toString f.name ++ " never defined", false⟩]
      | [], some (f, _, at_) =>
        let name := (r.functions[f]?.map (·.name)).getD []
        .error [⟨at_, "too many arguments in call to " ++ Text.toString name, false⟩]
      | [], none =>
        let tables := spreadTables r.uses (r.functions.size * 50 + 1)
          (r.uses.flatMap (fun (f, tables, _) => tables.map (f, ·)))
        let functions := r.functions.mapIdx fun f function =>
          let flags := (List.range function.params.length).map (fun i => tables.contains (f, i))
          { function with tables := flags }
        let shared := r.symbols.filter (·.meaning = .table)
        .ok { rules, functions, names := r.symbols.map (fun s => (s.name, s.index))
              tables := shared.map (·.index) }

end Slipway.Records
