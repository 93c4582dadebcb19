import Slipway.Rich.Tokens

/-!
# Reading rich commands

The grammar of commands. A script is read up to the end of a line on which all that was begun is
complete, so that what stands on it can be run before more is read.
-/

namespace Slipway.Rich

open Shell (Text isName)

/-- Words that begin or go on with a command that is made of others. -/
def reservedWords : List String :=
  ["if", "then", "else", "elif", "fi", "case", "esac", "for", "select", "while", "until", "do",
    "done", "in", "function", "time", "\x7b", "\x7d", "!", "[[", "]]", "coproc"]

/-- Words in front of which a list of commands ends. -/
def endingWords : List String := ["then", "else", "elif", "fi", "do", "done", "esac", "\x7d"]

/-- Words that begin a command that is made of others. -/
def openingWords : List String :=
  ["if", "case", "for", "select", "while", "until", "\x7b", "[[", "function"]

/-- Builtins whose arguments can be assignments. -/
def assigningBuiltins : List String := ["declare", "export", "local", "readonly", "typeset"]

namespace Token

def endsList : Token → Bool
  | ended => true
  | operator symbol => [")", ";;", ";&", ";;&"].contains symbol
  | word source _ => endingWords.contains (String.ofList source)
  | _ => false

def opens : Token → Bool
  | operator symbol => symbol = "("
  | word source _ => openingWords.contains (String.ofList source)
  | _ => false

end Token

/-- One command behind another, if there is one. -/
def combined (first : Option Command) (second : Command) : Command :=
  match first with
  | some first => .sequence first second
  | none => second

def conditionUnary : List String := [
  "-a", "-b", "-c", "-d", "-e", "-f", "-g", "-h", "-k", "-n", "-o", "-p", "-r", "-s", "-t", "-u",
  "-v", "-w", "-x", "-z", "-G", "-L", "-N", "-O", "-R", "-S"]

def conditionBinary : List String := [
  "=", "==", "!=", "=~", "-eq", "-ne", "-lt", "-le", "-gt", "-ge", "-nt", "-ot", "-ef"]

namespace Parser

/-- The line of the last token. -/
def tokenLine : Parser Nat := return (← get).tokenLine

/-- Refuses a condition at a token. -/
def badCondition {α : Type} (message : String) (token : Token) : Parser α := do
  failAt (← tokenLine) (message ++ "\nsyntax error near \x60" ++ token.text ++ "'")

mutual

/-- The commands inside brackets, with the closing one. -/
def parseInside : (fuel : Nat) → Parser (Option Command)
  | 0 => pure none
  | fuel + 1 => do
    let outer ← get
    modify (fun s => { s with pushed := none, takesAssignments := true, hasGroups := outer.hasGroups })
    let body ← parseList fuel
    match ← readToken (parseInside fuel) with
    | .operator ")" => do
      modify (fun s => { s with
        pushed := outer.pushed, takesAssignments := outer.takesAssignments
        tokenLine := outer.tokenLine })
      pure body
    | .ended => missing (← tokenLine) ')'
    | token => unexpected token
  termination_by structural fuel => fuel

/-- Commands up to a word or symbol that cannot stand in a list. -/
def parseList : (fuel : Nat) → Parser (Option Command)
  | 0 => pure none
  | fuel + 1 => do
    modify (fun s => { s with takesAssignments := true })
    let token ← skipNewlines (parseInside fuel) Parser.fuel
    pushBack token
    if token.endsList then pure none else return some (← parseListFrom fuel none)
  termination_by structural fuel => fuel

/-- The commands of a list behind the first of them. -/
def parseListFrom : (fuel : Nat) → (first : Option Command) → Parser Command
  | 0, _ => failAt 0 "syntax error"
  | fuel + 1, first => do
    let line ← currentLine
    let command ← parseAndOr fuel
    let goOn := fun (command : Command) => do
      modify (fun s => { s with takesAssignments := true })
      let token ← skipNewlines (parseInside fuel) Parser.fuel
      pushBack token
      if token.endsList then pure command else parseListFrom fuel (some command)
    match ← readToken (parseInside fuel) with
    | .operator "&" => goOn (combined first (.background line command))
    | .operator ";" => goOn (combined first command)
    | .newline => goOn (combined first command)
    | token => do
      pushBack token
      pure (combined first command)
  termination_by structural fuel => fuel

def parseSome : (fuel : Nat) → Parser Command
  | 0 => failAt 0 "syntax error"
  | fuel + 1 => do
    match ← parseList fuel with
    | some command => pure command
    | none => unexpected (← readToken (parseInside fuel))
  termination_by structural fuel => fuel

/-- A word that has to stand here. -/
def expectWord (name : String) : (fuel : Nat) → Parser Unit
  | 0 => pure ()
  | fuel + 1 => do
    let token ← readToken (parseInside fuel)
    if !token.isWord name then unexpected token
  termination_by structural fuel => fuel

/-- Pipelines of which one is run after another depending on how that ended. -/
def parseAndOr : (fuel : Nat) → Parser Command
  | 0 => failAt 0 "syntax error"
  | fuel + 1 => do
    let first ← parsePipeline fuel
    parseAndOrFrom fuel first
  termination_by structural fuel => fuel

def parseAndOrFrom : (fuel : Nat) → Command → Parser Command
  | 0, first => pure first
  | fuel + 1, first => do
    let token ← readToken (parseInside fuel)
    if token.isOperator "&&" ∨ token.isOperator "||" then
      modify (fun s => { s with takesAssignments := true })
      let next ← skipNewlines (parseInside fuel) Parser.fuel
      pushBack next
      let second ← parsePipeline fuel
      parseAndOrFrom fuel
        (if token.isOperator "&&" then .andThen first second else .orElse first second)
    else
      pushBack token
      pure first
  termination_by structural fuel => fuel

def parsePipeline : (fuel : Nat) → Parser Command
  | 0 => failAt 0 "syntax error"
  | fuel + 1 => do
    modify (fun s => { s with takesAssignments := true })
    let token ← readToken (parseInside fuel)
    if token.isWord "!" then
      return .negation (← parsePipeline fuel)
    else if token.isWord "time" then
      let next ← readToken (parseInside fuel)
      let portable := next.isWord "-p"
      let next ← if portable then readToken (parseInside fuel) else pure next
      pushBack next
      let isAlone := match next with
        | .newline => true
        | .operator symbol => symbol ≠ "("
        | token => token.endsList
      if isAlone then pure (.timed portable none)
      else return .timed portable (some (← parsePipeline fuel))
    else
      pushBack token
      let line ← tokenLine
      let stages ← parseStages fuel
      match stages with
      | [stage] => pure stage
      | stages => pure (.pipeline line stages)
  termination_by structural fuel => fuel

def parseStages : (fuel : Nat) → Parser (List Command)
  | 0 => pure []
  | fuel + 1 => do
    let line ← currentLine
    let command ← parseCommand fuel
    let token ← readToken (parseInside fuel)
    if token.isOperator "|" ∨ token.isOperator "|&" then
      modify (fun s => { s with takesAssignments := true })
      let next ← skipNewlines (parseInside fuel) Parser.fuel
      pushBack next
      let command := if token.isOperator "|&" then
          Command.redirected line command [.mk (.descriptor 2) .copyOutput ['1'] [.text ['1']]]
        else command
      let rest ← parseStages fuel
      pure (command :: rest)
    else
      pushBack token
      pure [command]
  termination_by structural fuel => fuel

/-- A command with the redirections behind it. -/
def parseCommand : (fuel : Nat) → Parser Command
  | 0 => failAt 0 "syntax error"
  | fuel + 1 => do
    modify (fun s => { s with takesAssignments := true })
    let token ← readToken (parseInside fuel)
    let line ← tokenLine
    match token with
    | .operator "(" => do
      let command ← parseBrackets line fuel
      parseRedirected line fuel command
    | .word source word => do
      let name := String.ofList source
      if name = "coproc" then parseCoprocess line fuel
      else if name = "function" then parseFunction line fuel
      else if openingWords.contains name then
        let command ← parseCompound line name fuel
        parseRedirected line fuel command
      else if endingWords.contains name then unexpected token
      else
        skipBlanks Parser.fuel
        if (← peek) = some '(' ∧ !isQuoted word then
          let opening ← readToken (parseInside fuel)
          let next ← readToken (parseInside fuel)
          if !next.isOperator ")" then unexpected (if next.isOperator ")" then opening else next)
          parseBody line source fuel
        else do
          pushBack token
          parseSimple line fuel [] [] []
    | .assignment _ _ => do
      pushBack token
      parseSimple line fuel [] [] []
    | .redirect _ _ => do
      pushBack token
      parseSimple line fuel [] [] []
    | token => unexpected token
  termination_by structural fuel => fuel

/-- The line in which the next token ends. Commands that begin with a word count as commands of this
line. -/
def lineBehind : (fuel : Nat) → Parser Nat
  | 0 => currentLine
  | fuel + 1 => do
    let token ← readToken (parseInside fuel)
    pushBack token
    match token with
    | .newline | .ended => tokenLine
    | _ => currentLine
  termination_by structural fuel => fuel

/-- The words of a simple command; those found so far come latest first. -/
def parseSimple (line : Nat) : (fuel : Nat) → List Assignment → List Item → List Redirect →
    Parser Command
  | 0, _, _, _ => failAt 0 "syntax error"
  | fuel + 1, assignments, items, redirects => do
    match ← readToken (parseInside fuel) with
    | .word source word => do
      if items.isEmpty then
        modify (fun s => { s with
          takesAssignments := assigningBuiltins.contains (String.ofList source) })
      let isFirst := items.isEmpty && assignments.isEmpty && redirects.isEmpty
      let line ← if isFirst then lineBehind fuel else pure line
      parseSimple line fuel assignments (.word word :: items) redirects
    | .assignment _ assignment =>
      if items.isEmpty then parseSimple line fuel (assignment :: assignments) items redirects
      else parseSimple line fuel assignments (.assignment assignment :: items) redirects
    | .redirect target symbol => do
      let redirect ← readRedirect (parseInside fuel) target symbol
      parseSimple line fuel assignments items (redirect :: redirects)
    | .operator "(" => unexpected (.operator "(")
    | token => do
      pushBack token
      pure (.simple line assignments.reverse items.reverse redirects.reverse)
  termination_by structural fuel => fuel

/-- The redirections behind a command. -/
def parseRedirected (line : Nat) : (fuel : Nat) → Command → Parser Command
  | 0, command => pure command
  | fuel + 1, command => do
    modify (fun s => { s with takesAssignments := false })
    match ← readToken (parseInside fuel) with
    | .redirect target symbol => do
      let redirect ← readRedirect (parseInside fuel) target symbol
      let command := match command with
        | .redirected line body redirects => Command.redirected line body (redirects ++ [redirect])
        | command => .redirected line command [redirect]
      parseRedirected line fuel command
    | token => do
      pushBack token
      pure command
  termination_by structural fuel => fuel

/-- What stands behind an opening bracket: commands, or an expression in two brackets. -/
def parseBrackets (line : Nat) : (fuel : Nat) → Parser Command
  | 0 => failAt 0 "syntax error"
  | fuel + 1 => do
    let start ← Parser.place
    if ← accept '(' then
      let parts ← readParts (parseInside fuel) (.expression ")")
      let _ ← next
      if ← accept ')' then return .arithmetic line parts
      comeBack start
    let body ← parseSome fuel
    match ← readToken (parseInside fuel) with
    | .operator ")" => pure (.subshell line body)
    | token => unexpected token
  termination_by structural fuel => fuel

/-- A command that begins with one of the opening words. -/
def parseCompound (line : Nat) (name : String) : (fuel : Nat) → Parser Command
  | 0 => failAt 0 "syntax error"
  | fuel + 1 => do
    match name with
    | "\x7b" => do
      let body ← parseSome fuel
      expectWord "\x7d" fuel
      pure (.group body)
    | "if" => parseIf fuel
    | "while" => parseLoop false fuel
    | "until" => parseLoop true fuel
    | "for" => parseFor line fuel
    | "select" => do
      let (name, ofArgs, words) ← parseChoices fuel
      return .menu line name ofArgs words (← parseDo fuel)
    | "case" => do
      modify (fun s => { s with takesAssignments := false })
      match ← readToken (parseInside fuel) with
      | .word _ word => do
        let token ← skipNewlines (parseInside fuel) Parser.fuel
        if !token.isWord "in" then unexpected token
        return .choose line word (← parseArms fuel [])
      | token => unexpected token
    | _ => do
      modify (fun s => { s with takesAssignments := false })
      let condition ← parseCondition fuel
      let token ← skipNewlines (parseInside fuel) Parser.fuel
      if !token.isWord "]]" then badCondition "syntax error in conditional expression" token
      pure (.condition line condition)
  termination_by structural fuel => fuel

def parseIf : (fuel : Nat) → Parser Command
  | 0 => failAt 0 "syntax error"
  | fuel + 1 => do
    let test ← parseSome fuel
    expectWord "then" fuel
    let yes ← parseSome fuel
    let token ← readToken (parseInside fuel)
    if token.isWord "fi" then pure (.conditional test yes none)
    else if token.isWord "elif" then return .conditional test yes (some (← parseIf fuel))
    else if token.isWord "else" then
      let no ← parseSome fuel
      expectWord "fi" fuel
      pure (.conditional test yes (some no))
    else unexpected token
  termination_by structural fuel => fuel

def parseLoop (untilTrue : Bool) : (fuel : Nat) → Parser Command
  | 0 => failAt 0 "syntax error"
  | fuel + 1 => do
    let test ← parseSome fuel
    expectWord "do" fuel
    let body ← parseSome fuel
    expectWord "done" fuel
    pure (.loop untilTrue test body)
  termination_by structural fuel => fuel

/-- The body of a loop over words. -/
def parseDo : (fuel : Nat) → Parser Command
  | 0 => failAt 0 "syntax error"
  | fuel + 1 => do
    modify (fun s => { s with takesAssignments := true })
    let token ← skipNewlines (parseInside fuel) Parser.fuel
    let token ← if token.isOperator ";" then skipNewlines (parseInside fuel) Parser.fuel
      else pure token
    if token.isWord "do" then
      let body ← parseSome fuel
      expectWord "done" fuel
      pure body
    else if token.isWord "\x7b" then
      let body ← parseSome fuel
      expectWord "\x7d" fuel
      pure body
    else unexpected token
  termination_by structural fuel => fuel

/-- The name of a variable, and the words that it takes one after the other. -/
def parseChoices : (fuel : Nat) → Parser (Text × Bool × List Word)
  | 0 => pure ([], true, [])
  | fuel + 1 => do
    modify (fun s => { s with takesAssignments := false })
    match ← readToken (parseInside fuel) with
    | .word source _ => do
      let start ← Parser.place
      let token ← skipNewlines (parseInside fuel) Parser.fuel
      if token.isWord "in" then return (source, false, ← parseWords fuel [])
      else do
        comeBack start
        pure (source, true, [])
    | token => unexpected token
  termination_by structural fuel => fuel

/-- Words up to the end of the line or a semicolon. -/
def parseWords : (fuel : Nat) → List Word → Parser (List Word)
  | 0, found => pure found.reverse
  | fuel + 1, found => do
    match ← readToken (parseInside fuel) with
    | .word _ word => parseWords fuel (word :: found)
    | .newline => pure found.reverse
    | .operator ";" => pure found.reverse
    | token => unexpected token
  termination_by structural fuel => fuel

def parseFor (line : Nat) : (fuel : Nat) → Parser Command
  | 0 => failAt 0 "syntax error"
  | fuel + 1 => do
    let place ← Parser.place
    skipBlanks Parser.fuel
    if ← accept '(' then
      if ← accept '(' then
        let start ← readParts (parseInside fuel) (.expression ";")
        let _ ← next
        let test ← readParts (parseInside fuel) (.expression ";")
        let _ ← next
        let step ← readParts (parseInside fuel) (.expression ")")
        let _ ← next
        let _ ← next
        return .counting line start test step (← parseDo fuel)
    comeBack place
    let (name, ofArgs, words) ← parseChoices fuel
    return .each line name ofArgs words (← parseDo fuel)
  termination_by structural fuel => fuel

/-- The arms of a choice; those found so far come latest first. -/
def parseArms : (fuel : Nat) → List Arm → Parser (List Arm)
  | 0, found => pure found.reverse
  | fuel + 1, found => do
    modify (fun s => { s with takesAssignments := false })
    let token ← skipNewlines (parseInside fuel) Parser.fuel
    if token.isWord "esac" then return found.reverse
    let token ← if token.isOperator "(" then readToken (parseInside fuel) else pure token
    let patterns ← parsePatterns fuel token
    let body ← parseList fuel
    let token ← readToken (parseInside fuel)
    match token with
    | .operator ";;" => parseArms fuel (.mk patterns body .done :: found)
    | .operator ";&" => parseArms fuel (.mk patterns body .next :: found)
    | .operator ";;&" => parseArms fuel (.mk patterns body .goesOn :: found)
    | token =>
      if token.isWord "esac" then pure (.mk patterns body .done :: found).reverse
      else unexpected token
  termination_by structural fuel => fuel

/-- The patterns of an arm, with the bracket behind them. -/
def parsePatterns : (fuel : Nat) → Token → Parser (List Word)
  | 0, _ => pure []
  | fuel + 1, token => do
    match token with
    | .word _ word =>
      match ← readToken (parseInside fuel) with
      | .operator ")" => pure [word]
      | .operator "|" => do
        let next ← readToken (parseInside fuel)
        return word :: (← parsePatterns fuel next)
      | token => unexpected token
    | token => unexpected token
  termination_by structural fuel => fuel

/-- The name and the body of a function. -/
def parseFunction (line : Nat) : (fuel : Nat) → Parser Command
  | 0 => failAt 0 "syntax error"
  | fuel + 1 => do
    modify (fun s => { s with takesAssignments := false })
    match ← readToken (parseInside fuel) with
    | .word source _ => do
      let start ← Parser.place
      let opening ← readToken (parseInside fuel)
      if opening.isOperator "(" then
        let closing ← readToken (parseInside fuel)
        if !closing.isOperator ")" then comeBack start
      else comeBack start
      parseBody line source fuel
    | token => unexpected token
  termination_by structural fuel => fuel

/-- The body of a function. -/
def parseBody (line : Nat) (name : Text) : (fuel : Nat) → Parser Command
  | 0 => failAt 0 "syntax error"
  | fuel + 1 => do
    modify (fun s => { s with takesAssignments := true })
    let token ← skipNewlines (parseInside fuel) Parser.fuel
    if !token.opens then unexpected token
    pushBack token
    return .define line name (← parseCommand fuel)
  termination_by structural fuel => fuel

def parseCoprocess (line : Nat) : (fuel : Nat) → Parser Command
  | 0 => failAt 0 "syntax error"
  | fuel + 1 => do
    let token ← readToken (parseInside fuel)
    let usual := "COPROC".toList
    match token with
    | .word source _ => do
      if token.opens then
        pushBack token
        return .coprocess line usual (← parseCommand fuel)
      let start ← Parser.place
      let next ← readToken (parseInside fuel)
      if next.opens then
        pushBack next
        return .coprocess line source (← parseCommand fuel)
      comeBack start
      pushBack token
      return .coprocess line usual (← parseSimple line fuel [] [] [])
    | token => do
      pushBack token
      return .coprocess line usual (← parseCommand fuel)
  termination_by structural fuel => fuel

/-- Conditions of which one has to hold. -/
def parseCondition : (fuel : Nat) → Parser Condition
  | 0 => failAt 0 "syntax error"
  | fuel + 1 => do
    let first ← parseConjunction fuel
    let token ← skipNewlines (parseInside fuel) Parser.fuel
    if token.isOperator "||" then return .either first (← parseCondition fuel)
    else do
      pushBack token
      pure first
  termination_by structural fuel => fuel

/-- Conditions that all have to hold. -/
def parseConjunction : (fuel : Nat) → Parser Condition
  | 0 => failAt 0 "syntax error"
  | fuel + 1 => do
    let first ← parseTerm fuel
    let token ← skipNewlines (parseInside fuel) Parser.fuel
    if token.isOperator "&&" then return .both first (← parseConjunction fuel)
    else do
      pushBack token
      pure first
  termination_by structural fuel => fuel

def parseTerm : (fuel : Nat) → Parser Condition
  | 0 => failAt 0 "syntax error"
  | fuel + 1 => do
    let token ← skipNewlines (parseInside fuel) Parser.fuel
    match token with
    | .operator "(" => do
      let body ← parseCondition fuel
      let closing ← skipNewlines (parseInside fuel) Parser.fuel
      if !closing.isOperator ")" then badCondition "expected \x60)'" closing
      pure (.group body)
    | .word source word => do
      let name := String.ofList source
      if name = "!" then return .negation (← parseTerm fuel)
      if name = "]]" then badCondition "syntax error in conditional expression" token
      if conditionUnary.contains name then parseUnary token source fuel
      else parseFirst token word fuel
    | token => badCondition ("unexpected token \x60" ++ token.text ++ "' in conditional command") token
  termination_by structural fuel => fuel

/-- What stands behind a word that can be an operator in front of another. -/
def parseUnary (token : Token) (source : Text) : (fuel : Nat) → Parser Condition
  | 0 => failAt 0 "syntax error"
  | fuel + 1 => do
    let start ← Parser.place
    let next ← readToken (parseInside fuel)
    let refused := badCondition ("unexpected argument \x60" ++ next.text
      ++ "' to conditional unary operator") next
    match next with
    | .word operand operandWord =>
      let name := String.ofList operand
      if name = "]]" then refused
      else if conditionBinary.contains name then do
        comeBack start
        parseFirst token [.text source] fuel
      else pure (.unary source operandWord)
    | _ => refused
  termination_by structural fuel => fuel

/-- What stands behind the first word of a condition. -/
def parseFirst (token : Token) (word : Word) : (fuel : Nat) → Parser Condition
  | 0 => failAt 0 "syntax error"
  | fuel + 1 => do
    let start ← Parser.place
    let next ← readToken (parseInside fuel)
    let refused := fun (token : Token) => badCondition ("unexpected token \x60" ++ next.text
      ++ "', conditional binary operator expected") token
    let alone : Parser Condition := do
      comeBack start
      pure (.word word)
    match next with
    | .word operator _ =>
      if conditionBinary.contains (String.ofList operator) then parseComparison word operator fuel
      else if String.ofList operator = "]]" then alone
      else badCondition "conditional binary operator expected" next
    | .redirect .usual "<" => parseComparison word ['<'] fuel
    | .redirect .usual ">" => parseComparison word ['>'] fuel
    | .operator symbol => if ["&&", "||", ")"].contains symbol then alone else refused next
    | _ => refused token
  termination_by structural fuel => fuel

/-- What stands behind an operator between two words. -/
def parseComparison (left : Word) (operator : Text) : (fuel : Nat) → Parser Condition
  | 0 => failAt 0 "syntax error"
  | fuel + 1 => do
    if operator = "=~".toList then
      skipBlanks Parser.fuel
      let (source, word) ← readWord (parseInside fuel) .regex
      if source.isEmpty then
        let token ← readToken (parseInside fuel)
        badCondition ("unexpected argument \x60" ++ token.text
          ++ "' to conditional binary operator") token
      pure (.binary left operator word)
    else
      let outer := (← get).hasGroups
      modify (fun s => { s with hasGroups := true })
      let token ← readToken (parseInside fuel)
      modify (fun s => { s with hasGroups := outer })
      match token with
      | .word source word =>
        if String.ofList source = "]]" then
          badCondition "unexpected argument \x60]]' to conditional binary operator" token
        pure (.binary left operator word)
      | token =>
        badCondition ("unexpected argument \x60" ++ token.text
          ++ "' to conditional binary operator") token
  termination_by structural fuel => fuel

end

/-! ## Scripts -/

/-- What was read at once of a script. -/
inductive ReadLine
  | line (command : Option Command) (isLast : Bool)
  | ended

/-- The rest of a line behind some of its commands. -/
def parseLineFrom : (fuel : Nat) → (first : Option Command) → Parser ReadLine
  | 0, _ => pure .ended
  | fuel + 1, first => do
    modify (fun s => { s with takesAssignments := true })
    let atEnd : Parser Bool := return (← source).symbols.isEmpty
    match ← readToken (parseInside Parser.fuel) with
    | .newline => return .line first (← atEnd)
    | .ended => pure (if first.isSome then .line first true else .ended)
    | token => do
      pushBack token
      let line ← tokenLine
      let command ← parseAndOr Parser.fuel
      match ← readToken (parseInside Parser.fuel) with
      | .operator "&" => parseLineFrom fuel (some (combined first (.background line command)))
      | .operator ";" => parseLineFrom fuel (some (combined first command))
      | .newline => return .line (some (combined first command)) (← atEnd)
      | .ended => pure (.line (some (combined first command)) true)
      | token => unexpected token

def parseLine : Parser ReadLine := do
  modify (fun s => { s with pushed := none, taken := [], count := 0, warnings := [] })
  parseLineFrom fuel none

end Parser

end Slipway.Rich
