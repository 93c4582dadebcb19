import Slipway.Shell.Tokens

/-!
# Parsing commands

A script is read command by command, since what a command does can change how the next one is
read. Commands hold commands, so each kind of them is parsed with a given parser for what is inside.
-/

namespace Slipway.Shell

/-- The builtins that no function can take the name of. -/
def specialBuiltins : List String :=
  [".", ":", "break", "continue", "eval", "exec", "exit", "export", "local", "readonly", "return",
    "set", "shift", "times", "trap", "unset"]

/-- Whether a word starts with the name of a variable and an equals sign. -/
def isAssignment : Word → Bool
  | .text text :: _ => (splitAssignment? text).isSome
  | _ => false

namespace Parser

def combined (first : Option Command) (second : Command) : Command :=
  match first with
  | some first => .sequence first second
  | none => second

def inBackground : Command → Command
  | .pipeline _ stages => .pipeline true stages
  | .redirected line body redirects => .background line body redirects
  | body => .background 0 body []

def withRedirects (line : Nat) (body : Command) (redirects : List Redirect) : Command :=
  if redirects.isEmpty then body
  else
    match body with
    | .subshell line body _ => .subshell line body redirects
    | body => .redirected line body redirects

/-- What the next word of a command line may be. -/
def atCommand : Checks := { keywords := true, aliases := true }

def behindLineEnds : Checks := { lineEnds := true, keywords := true, aliases := true }

/-- Parsers for the commands inside others. -/
structure Grammar where
  /-- Commands up to what ends a list, which has at least one unless it `mayEnd` at once. -/
  list : (mayEnd : Bool) → Parser (Option Command)
  command : Parser Command

/-- The commands inside an expansion. -/
def Grammar.inner (g : Grammar) (bracket : Bool) : Parser (Option Command) := do
  let body ← g.list true
  if bracket ∧ !(← readToken (fun _ => pure none)).isOperator ")" then expected (.operator ")")
  pure body

section

variable (g : Grammar)

def next : Parser Token := readToken g.inner

/-! ## Redirections -/

/-- The word behind a redirection. A document is taken out of the lines that follow. -/
def parseRedirect : Token → Parser Redirect
  | .redirect descriptor kind dropTabs => do
    if kind = .document then check { delimiter := true }
    match ← next g with
    | .word word =>
      if kind = .document then
        let isFixed := hasQuotes word
        let body ← cutDocument (delimiterText word) dropTabs !isFixed
        if isFixed then pure (.mk descriptor kind [.literal body])
        else
          let outer ← get
          set { outer with symbols := body.map Symbol.char }
          let content ← readWord g.inner true .document
          modify (fun s => { s with
            symbols := outer.symbols, line := outer.line, last := outer.last
            isPushedBack := false })
          pure (.mk descriptor kind content)
      else pure (.mk descriptor kind word)
    | _ => unexpected
  | _ => unexpected

/-- The redirections behind a command. -/
def parseRedirects : (fuel : Nat) → Parser (List Redirect)
  | 0 => pure []
  | fuel + 1 => do
    let token ← next g
    if token.isRedirect then
      let redirect ← parseRedirect g token
      return redirect :: (← parseRedirects fuel)
    else do
      pushBack
      pure []

/-! ## Compound commands -/

/-- A list of at least one command, and the token behind it. -/
def parseBlock (closer : Token) : Parser Command := do
  let body ← g.list false
  let token ← next g
  match body with
  | some body => if token.text = closer.text then pure body else expected closer
  | none => expected closer

/-- A condition and its branches, behind `if` or `elif`. -/
def parseConditional : (fuel : Nat) → Parser Command
  | 0 => unexpected
  | fuel + 1 => do
    let test ← parseBlock g (.keyword "then")
    let yes ← g.list false
    let token ← next g
    match yes with
    | none => expected (.keyword "fi")
    | some yes =>
      if token.isKeyword "elif" then return .conditional test yes (some (← parseConditional fuel))
      else if token.isKeyword "else" then
        return .conditional test yes (some (← parseBlock g (.keyword "fi")))
      else if token.isKeyword "fi" then pure (.conditional test yes none)
      else expected (.keyword "fi")

/-- Words up to another token, which is taken as well. -/
def parseWords : (fuel : Nat) → Parser (List Word)
  | 0 => pure []
  | fuel + 1 => do
    match ← next g with
    | .word word => return word :: (← parseWords fuel)
    | _ => pure []

def parseEach (line : Nat) : Parser Command := do
  let name := match ← next g with
    | .word word => (bareText? word).getD []
    | _ => []
  if !isName name then fail "Bad for loop variable"
  check behindLineEnds
  let token ← next g
  let words ← if token.isKeyword "in" then do
      let words ← parseWords g fuel
      let behind := (← get).last
      if !(behind.isLineEnd || behind.isOperator ";") then unexpected
      pure words
    else do
      if !token.isOperator ";" then pushBack
      pure [[Part.quotes [.parameter ['@'] .value []]]]
  check behindLineEnds
  if !(← next g).isKeyword "do" then expected (.keyword "do")
  let body ← parseBlock g (.keyword "done")
  pure (.each line name words body)

/-- Patterns with bars between them, up to a closing bracket. -/
def parsePatterns : (fuel : Nat) → Token → Parser (List Word)
  | 0, _ => pure []
  | fuel + 1, token => do
    let pattern := token.word?.getD []
    let behind ← next g
    if behind.isOperator "|" then return pattern :: (← parsePatterns fuel (← next g))
    else if behind.isOperator ")" then pure [pattern]
    else expected (.operator ")")

/-- The arms of a choice; the first token of the next one was read. -/
def parseArms : (fuel : Nat) → Token → Parser (List (List Word × Option Command))
  | 0, _ => pure []
  | fuel + 1, token => do
    if token.isKeyword "esac" then pure []
    else
      let token ← if token.isOperator "(" then next g else pure token
      let patterns ← parsePatterns g fuel token
      let body ← g.list true
      check { lineEnds := true, keywords := true }
      let token ← next g
      if token.isKeyword "esac" then pure [(patterns, body)]
      else if token.isOperator ";;" then
        check { lineEnds := true, keywords := true }
        return (patterns, body) :: (← parseArms fuel (← next g))
      else expected (.operator ";;")

def parseChoice (line : Nat) : Parser Command := do
  match ← next g with
  | .word word =>
    check behindLineEnds
    if !(← next g).isKeyword "in" then expected (.keyword "in")
    check { lineEnds := true, keywords := true }
    let arms ← parseArms g fuel (← next g)
    pure (.choose line word arms)
  | _ => expected (.word [])

/-! ## Simple commands -/

def parseFunction (name : Text) : Parser Command := do
  if !isName name || specialBuiltins.contains (String.ofList name) then fail "Bad function name"
  check behindLineEnds
  let line := (← get).line
  return .define line name (← g.command)

/-- Assignments, words and redirections, each with the latest first. -/
def parseSimple (line : Nat) : (fuel : Nat) → (assignments words : List Word) →
    (redirects : List Redirect) → Parser Command
  | 0, _, _, _ => unexpected
  | fuel + 1, assignments, words, redirects => do
    if words.isEmpty then check { aliases := true }
    let token ← next g
    let read := Command.simple line assignments.reverse words.reverse redirects.reverse
    match token with
    | .word word =>
      if words.isEmpty ∧ isAssignment word then
        parseSimple line fuel (word :: assignments) words redirects
      else parseSimple line fuel assignments (word :: words) redirects
    | .redirect _ _ _ => do
      let redirect ← parseRedirect g token
      parseSimple line fuel assignments words (redirect :: redirects)
    | .operator "(" =>
      match assignments, words, redirects with
      | [], [name], [] => do
        if !(← next g).isOperator ")" then expected (.operator ")")
        parseFunction g ((bareText? name).getD [])
      | _, _, _ => do
        pushBack
        pure read
    | _ => do
      pushBack
      pure read

/-! ## Commands -/

/-- The redirections behind a compound command. -/
def parseBehind (line : Nat) (command : Command) : Parser Command := do
  check atCommand
  return withRedirects line command (← parseRedirects g fuel)

def parseCommand : Parser Command := do
  let line := (← get).line
  match ← next g with
  | .keyword "if" => do
    let command ← parseConditional g fuel
    parseBehind g line command
  | .keyword "while" => do
    let test ← parseBlock g (.keyword "do")
    let body ← parseBlock g (.keyword "done")
    parseBehind g line (.loop false test body)
  | .keyword "until" => do
    let test ← parseBlock g (.keyword "do")
    let body ← parseBlock g (.keyword "done")
    parseBehind g line (.loop true test body)
  | .keyword "for" => do
    let command ← parseEach g line
    parseBehind g line command
  | .keyword "case" => do
    let command ← parseChoice g line
    parseBehind g line command
  | .operator "(" => do
    let body ← parseBlock g (.operator ")")
    parseBehind g line (.subshell line body [])
  | .keyword "\x7b" => do
    let body ← parseBlock g (.keyword "\x7d")
    parseBehind g line body
  | .word _ => do
    pushBack
    parseSimple g line fuel [] [] []
  | .redirect _ _ _ => do
    pushBack
    parseSimple g line fuel [] [] []
  | _ => unexpected

/-! ## Lists -/

def parseStages : (fuel : Nat) → Parser (List Command)
  | 0 => unexpected
  | fuel + 1 => do
    let stage ← parseCommand g
    if (← next g).isOperator "|" then
      check behindLineEnds
      return stage :: (← parseStages fuel)
    else do
      pushBack
      pure [stage]

def parsePipeline : Parser Command := do
  let isNegated := (← next g).isKeyword "!"
  if isNegated then check atCommand else pushBack
  let command := match ← parseStages g fuel with
    | [stage] => stage
    | stages => .pipeline false stages
  pure (if isNegated then .negation command else command)

def parseAndOrRest : (fuel : Nat) → (first : Command) → Parser Command
  | 0, first => pure first
  | fuel + 1, first => do
    let token ← next g
    if token.isOperator "&&" ∨ token.isOperator "||" then
      check behindLineEnds
      let second ← parsePipeline g
      parseAndOrRest fuel
        (if token.isOperator "&&" then .andThen first second else .orElse first second)
    else do
      pushBack
      pure first

def parseAndOr : Parser Command := do
  let first ← parsePipeline g
  parseAndOrRest g fuel first

/-- Commands up to what ends a list. It may end before its first command only where `mayEnd`. -/
def parseListFrom : (fuel : Nat) → (first : Option Command) → (mayEnd : Bool) →
    Parser (Option Command)
  | 0, first, _ => pure first
  | fuel + 1, first, mayEnd => do
    check behindLineEnds
    let token ← next g
    pushBack
    match token with
    | .endOfInput => pure first
    | token =>
      if mayEnd && token.endsList then pure first
      else
        let command ← parseAndOr g
        match ← next g with
        | .operator "&" => parseListFrom fuel (some (combined first (inBackground command))) true
        | .operator ";" => parseListFrom fuel (some (combined first command)) true
        | .lineEnd => do
          pushBack
          parseListFrom fuel (some (combined first command)) true
        | _ => do
          pushBack
          pure (some (combined first command))

end

/-- Parsers for commands in which others are nested only so deep. -/
def grammar : (depth : Nat) → Grammar
  | 0 => { list := fun _ => unexpected, command := unexpected }
  | depth + 1 => {
      list := fun mayEnd s => parseListFrom (grammar depth) fuel none mayEnd s
      command := fun s => parseCommand (grammar depth) s }

/-- More than commands are ever nested. -/
def maxNesting : Nat := 100000

/-! ## Lines -/

/-- A line of commands as it is read. -/
inductive ReadLine
  /-- Nothing was left to read. -/
  | ended
  /-- The commands of a line, and whether the input ends behind them. -/
  | line (command : Option Command) (isLast : Bool)

/-- Commands up to the end of a line. -/
def parseLineFrom (g : Grammar) : (fuel : Nat) → (first : Option Command) → Parser ReadLine
  | 0, _ => pure .ended
  | fuel + 1, first => do
    check atCommand
    match ← next g with
    | .lineEnd => pure (.line first false)
    | .endOfInput =>
      match first with
      | none => pure .ended
      | some _ => pure (.line first true)
    | _ => do
      pushBack
      let command ← parseAndOr g
      match ← next g with
      | .operator "&" => parseLineFrom g fuel (some (combined first (inBackground command)))
      | .operator ";" => parseLineFrom g fuel (some (combined first command))
      | .lineEnd => pure (.line (some (combined first command)) false)
      | .endOfInput => pure (.line (some (combined first command)) true)
      | _ => unexpected

def parseLine : Parser ReadLine := do
  modify (fun s => { s with isPushedBack := false, checks := {} })
  parseLineFrom (grammar maxNesting) fuel none

end Parser

end Slipway.Shell
