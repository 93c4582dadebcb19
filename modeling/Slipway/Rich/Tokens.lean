import Slipway.Rich.Words

/-!
# Reading rich tokens

Tokens are words, assignments, operators and redirections. The documents that redirections announce
are taken out of the lines behind them.
-/

namespace Slipway.Rich

open Shell (Text isNameStart isNameChar isName isBlankChar Symbol)

/-! ## Documents -/

/-- The text of a word without quotes. -/
def wordText : Word → Text
  | [] => []
  | .text text :: rest => text ++ wordText rest
  | .literal text :: rest => text ++ wordText rest
  | .quotes _ parts :: rest => quotedText parts ++ wordText rest
  | .parameter source _ _ _ _ :: rest => source ++ wordText rest
  | _ :: rest => wordText rest
where
  quotedText (parts : Word) : Text :=
    parts.flatMap fun part =>
      match part with
      | .text text => text
      | .literal text => text
      | .parameter source _ _ _ _ => source
      | _ => []

/-- Whether anything in a word is quoted. -/
def isQuoted (word : Word) : Bool :=
  word.any fun part =>
    match part with
    | .literal _ => true
    | .quotes _ _ => true
    | _ => false

/-- The lines of a document up to its delimiter, how many were read, whether the delimiter was
found, and the symbols behind them. Where a backslash joins lines, the next one cannot be the
delimiter. -/
def takeDocument (delimiter : Text) (dropTabs joins : Bool) : (fuel : Nat) → (found : List Text) →
    (joined : Bool) → (count : Nat) → List Symbol → Text × Nat × Bool × List Symbol
  | 0, found, _, count, symbols => (found.reverse.flatten, count, false, symbols)
  | _, found, _, count, [] => (found.reverse.flatten, count, false, [])
  | fuel + 1, found, joined, count, symbols =>
    let (line, ended, rest) := Shell.Parser.takeLine symbols
    let line := if dropTabs && !joined then line.dropWhile (· = '\t') else line
    if line = delimiter && !joined then (found.reverse.flatten, count + 1, true, rest)
    else
      let isJoined := joins && (line.reverse.takeWhile (· = '\\')).length % 2 = 1
      let line := if ended then line ++ ['\n'] else line
      takeDocument delimiter dropTabs joins fuel (line :: found) isJoined (count + 1) rest

namespace Parser

/-- Takes a document out of the lines behind the one that is being read. -/
def cutDocument (delimiter : Text) (dropTabs joins : Bool) : Parser Text := do
  let s ← source
  let (line, after) := Shell.Parser.splitLine none s.symbols
  let (before, after) := Shell.Parser.leadingLines after
  let (body, count, found, rest) := takeDocument delimiter dropTabs joins fuel [] false 0 after
  if !found then
    let warning := "warning: here-document at line " ++ toString s.line
      ++ " delimited by end-of-file (wanted \x60" ++ Text.toString delimiter ++ "')"
    modify (fun l => { l with warnings := (s.line + before + count, warning) :: l.warnings })
  setSource { s with symbols := line ++ Symbol.lines (before + count) :: rest }
  pure body

def pushBack (token : Token) : Parser Unit := modify (fun s => { s with pushed := some token })

/-- Refuses the last token. -/
def unexpected {α : Type} (token : Token) : Parser α := do
  let line := (← get).tokenLine
  match token with
  | .ended => failAt line "syntax error: unexpected end of file"
  | token => failAt line ("syntax error near unexpected token \x60" ++ token.text ++ "'")

section

-- A parser for the commands inside brackets, up to the closing one.
variable (commands : Parser (Option Command))

/-- Skips blanks, and a comment behind them. -/
def skipBlanks : (fuel : Nat) → Parser Unit
  | 0 => pure ()
  | fuel + 1 => do
    match ← next with
    | some ' ' => skipBlanks fuel
    | some '\t' => skipBlanks fuel
    | some '#' => liftM (Shell.Parser.skipComment fuel)
    | c => back c

/-- An operator that begins with a character; longer ones come first. -/
def readOperator (c : Char) : Parser String := do
  let longer (options : List (Char × String)) (otherwise : String) : Parser String := do
    let d ← next
    match d.bind (fun c => options.lookup c) with
    | some symbol => pure symbol
    | none => do
      back d
      pure otherwise
  match c with
  | '&' => do
    let symbol ← longer [('&', "&&"), ('>', "&>")] "&"
    if symbol = "&>" then longer [('>', "&>>")] "&>" else pure symbol
  | '|' => longer [('|', "||"), ('&', "|&")] "|"
  | ';' => do
    let symbol ← longer [(';', ";;"), ('&', ";&")] ";"
    if symbol = ";;" then longer [('&', ";;&")] ";;" else pure symbol
  | '<' => do
    let symbol ← longer [('<', "<<"), ('&', "<&"), ('>', "<>")] "<"
    if symbol = "<<" then longer [('<', "<<<"), ('-', "<<-")] "<<" else pure symbol
  | '>' => longer [('>', ">>"), ('&', ">&"), ('|', ">|")] ">"
  | c => pure (String.ofList [c])

def isRedirectSymbol (symbol : String) : Bool :=
  symbol.toList.head? = some '<' || symbol.toList.head? = some '>' || symbol = "&>"
    || symbol = "&>>"

/-- The word from here on, and the word as it is written. -/
def readWord (place : Place) : Parser (Text × Word) := do
  let count := (← get).count
  let word ← readParts commands place
  pure (← takenSince count, word)

/-- Has what is wrong with something only count for its line. -/
def softening {α : Type} (p : Parser α) : Parser α := fun l s =>
  match p l s with
  | .error e => .error { e with onlyLine := true }
  | result => result

/-- The elements of a list, up to the bracket behind it. -/
def readElements (start : Nat) : (fuel : Nat) → (found : List Element) → Parser (List Element)
  | 0, found => pure found.reverse
  | fuel + 1, found => do
    skipBlanks fuel
    let line ← currentLine
    match ← next with
    | none => missing start ')'
    | some ')' => pure found.reverse
    | some '\n' => readElements start fuel found
    | some '[' => do
      let beginning ← Parser.place
      let subscript ← readParts commands .subscript
      let _ ← next
      let appends ← accept '+'
      if ← accept '=' then
        let (_, value) ← readWord commands .bare
        readElements start fuel (.entry subscript appends value :: found)
      else
        comeBack beginning
        back (some '[')
        let (_, word) ← readWord commands .bare
        readElements start fuel (.word word :: found)
    | some c => do
      let behind ← if c = '<' ∨ c = '>' then peek else pure none
      if endsWord c ∧ behind ≠ some '(' then do
        let symbol ← readOperator c
        modify (fun s => { s with tokenLine := line })
        unexpected (.operator symbol)
      else
        back (some c)
        let (_, word) ← readWord commands .bare
        readElements start fuel (.word word :: found)

/-- The value behind the equals sign of an assignment. -/
def readAssigned : Parser Assigned := do
  let line ← currentLine
  if ← accept '(' then return .list (← softening (readElements commands line fuel []))
  else return .text (← readWord commands .bare).2

/-- An assignment, if one stands here. -/
def readAssignment : Parser (Option Token) := do
  let start ← Parser.place
  let count := (← get).count
  let first ← next
  let none? : Parser (Option Token) := do
    comeBack start
    pure none
  match first with
  | some c =>
    if !isNameStart c then none?
    else do
      let name := c :: (← takeWhile isNameChar fuel [])
      let subscript ← if ← accept '[' then do
          let parts ← readParts commands .subscript
          let _ ← next
          pure (some parts)
        else pure none
      let appends ← accept '+'
      if ← accept '=' then
        let value ← readAssigned commands
        return some (.assignment (← takenSince count) (.mk name subscript appends value))
      else none?
  | none => none?

/-- The redirection that a word in front of its symbol may belong to. -/
def redirectedBy? (source : Text) (word : Word) : Option Redirected :=
  match word with
  | [.text text] =>
    if text ≠ source then none
    else if text.all Char.isDigit then some (.descriptor (Shell.valueOfDigits 10 text))
    else
      match text, text.getLast? with
      | '\x7b' :: name, some '\x7d' => if isName name.dropLast then some (.free name.dropLast) else none
      | _, _ => none
  | _ => none

/-- The next token. -/
def readToken : Parser Token := do
  if let some token := (← get).pushed then
    modify (fun s => { s with pushed := none })
    return token
  skipBlanks fuel
  let line ← currentLine
  modify (fun s => { s with tokenLine := line })
  match ← next with
  | none => do
    back none
    pure .ended
  | some '\n' => pure .newline
  | some c => do
    let behind ← if c = '<' ∨ c = '>' then peek else pure none
    if endsWord c ∧ behind ≠ some '(' then do
      let symbol ← readOperator c
      pure (if isRedirectSymbol symbol then .redirect .usual symbol else .operator symbol)
    else do
      back (some c)
      if (← get).takesAssignments then
        if let some token ← readAssignment commands then return token
      let (source, word) ← readWord commands .bare
      match redirectedBy? source word with
      | none => pure (.word source word)
      | some target =>
        match ← next with
        | some c =>
          if c ≠ '<' ∧ c ≠ '>' then do
            back (some c)
            pure (.word source word)
          else if (← peek) = some '(' then do
            back (some c)
            pure (.word source word)
          else return .redirect target (← readOperator c)
        | none => do
          back none
          pure (.word source word)

/-- The next token that is no line end. -/
def skipNewlines : (fuel : Nat) → Parser Token
  | 0 => pure .ended
  | fuel + 1 => do
    match ← readToken commands with
    | .newline => skipNewlines fuel
    | token => pure token

/-- The document that a redirection announces: its kind, its delimiter, and what it is made of. -/
def readDocument (dropTabs : Bool) : Parser (RedirectKind × Text × Word) := do
  modify (fun s => { s with takesAssignments := false })
  match ← readToken commands with
  | .word source word => do
    let isPlain := isQuoted word
    let delimiter := wordText word
    let text ← cutDocument delimiter dropTabs (!isPlain)
    let kind := RedirectKind.document text delimiter dropTabs
    if isPlain then pure (kind, singleQuoted delimiter, [.literal text])
    else do
      let outer ← Parser.place
      setSource { outer.2 with symbols := text.map Symbol.char }
      let parts ← readParts commands .document
      setSource outer.2
      pure (kind, source, parts)
  | token => unexpected token

/-- A redirection behind its symbol. -/
def readRedirect (target : Redirected) (symbol : String) : Parser Redirect := do
  let outer := (← get).takesAssignments
  let (kind, (source, word)) ← match symbol with
    | "<<" => readDocument commands false
    | "<<-" => readDocument commands true
    | symbol => do
      modify (fun s => { s with takesAssignments := false })
      match ← readToken commands with
      | .word source word =>
        let kind := match symbol with
          | "<" => RedirectKind.input
          | ">" => .output
          | ">|" => .replacing
          | ">>" => .append
          | "<>" => .both
          | "<&" => .copyInput
          | ">&" => .copyOutput
          | "&>" => .all
          | "&>>" => .appendAll
          | _ => .line
        pure (kind, (source, word))
      | token => unexpected token
  modify (fun s => { s with takesAssignments := outer })
  pure (.mk target kind source word)

end

end Parser

end Slipway.Rich
