import Slipway.Shell.Source

/-!
# Reading words and tokens

Words are read piece by piece, with the quotes and expansions in them. Since a word may hold
commands, all of it depends on a parser for these.
-/

namespace Slipway.Shell

/-! ## Words -/

/-- Where parts of words are read. -/
inductive Place
  | bare
  /-- In double quotes. -/
  | quotes
  | braces
  /-- In braces that are in double quotes. -/
  | quotedBraces
  /-- In double quotes that are in braces. -/
  | bracedQuotes
  | document
  | sum
  | delimiter
  deriving DecidableEq

namespace Place

/-- Whether characters stand for themselves there. -/
def isQuoted : Place → Bool
  | bare => false
  | braces => false
  | delimiter => false
  | _ => true

/-- The characters that a backslash takes their meaning from, where it is kept before others. -/
def escapes : Place → Text
  | quotes => "\\`$\"".toList
  | sum => "\\`$\"".toList
  | document => "\\`$".toList
  | _ => "\\`$\"\x7d".toList

/-- The place inside braces that stand in this place. -/
def inBraces (place : Place) (isPattern : Bool) : Place :=
  if isPattern || !place.isQuoted then braces else quotedBraces

end Place

/-- A character of a word or a larger part of it. -/
inductive Piece
  | char (c : Char)
  | fixed (c : Char)
  | part (part : Part)

/-- The parts that pieces make up; the latest piece comes first. -/
def gather (pieces : List Piece) : Word :=
  pieces.foldl (fun parts piece =>
    match piece, parts with
    | .char c, .text text :: rest => .text (c :: text) :: rest
    | .char c, _ => .text [c] :: parts
    | .fixed c, .literal text :: rest => .literal (c :: text) :: rest
    | .fixed c, _ => .literal [c] :: parts
    | .part part, _ => part :: parts) []

def endsWord (c : Char) : Bool := " \t\n;&|<>()".toList.contains c

/-! ## Tokens -/

def keywords : List String :=
  ["!", "case", "do", "done", "elif", "else", "esac", "fi", "for", "if", "in", "then", "until",
    "while", "\x7b", "\x7d"]

namespace Token

def isOperator (symbol : String) : Token → Bool
  | operator s => s = symbol
  | _ => false

def isKeyword (name : String) : Token → Bool
  | keyword s => s = name
  | _ => false

def isLineEnd : Token → Bool
  | lineEnd => true
  | _ => false

def isRedirect : Token → Bool
  | redirect _ _ _ => true
  | _ => false

/-- How a token shows in a message. -/
def text : Token → String
  | endOfInput => "end of file"
  | lineEnd => "newline"
  | redirect _ _ _ => "redirection"
  | word _ => "word"
  | operator symbol => "\"" ++ symbol ++ "\""
  | keyword name => "\"" ++ name ++ "\""

/-- Whether a list of commands can end in front of the token. -/
def endsList : Token → Bool
  | endOfInput => true
  | operator symbol => [")", ";;"].contains symbol
  | keyword name =>
    ["do", "done", "elif", "else", "esac", "fi", "then", "\x7d"].contains name
  | _ => false

def word? : Token → Option Word
  | word w => some w
  | keyword name => some [.text name.toList]
  | _ => none

end Token

namespace Parser

def pushBack : Parser Unit := modify (fun s => { s with isPushedBack := true })

def check (checks : Checks) : Parser Unit := modify (fun s => { s with checks })

def unexpected {α : Type} : Parser α := do fail ((← get).last.text ++ " unexpected")

def expected {α : Type} (token : Token) : Parser α := do
  fail ((← get).last.text ++ " unexpected (expecting " ++ token.text ++ ")")

def remember (token : Token) : Parser Token := do
  modify (fun s => { s with last := token })
  pure token

/-- The operator that begins with a character, which may be doubled. -/
def readDouble (c : Char) : Parser Token := do
  match ← nextJoined with
  | some d =>
    if c = d then remember (.operator (String.ofList [c, c]))
    else do
      unread (some d)
      remember (.operator (String.ofList [c]))
  | none => remember (.operator (String.ofList [c]))

/-- A redirection whose first character was read. -/
def readRedirect (c : Char) (descriptor : Option Nat) : Parser Token := do
  let other := fun (d : Option Char) (kind : RedirectKind) => do
    unread d
    pure kind
  if c = '>' then
    let kind ← match ← nextJoined with
      | some '>' => pure .append
      | some '|' => pure .replacing
      | some '&' => pure .copy
      | d => other d .output
    remember (.redirect (descriptor.getD 1) kind false)
  else
    let descriptor := descriptor.getD 0
    match ← nextJoined with
    | some '<' =>
      match ← nextJoined with
      | some '-' => remember (.redirect descriptor .document true)
      | d => do
        unread d
        remember (.redirect descriptor .document false)
    | some '&' => remember (.redirect descriptor .copy false)
    | some '>' => remember (.redirect descriptor .both false)
    | d => do
      unread d
      remember (.redirect descriptor .input false)

/-- The operator behind a parameter's name in braces. -/
def readOperator : Parser Operator := do
  let doubled := fun (c : Char) (operator : Bool → Operator) => do
    match ← nextJoined with
    | some d =>
      if d = c then pure (operator true)
      else do
        unread (some d)
        pure (operator false)
    | none => pure (operator false)
  let simple := fun (colon : Bool) (c : Option Char) =>
    match c with
    | some '-' => Operator.default colon
    | some '+' => .replace colon
    | some '?' => .fail colon
    | some '=' => .assign colon
    | _ => .unknown
  match ← nextJoined with
  | some '\x7d' => pure .value
  | some ':' =>
    match ← nextJoined with
    | some '\x7d' => pure .unknown
    | c => pure (simple true c)
  | some '#' => doubled '#' .dropStart
  | some '%' => doubled '%' .dropEnd
  | c => pure (simple false c)

/-- The name of a parameter in braces, and its operator if that stands in front of the name or
cannot be told yet. -/
def readBracedName : Parser (Text × Option Operator) := do
  match ← nextJoined with
  | none => pure ([], some .unknown)
  | some c =>
    if isNameStart c then return (c :: (← joinedWhile isNameChar fuel []), none)
    else if c.isDigit then return (c :: (← joinedWhile Char.isDigit fuel []), none)
    else if c = '\x7d' then do
      unread (some c)
      pure ([], some .unknown)
    else if c = '#' then readLength
    else if isSpecialName c then pure ([c], none)
    else pure ([], some .unknown)
where
  /-- Behind a `#`, which asks for a length, or is a name itself. -/
  readLength : Parser (Text × Option Operator) := do
    match ← nextJoined with
    | none => pure (['#'], none)
    | some c =>
      if isNameStart c then return (c :: (← joinedWhile isNameChar fuel []), some .length)
      else if c.isDigit then return (c :: (← joinedWhile Char.isDigit fuel []), some .length)
      else
        match ← nextJoined with
        | some '\x7d' =>
          if c ≠ '\x7d' ∧ isSpecialName c then do
            unread (some '\x7d')
            pure ([c], some .length)
          else do
            unread (some '\x7d')
            if c = '\x7d' then
              unread (some c)
              pure (['#'], none)
            else pure ([], some .unknown)
        | d => do
          unread d
          unread (some c)
          pure (['#'], none)

/-- What an end of the input in a place means. -/
def endIn {α : Type} (inDocument : Bool) (place : Place) : Parser α :=
  match place with
  | .sum => fail "Missing '))'"
  | .braces => fail "Missing '\x7d'"
  | _ => if inDocument then fail "Missing '\x7d'" else fail "Unterminated quoted string"

/-- The text of a word for the end of a document. -/
def delimiterText : Word → Text
  | [] => []
  | .text text :: rest => text ++ delimiterText rest
  | .literal text :: rest => text ++ delimiterText rest
  | .quotes parts :: rest => literalText parts ++ delimiterText rest
  | _ :: rest => delimiterText rest
where
  literalText (parts : Word) : Text :=
    parts.flatMap fun part =>
      match part with
      | .text text => text
      | .literal text => text
      | _ => []

/-! ## Reading words -/

section

-- A parser for the commands inside an expansion, up to a closing bracket or the end.
variable (commands : (bracket : Bool) → Parser (Option Command))

/-- A command between backquotes, which is read as a script of its own. -/
def readOldOutput (inQuotes : Bool) : Parser Piece := do
  let text ← readBackquoted inQuotes fuel []
  let outer ← get
  set { outer with symbols := text.map Symbol.char, line := 1 }
  let body ← commands false
  modify (fun s => { s with symbols := outer.symbols, line := outer.line, isPushedBack := false })
  pure (.part (.output body))

mutual

/-- Pieces up to the end of the place, the latest first. A quote or brace at the end is taken.
`depth` brackets are open in a sum. -/
def readPieces (inDocument : Bool) (place : Place) : (fuel : Nat) → (depth : Nat) →
    (pieces : List Piece) → Parser (List Piece)
  | 0, _, pieces => pure pieces
  | fuel + 1, depth, pieces => do
    let plain := fun (c : Char) => if place.isQuoted then Piece.fixed c else .char c
    match ← nextJoined with
    | none =>
      if place = .bare ∨ place = .document ∨ place = .delimiter then do
        unread none
        pure pieces
      else endIn inDocument place
    | some c =>
      if c = '\\' then
        match ← nextChar with
        | none => readPieces inDocument place fuel depth (.fixed '\\' :: pieces)
        | some d =>
          if place.isQuoted ∧ !place.escapes.contains d then
            readPieces inDocument place fuel depth (.fixed d :: .fixed '\\' :: pieces)
          else readPieces inDocument place fuel depth (.fixed d :: pieces)
      else if c = '\'' ∧ !place.isQuoted then do
        let text ← readQuoted fuel []
        readPieces inDocument place fuel depth (.part (.quotes [.literal text]) :: pieces)
      else if c = '"' ∧ (place = .quotes ∨ place = .bracedQuotes) then pure pieces
      else if c = '"' ∧ place ≠ .document ∧ place ≠ .sum then do
        let inner := if place = .bare ∨ place = .delimiter then Place.quotes else .bracedQuotes
        let parts ← readPieces inDocument inner fuel 0 []
        readPieces inDocument place fuel depth (.part (.quotes (gather parts)) :: pieces)
      else if c = '\x7d' ∧ (place = .braces ∨ place = .quotedBraces) then pure pieces
      else if c = '$' ∧ place ≠ .delimiter then do
        let piece ← readDollar inDocument place fuel
        readPieces inDocument place fuel depth (piece :: pieces)
      else if c = '`' ∧ place ≠ .delimiter then do
        let piece ← readOldOutput commands place.isQuoted
        readPieces inDocument place fuel depth (piece :: pieces)
      else if c = '(' ∧ place = .sum then
        readPieces inDocument place fuel (depth + 1) (plain c :: pieces)
      else if c = ')' ∧ place = .sum then
        if 0 < depth then readPieces inDocument place fuel (depth - 1) (plain c :: pieces)
        else
          match ← nextJoined with
          | some ')' => pure pieces
          | d => do
            unread d
            readPieces inDocument place fuel depth (plain c :: pieces)
      else if (place = .bare ∨ place = .delimiter) ∧ endsWord c then do
        unread (some c)
        pure pieces
      else do
        if c = '\n' then countLine
        readPieces inDocument place fuel depth (plain c :: pieces)

/-- What stands behind a dollar sign. -/
def readDollar (inDocument : Bool) (place : Place) : (fuel : Nat) → Parser Piece
  | 0 => pure (.char '$')
  | fuel + 1 => do
    match ← nextJoined with
    | some '(' =>
      match ← nextJoined with
      | some '(' => return .part (.arithmetic (gather (← readPieces inDocument .sum fuel 0 [])))
      | c => do
        unread c
        pure (.part (.output (← commands true)))
    | some '\x7b' => readBraced inDocument place fuel
    | some c =>
      if isNameStart c then
        return .part (.parameter (c :: (← joinedWhile isNameChar fuel [])) .value [])
      else if c.isDigit ∨ isSpecialName c then pure (.part (.parameter [c] .value []))
      else do
        unread (some c)
        pure (if place.isQuoted then .fixed '$' else .char '$')
    | none => pure (if place.isQuoted then .fixed '$' else .char '$')

/-- A parameter in braces. -/
def readBraced (inDocument : Bool) (place : Place) : (fuel : Nat) → Parser Piece
  | 0 => pure (.char '$')
  | fuel + 1 => do
    let (name, early) ← readBracedName
    match early with
    | none =>
      match ← readOperator with
      | .value => pure (.part (.parameter name .value []))
      | operator =>
        let isPattern := match operator with
          | .dropStart _ => true
          | .dropEnd _ => true
          | _ => false
        let word ← readPieces inDocument (place.inBraces isPattern) fuel 0 []
        pure (.part (.parameter name operator (gather word)))
    | some operator =>
      let word ← readPieces inDocument (place.inBraces false) fuel 0 []
      pure (.part (.parameter name (if word.isEmpty then operator else .unknown) []))

end

/-- The pieces of a word or document from here on. -/
def readWord (inDocument : Bool) (place : Place) : Parser Word :=
  return gather (← readPieces commands inDocument place fuel 0 [])

/-! ## Reading tokens -/

/-- The descriptor that a word in front of a redirection names, if it can be one. -/
def descriptorOf? : Word → Option (Option Nat)
  | [] => some none
  | [.text [d]] => if d.isDigit then some (some (d.toNat - '0'.toNat)) else none
  | _ => none

/-- A token, whatever it may mean. -/
def readRaw : (fuel : Nat) → Parser Token
  | 0 => pure .endOfInput
  | fuel + 1 => do
    if (← get).isPushedBack then
      modify (fun s => { s with isPushedBack := false })
      return (← get).last
    match ← nextJoined with
    | none => remember .endOfInput
    | some ' ' => readRaw fuel
    | some '\t' => readRaw fuel
    | some '#' => do
      skipComment fuel
      readRaw fuel
    | some '\n' => do
      countLine
      remember .lineEnd
    | some '&' => readDouble '&'
    | some '|' => readDouble '|'
    | some ';' => readDouble ';'
    | some '(' => remember (.operator "(")
    | some ')' => remember (.operator ")")
    | some c => do
      unread (some c)
      let word ← readWord commands false
        (if (← get).checks.delimiter then Place.delimiter else .bare)
      let next ← nextJoined
      match next, descriptorOf? word with
      | some '>', some descriptor => readRedirect '>' descriptor
      | some '<', some descriptor => readRedirect '<' descriptor
      | _, _ => do
        unread next
        remember (.word word)

/-- The next token that is no line end. -/
def skipLineEnds : (fuel : Nat) → Token → Parser Token
  | 0, token => pure token
  | fuel + 1, token =>
    match token with
    | .lineEnd => do
      check {}
      let token ← readRaw commands fuel
      skipLineEnds fuel token
    | _ => pure token

/-- A token, with keywords and aliases recognised where they are checked for. -/
def readTokenFrom : (fuel : Nat) → Parser Token
  | 0 => pure .endOfInput
  | fuel + 1 => do
    let wanted := (← get).checks
    let token ← readRaw commands fuel
    let token ← if wanted.lineEnds then skipLineEnds commands fuel token else pure token
    let late := (← get).checks
    let wanted := { wanted with
      keywords := wanted.keywords || late.keywords
      aliases := wanted.aliases || late.aliases }
    check {}
    match token with
    | .word word =>
      match bareText? word with
      | none => pure token
      | some name =>
        if wanted.keywords ∧ keywords.contains (String.ofList name) then
          remember (.keyword (String.ofList name))
        else
          let s ← get
          match s.aliases.lookup name with
          | none => pure token
          | some value =>
            if wanted.aliases ∧ !s.inUse.contains name then
              if !value.isEmpty then
                let blank := (value.getLast?.map isBlankChar).getD false
                set { s with
                  symbols := value.map Symbol.char
                    ++ Symbol.aliasEnd (name :: s.ended) blank :: s.symbols
                  inUse := name :: s.inUse
                  ended := []
                  known := 0 }
              check wanted
              readTokenFrom fuel
            else pure token
    | _ => pure token

def readToken : Parser Token := readTokenFrom commands fuel

end

end Parser

end Slipway.Shell
