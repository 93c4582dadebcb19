import Slipway.Rich.Escapes
import Slipway.Rich.Syntax
import Slipway.Shell.Source

/-!
# Reading rich words

Words are read piece by piece, with the quotes and expansions in them. Since a word may hold
commands, all of it depends on a parser for these.
-/

namespace Slipway.Rich

open Shell (Text isNameStart isNameChar isName isBlankChar isSpecialName)

/-! ## Tokens -/

inductive Token
  | ended
  | newline
  | operator (symbol : String)
  | redirect (target : Redirected) (symbol : String)
  /-- A word as it is written, and what it is made of. -/
  | word (source : Text) (word : Word)
  | assignment (source : Text) (assignment : Assignment)

namespace Token

/-- How a token shows in a message. -/
def text : Token → String
  | ended => "end of file"
  | newline => "newline"
  | operator symbol => symbol
  | redirect _ symbol => symbol
  | word source _ => Text.toString source
  | assignment source _ => Text.toString source

def isOperator (symbol : String) : Token → Bool
  | operator s => s = symbol
  | _ => false

/-- Whether a token is this word without quotes. -/
def isWord (name : String) : Token → Bool
  | word source _ => String.ofList source = name
  | _ => false

end Token

/-- What a parser knows besides its source. -/
structure Lookahead where
  /-- A token that is to be read again, and its line. -/
  pushed : Option Token := none
  /-- The line of the last token. -/
  tokenLine : Nat := 1
  /-- The characters that were read, the latest first, and how many there are. -/
  taken : Text := []
  count : Nat := 0
  /-- Whether a word can be an assignment. -/
  takesAssignments : Bool := true
  /-- Whether patterns have groups. -/
  hasGroups : Bool := false
  /-- What the user is to be told of, the latest first. -/
  warnings : List (Nat × String) := []

abbrev Parser (α : Type) := StateT Lookahead (StateT Shell.Source (Except Shell.SyntaxError)) α

namespace Parser

def source : Parser Shell.Source := liftM (m := StateT Shell.Source (Except Shell.SyntaxError)) get

def setSource (s : Shell.Source) : Parser Unit :=
  liftM (m := StateT Shell.Source (Except Shell.SyntaxError)) (set s)

/-- Refuses the script, with the lines of a message. -/
def failAt {α : Type} (line : Nat) (message : String) : Parser α :=
  liftM (m := Except Shell.SyntaxError) (Except.error { message, line })

def currentLine : Parser Nat := return (← source).line

/-- Notes characters that were read. -/
def note (c : Option Char) : Parser Unit :=
  match c with
  | some c => modify (fun s => { s with taken := c :: s.taken, count := s.count + 1 })
  | none => pure ()

/-- The next character, with lines joined by backslashes. -/
def next : Parser (Option Char) := do
  let c ← liftM Shell.Parser.nextJoined
  note c
  if c = some '\n' then liftM Shell.Parser.countLine
  pure c

def nextPlain : Parser (Option Char) := do
  let c ← liftM Shell.Parser.nextChar
  note c
  if c = some '\n' then liftM Shell.Parser.countLine
  pure c

/-- Has a character be read again. -/
def back (c : Option Char) : Parser Unit := do
  liftM (Shell.Parser.unread c)
  match c with
  | some c => do
    let s ← source
    if c = '\n' then setSource { s with line := s.line - 1 }
    modify (fun s => { s with taken := s.taken.drop 1, count := s.count - 1 })
  | none => pure ()

/-- The next character, which stays there. -/
def peek : Parser (Option Char) := do
  let c ← next
  back c
  pure c

/-- Takes the next character if it is this one. -/
def accept (c : Char) : Parser Bool := do
  let d ← next
  if d = some c then pure true
  else do
    back d
    pure false

/-- More than any script has of anything. -/
def fuel : Nat := 100000000

def takeWhile (p : Char → Bool) : (fuel : Nat) → (found : Text) → Parser Text
  | 0, found => pure found.reverse
  | fuel + 1, found => do
    match ← next with
    | some c =>
      if p c then takeWhile p fuel (c :: found)
      else do
        back (some c)
        pure found.reverse
    | none => do
      back none
      pure found.reverse

/-- What was read since so many characters had been read. -/
def takenSince (count : Nat) : Parser Text := do
  let s ← get
  pure (s.taken.take (s.count - count)).reverse

/-- Both parts of what is known, to come back to. -/
def place : Parser (Lookahead × Shell.Source) := return (← get, ← source)

def comeBack (place : Lookahead × Shell.Source) : Parser Unit := do
  set place.1
  setSource place.2

def missing {α : Type} (line : Nat) (closing : Char) : Parser α :=
  failAt line ("unexpected EOF while looking for matching \x60" ++ String.ofList [closing] ++ "'")

/-! ## Quotes -/

/-- The text up to the next single quote. -/
def readSingle (line : Nat) : (fuel : Nat) → (found : Text) → Parser Text
  | 0, found => pure found.reverse
  | fuel + 1, found => do
    match ← nextPlain with
    | none => missing line '\''
    | some '\'' => pure found.reverse
    | some c => readSingle line fuel (c :: found)

/-- The text up to a single quote without a backslash. -/
def readEscaped (line : Nat) : (fuel : Nat) → (found : Text) → Parser Text
  | 0, found => pure found.reverse
  | fuel + 1, found => do
    match ← nextPlain with
    | none => missing line '\''
    | some '\'' => pure found.reverse
    | some '\\' =>
      match ← nextPlain with
      | some d => readEscaped line fuel (d :: '\\' :: found)
      | none => missing line '\''
    | some c => readEscaped line fuel (c :: found)

/-- The text up to the next backquote, without the backslashes that only count there. -/
def readOld (line : Nat) (inQuotes : Bool) : (fuel : Nat) → (found : Text) → Parser Text
  | 0, found => pure found.reverse
  | fuel + 1, found => do
    match ← next with
    | none => missing line '\x60'
    | some '\x60' => pure found.reverse
    | some '\\' =>
      match ← nextPlain with
      | none => missing line '\x60'
      | some c =>
        if c = '\\' ∨ c = '\x60' ∨ c = '$' ∨ (inQuotes ∧ c = '"') then
          readOld line inQuotes fuel (c :: found)
        else readOld line inQuotes fuel (c :: '\\' :: found)
    | some c => readOld line inQuotes fuel (c :: found)

end Parser

/-! ## Places -/

/-- Where parts of words are read. -/
structure Place where
  /-- The characters at which it ends. -/
  ends : Text := []
  /-- Whether it ends where a word does. -/
  endsWord : Bool := false
  /-- Whether characters stand for themselves. -/
  quoted : Bool := false
  singles : Bool := true
  doubles : Bool := true
  /-- Where characters stand for themselves, a backslash does not in front of these. -/
  escapes : Text := "$\x60\"\\".toList
  /-- Brackets that can stand in each other. -/
  nests : Option (Char × Char) := none
  /-- Whether the end of the input ends it. -/
  isOpen : Bool := false

namespace Place

def bare : Place where
  endsWord := true
  isOpen := true

def inQuotes : Place where
  ends := ['"']
  quoted := true
  singles := false
  doubles := false

def document : Place where
  quoted := true
  singles := false
  doubles := false
  escapes := "$\x60\\".toList
  isOpen := true

/-- In an expression with numbers, up to some characters. -/
def expression (ends : String) : Place where
  ends := ends.toList
  quoted := true
  singles := false
  nests := some ('(', ')')

/-- In brackets behind a name. -/
def subscript : Place where
  ends := [']']
  nests := some ('[', ']')

/-- The word of an operation inside braces, which may be in quotes. -/
def braces (inQuotes : Bool) : Place where
  ends := ['\x7d']
  quoted := inQuotes
  singles := !inQuotes
  escapes := "$\x60\"\\\x7d".toList

/-- A pattern inside braces. -/
def pattern (ends : String) : Place where
  ends := ends.toList

/-- A group of patterns. -/
def patterns : Place where
  ends := [')']
  nests := some ('(', ')')

/-- A regular expression, in which brackets have a meaning of their own. -/
def regex : Place where
  endsWord := true
  nests := some ('(', ')')

end Place

/-! ## Pieces -/

/-- A character of a word or a larger part of it. -/
inductive Piece
  | char (c : Char)
  | fixed (c : Char)
  | part (part : Part)

/-- The parts that pieces make up; the latest piece comes first. -/
def gather (pieces : List Piece) : Word :=
  pieces.foldl (fun parts piece =>
    match piece, parts with
    | .char c, .text text :: rest => .text (c :: text) :: rest
    | .char c, _ => .text [c] :: parts
    | .fixed c, .literal text :: rest => .literal (c :: text) :: rest
    | .fixed c, _ => .literal [c] :: parts
    | .part part, _ => part :: parts) []

def endsWord (c : Char) : Bool := " \t\n;&|<>()".toList.contains c

/-- The letters of the changes that have no pattern. -/
def transformLetters : Text := "QEPAKakUuL".toList

namespace Parser

/-- The name of a parameter, or nothing. -/
def readName : Parser Text := do
  match ← next with
  | some c =>
    if isNameStart c then return c :: (← takeWhile isNameChar fuel [])
    else if isDigitChar c then return c :: (← takeWhile isDigitChar fuel [])
    else if isSpecialName c then pure [c]
    else do
      back (some c)
      pure []
  | none => do
    back none
    pure []

section

-- A parser for the commands inside brackets, up to the closing one.
variable (commands : Parser (Option Command))

mutual

/-- Pieces up to the end of the place, the latest first. `depth` brackets are open. The place began
at a line. -/
def readPieces (place : Place) (line : Nat) : (fuel : Nat) → (depth : Nat) →
    (pieces : List Piece) → Parser (List Piece)
  | 0, _, pieces => pure pieces
  | fuel + 1, depth, pieces => do
    let plain := fun (c : Char) => if place.quoted then Piece.fixed c else .char c
    match ← next with
    | none =>
      if place.isOpen ∨ (place.endsWord ∧ depth = 0) then do
        back none
        pure pieces
      else missing line (place.ends.headD ')')
    | some c =>
      if depth = 0 ∧ place.ends.contains c then do
        back (some c)
        pure pieces
      else if c = '\\' then
        match ← nextPlain with
        | none => readPieces place line fuel depth (.fixed '\\' :: pieces)
        | some d =>
          if place.quoted ∧ !place.escapes.contains d then
            readPieces place line fuel depth (.fixed d :: .fixed '\\' :: pieces)
          else readPieces place line fuel depth (.fixed d :: pieces)
      else if c = '\'' ∧ place.singles then do
        let text ← readSingle (← currentLine) fuel []
        let source := '\'' :: text ++ ['\'']
        readPieces place line fuel depth (.part (.quotes (some source) [.literal text]) :: pieces)
      else if c = '"' ∧ place.doubles then do
        let part ← readDouble fuel
        readPieces place line fuel depth (.part part :: pieces)
      else if c = '$' then do
        let piece ← readDollar place fuel
        readPieces place line fuel depth (piece :: pieces)
      else if c = '\x60' then do
        let text ← readOld (← currentLine) place.quoted fuel []
        readPieces place line fuel depth (.part (.textOutput text) :: pieces)
      else if (place.nests.map (·.1)) = some c then
        readPieces place line fuel (depth + 1) (plain c :: pieces)
      else if 0 < depth ∧ (place.nests.map (·.2)) = some c then
        readPieces place line fuel (depth - 1) (plain c :: pieces)
      else if place.quoted then readPieces place line fuel depth (.fixed c :: pieces)
      else
        match ← readSpecial place fuel c with
        | some more => readPieces place line fuel depth (more ++ pieces)
        | none =>
          if place.endsWord ∧ endsWord c ∧ (depth = 0 ∨ c = '\n') then do
            back (some c)
            pure pieces
          else readPieces place line fuel depth (.char c :: pieces)
  termination_by structural fuel => fuel

/-- A group of patterns or the file of a command, which begin with a character and a bracket. The
latest piece comes first. -/
def readSpecial (place : Place) : (fuel : Nat) → (c : Char) → Parser (Option (List Piece))
  | 0, _ => pure none
  | fuel + 1, c => do
    let isFile := (c = '<' ∨ c = '>') ∧ place.endsWord ∧ place.isOpen
    let isGroup := "?*+@!".toList.contains c ∧ (← get).hasGroups
    if !(isFile ∨ isGroup) then return none
    if !(← accept '(') then return none
    if isFile then
      let body ← commands
      return some [.part (.channel (c = '<') body)]
    let line ← currentLine
    let pieces ← readPieces .patterns line fuel 0 []
    let _ ← next
    pure (some (.char ')' :: pieces ++ [.char '(', .char c]))
  termination_by structural fuel => fuel

/-- What is between double quotes, behind the first of them. -/
def readDouble : (fuel : Nat) → Parser Part
  | 0 => pure (.quotes none [])
  | fuel + 1 => do
    let line ← currentLine
    let count := (← get).count
    let pieces ← readPieces .inQuotes line fuel 0 []
    let _ ← next
    let source ← takenSince count
    let parts := gather pieces
    let hasCommands := parts.any fun part => match part with
      | .output _ => true
      | _ => false
    pure (.quotes (if hasCommands then none else some ('"' :: source)) parts)
  termination_by structural fuel => fuel

/-- What stands behind a dollar sign. -/
def readDollar (place : Place) : (fuel : Nat) → Parser Piece
  | 0 => pure (.char '$')
  | fuel + 1 => do
    let count := (← get).count
    let line ← currentLine
    let dollar := if place.quoted then Piece.fixed '$' else .char '$'
    match ← next with
    | some '(' => do
      let start ← Parser.place
      if ← accept '(' then
        let pieces ← readPieces (.expression ")") line fuel 0 []
        let _ ← next
        if ← accept ')' then return .part (.arithmetic (gather pieces))
        comeBack start
      let body ← commands
      pure (.part (.output body))
    | some '\x7b' => readBraced place line count fuel
    | some '[' => do
      let pieces ← readPieces { Place.expression "]" with nests := some ('[', ']') } line fuel 0 []
      let _ ← next
      pure (.part (.arithmetic (gather pieces)))
    | some c =>
      if c = '\'' ∧ !place.quoted ∧ place.singles then do
        let text ← readEscaped line fuel []
        let text := (unescaped quoteEscapes text).1
        let text := text.takeWhile (· ≠ '\x00')
        pure (.part (.quotes (some (singleQuoted text)) [.literal text]))
      else if c = '"' ∧ !place.quoted ∧ place.doubles then
        return .part (← readDouble fuel)
      else if isNameStart c then do
        let name := c :: (← takeWhile isNameChar fuel [])
        pure (.part (.parameter ('$' :: name) name false none .value))
      else if isDigitChar c ∨ isSpecialName c then
        pure (.part (.parameter ['$', c] [c] false none .value))
      else do
        back (some c)
        pure dollar
    | none => do
      back none
      pure dollar
  termination_by structural fuel => fuel

/-- A parameter in braces. -/
def readBraced (place : Place) (line count : Nat) : (fuel : Nat) → Parser Piece
  | 0 => pure (.char '$')
  | fuel + 1 => do
    let finish := fun (name : Text) (indirect : Bool) (subscript : Option Subscript)
        (operation : Operation) => do
      match ← next with
      | some '\x7d' => do
        let written ← takenSince count
        pure (Piece.part (.parameter ('$' :: written) name indirect subscript operation))
      | none => missing line '\x7d'
      | c => do
        back c
        let _ ← readPieces (.braces false) line fuel 0 []
        let _ ← next
        let written ← takenSince count
        pure (.part (.parameter ('$' :: written) name indirect subscript .bad))
    let first ← next
    let second ← peek
    let isName := fun (c : Option Char) => (c.map isNameChar).getD false
    if first = some '#' ∧ (isName second ∨ (second.any isSpecialName)) then
      -- Either the length of a parameter or a parameter of that name with an operation.
      let start ← Parser.place
      let name ← readName
      let subscript ← readSubscript name fuel
      if (← peek) = some '\x7d' then return ← finish name false subscript .length
      if isName second then return ← finish name false subscript .bad
      comeBack start
      let operation ← readOperation place line fuel
      return ← finish ['#'] false none operation
    if first = some '!' ∧ (isName second ∨ second.any (fun c => "@*#".toList.contains c)) then
      let name ← readName
      let start ← Parser.place
      match ← next with
      | some '@' =>
        if (← peek) = some '\x7d' ∧ isName second then
          return ← finish name true none (.names false)
        comeBack start
      | some '*' =>
        if (← peek) = some '\x7d' then return ← finish name true none (.names true)
        comeBack start
      | _ => comeBack start
      let subscript ← readSubscript name fuel
      let operation ← readOperation place line fuel
      match subscript, operation with
      | some (.all star), .value => return ← finish name true none (.keys star)
      | _, _ => return ← finish name true subscript operation
    back first
    let name ← readName
    let subscript ← readSubscript name fuel
    if name.isEmpty then return ← finish name false subscript .bad
    let operation ← readOperation place line fuel
    finish name false subscript operation
  termination_by structural fuel => fuel

/-- What stands in brackets behind a name. -/
def readSubscript (name : Text) : (fuel : Nat) → Parser (Option Subscript)
  | 0 => pure none
  | fuel + 1 => do
    if !isName name then return none
    if !(← accept '[') then return none
    let line ← currentLine
    let pieces ← readPieces .subscript line fuel 0 []
    let _ ← next
    match pieces with
    | [.char '@'] => pure (some (.all false))
    | [.char '*'] => pure (some (.all true))
    | pieces => pure (some (.one (gather pieces)))
  termination_by structural fuel => fuel

/-- What is done with a parameter, up to the brace behind it. -/
def readOperation (place : Place) (line : Nat) : (fuel : Nat) → Parser Operation
  | 0 => pure .bad
  | fuel + 1 => do
    let word := fun (place : Place) => do
      let pieces ← readPieces place line fuel 0 []
      pure (gather pieces)
    let inner := Place.braces place.quoted
    let ofChar := fun (colon : Bool) (c : Char) => do
      let parts ← word inner
      pure (match c with
        | '-' => Operation.default colon parts
        | '=' => .assign colon parts
        | '?' => .fail colon parts
        | _ => .replace colon parts)
    let first ← next
    match first with
    | some '\x7d' => do
      back first
      pure .value
    | some ':' => do
      let second ← next
      match second with
      | some d =>
        if "-=?+".toList.contains d then ofChar true d
        else do
          back second
          let offset ← word (.expression ":\x7d")
          if ← accept ':' then return .slice offset (some (← word (.expression "\x7d")))
          else pure (.slice offset none)
      | none => missing line '\x7d'
    | some '#' => do
      let longest ← accept '#'
      return .trim false longest (← word (.pattern "\x7d"))
    | some '%' => do
      let longest ← accept '%'
      return .trim true longest (← word (.pattern "\x7d"))
    | some '/' => do
      let extent ← if ← accept '/' then pure Extent.all
        else if ← accept '#' then pure .start
        else if ← accept '%' then pure .stop
        else pure .first
      let pattern ← word (.pattern "/\x7d")
      if ← accept '/' then return .substitute extent pattern (← word inner)
      else pure (.substitute extent pattern [])
    | some '^' => do
      let all ← accept '^'
      return .recase .upper all (← word (.pattern "\x7d"))
    | some ',' => do
      let all ← accept ','
      return .recase .lower all (← word (.pattern "\x7d"))
    | some '~' => do
      let all ← accept '~'
      return .recase .swapped all (← word (.pattern "\x7d"))
    | some '@' => do
      let letter ← next
      match letter with
      | some c =>
        if transformLetters.contains c then pure (.transform c)
        else do
          back letter
          pure .bad
      | none => pure .bad
    | some c =>
      if "-=?+".toList.contains c then ofChar false c
      else do
        back first
        pure .bad
    | none => missing line '\x7d'
  termination_by structural fuel => fuel

end

/-- The parts of a word or document from here on. -/
def readParts (place : Place) : Parser Word := do
  let line ← currentLine
  let pieces ← readPieces commands place line fuel 0 []
  pure (gather pieces)

end

end Parser

end Slipway.Rich
