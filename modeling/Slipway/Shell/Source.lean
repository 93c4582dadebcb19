import Slipway.Shell.Syntax

/-!
# The source of a script

Reading the characters of a script one by one. An alias puts its text before what is still to be
read; the place where that text ends is marked, since an alias is not replaced inside itself.
-/

namespace Slipway.Shell

inductive Symbol
  | char (c : Char)
  /-- The text of an alias ends here, and with it those of aliases at whose ends it was put in.
  Behind a blank the next word may be an alias as well. -/
  | aliasEnd (names : List Text) (blank : Bool)
  /-- Lines were taken out here. -/
  | lines (count : Nat)

/-- What the next token is looked at for. -/
structure Checks where
  /-- Line ends in front of it are skipped. -/
  lineEnds : Bool := false
  keywords : Bool := false
  aliases : Bool := false
  /-- It ends a document, so nothing in it is expanded. -/
  delimiter : Bool := false

inductive Token
  | endOfInput
  | lineEnd
  | redirect (descriptor : Nat) (kind : RedirectKind) (dropTabs : Bool)
  | word (word : Word)
  | operator (symbol : String)
  | keyword (name : String)

structure Source where
  symbols : List Symbol
  line : Nat := 1
  aliases : List (Text × Text) := []
  /-- The aliases whose texts are being read. -/
  inUse : List Text := []
  /-- Those of them whose texts ended in front of the last character. -/
  ended : List Text := []
  /-- How many of the characters to come were read before. -/
  known : Nat := 0
  checks : Checks := {}
  last : Token := .endOfInput
  /-- Whether the last token is to be read again. -/
  isPushedBack : Bool := false

structure SyntaxError where
  message : String
  line : Nat
  /-- Whether a script can go on behind the line. -/
  onlyLine : Bool := false

abbrev Parser (α : Type) := StateT Source (Except SyntaxError) α

def Source.ofText (aliases : List (Text × Text)) (text : Text) : Source :=
  { symbols := text.map .char, aliases }

/-- Aliases whose texts have ended can be replaced again, once more is read than what shows that they
have. -/
def Source.release (s : Source) : Source :=
  if s.known ≠ 0 then { s with known := s.known - 1 }
  else if s.ended.isEmpty then s
  else { s with inUse := s.inUse.filter (fun name => !s.ended.contains name), ended := [] }

namespace Parser

def fail {α : Type} (message : String) : Parser α := do
  throw { message, line := (← get).line }

/-! ## Characters -/

def nextOf (s : Source) : List Symbol → Option Char × Source
  | [] => (none, { s with symbols := [] })
  | .char c :: rest => (some c, { s with symbols := rest })
  | .aliasEnd names blank :: rest =>
    nextOf { s with
      ended := names
      checks := { s.checks with aliases := s.checks.aliases || blank } } rest
  | .lines count :: rest => nextOf { s with line := s.line + count } rest

/-- The next character, or none at the end. -/
def nextChar : Parser (Option Char) := fun s => .ok (nextOf s.release s.symbols)

def unread (c : Option Char) : Parser Unit :=
  match c with
  | some c => modify (fun s => { s with symbols := .char c :: s.symbols, known := s.known + 1 })
  | none => modify (fun s => { s with known := s.known + 1 })

def countLine : Parser Unit := modify (fun s => { s with line := s.line + 1 })

/-- More than any script has of anything. -/
def fuel : Nat := 100000000

/-- The next character, where a backslash in front of a line end joins two lines. -/
def joinedFrom : (fuel : Nat) → Parser (Option Char)
  | 0 => pure none
  | fuel + 1 => do
    match ← nextChar with
    | some '\\' =>
      match ← nextChar with
      | some '\n' => do
        countLine
        joinedFrom fuel
      | c => do
        unread c
        pure (some '\\')
    | c => pure c

def nextJoined : Parser (Option Char) := joinedFrom fuel

def joinedWhile (p : Char → Bool) : (fuel : Nat) → (found : Text) → Parser Text
  | 0, found => pure found.reverse
  | fuel + 1, found => do
    match ← nextJoined with
    | some c =>
      if p c then joinedWhile p fuel (c :: found)
      else do
        unread (some c)
        pure found.reverse
    | none => do
      unread none
      pure found.reverse

/-- Skips a comment up to the end of its line. -/
def skipComment : (fuel : Nat) → Parser Unit
  | 0 => pure ()
  | fuel + 1 => do
    match ← nextChar with
    | some '\n' => unread (some '\n')
    | none => pure ()
    | some _ => skipComment fuel

/-- The text up to the next single quote. -/
def readQuoted : (fuel : Nat) → (found : Text) → Parser Text
  | 0, found => pure found.reverse
  | fuel + 1, found => do
    match ← nextChar with
    | none => fail "Unterminated quoted string"
    | some '\'' => pure found.reverse
    | some c => do
      if c = '\n' then countLine
      readQuoted fuel (c :: found)

/-- The text up to the next backquote. A backslash only counts in front of some characters. -/
def readBackquoted (inQuotes : Bool) : (fuel : Nat) → (found : Text) → Parser Text
  | 0, found => pure found.reverse
  | fuel + 1, found => do
    match ← nextJoined with
    | none => fail "EOF in backquote substitution"
    | some '\x60' => pure found.reverse
    | some '\\' =>
      match ← nextChar with
      | none => fail "EOF in backquote substitution"
      | some c =>
        if c = '\\' ∨ c = '\x60' ∨ c = '$' ∨ (inQuotes ∧ c = '"') then
          readBackquoted inQuotes fuel (c :: found)
        else readBackquoted inQuotes fuel (c :: '\\' :: found)
    | some c => do
      if c = '\n' then countLine
      readBackquoted inQuotes fuel (c :: found)

/-! ## Documents -/

/-- The symbols up to the end of the line, and those behind it. A line end in quotes is none. -/
def splitLine : (quote : Option Char) → List Symbol → List Symbol × List Symbol
  | _, [] => ([], [])
  | quote, .char '\\' :: .char c :: rest =>
    if quote = some '\'' then
      let (line, after) := splitLine (if c = '\'' then none else quote) rest
      (.char '\\' :: .char c :: line, after)
    else
      let (line, after) := splitLine quote rest
      (.char '\\' :: .char c :: line, after)
  | none, .char '\n' :: rest => ([.char '\n'], rest)
  | quote, .char c :: rest =>
    let quote := match quote with
      | none => if c = '\'' ∨ c = '"' then some c else none
      | some q => if c = q then none else some q
    let (line, after) := splitLine quote rest
    (.char c :: line, after)
  | quote, symbol :: rest =>
    let (line, after) := splitLine quote rest
    (symbol :: line, after)

/-- The characters of one line, and the symbols behind it. -/
def takeLine : List Symbol → Text × Bool × List Symbol
  | [] => ([], false, [])
  | .char '\n' :: rest => ([], true, rest)
  | .char c :: rest =>
    let (line, ended, after) := takeLine rest
    (c :: line, ended, after)
  | _ :: rest => takeLine rest

/-- The lines of a document up to its delimiter, how many were read, and the symbols behind them.
Where a backslash joins lines, the next one cannot be the delimiter. -/
def takeDocument (delimiter : Text) (dropTabs joins : Bool) : (fuel : Nat) → (found : List Text) →
    (joined : Bool) → (count : Nat) → List Symbol → Text × Nat × List Symbol
  | 0, found, _, count, symbols => (found.reverse.flatten, count, symbols)
  | _, found, _, count, [] => (found.reverse.flatten, count, [])
  | fuel + 1, found, joined, count, symbols =>
    let (line, ended, rest) := takeLine symbols
    let line := if dropTabs && !joined then line.dropWhile (· = '\t') else line
    if line = delimiter && !joined then (found.reverse.flatten, count + 1, rest)
    else
      let joins' := joins && (line.reverse.takeWhile (· = '\\')).length % 2 = 1
      let line := if ended then line ++ ['\n'] else line
      takeDocument delimiter dropTabs joins fuel (line :: found) joins' (count + 1) rest

/-- The count of the lines that were taken out at the start, and the symbols behind that place. -/
def leadingLines : List Symbol → Nat × List Symbol
  | .lines count :: rest =>
    let (more, rest) := leadingLines rest
    (count + more, rest)
  | symbols => (0, symbols)

/-- Takes a document out of the lines behind the one that is being read. -/
def cutDocument (delimiter : Text) (dropTabs joins : Bool) : Parser Text := do
  let s ← get
  let (line, after) := splitLine none s.symbols
  let (before, after) := leadingLines after
  let (body, count, rest) := takeDocument delimiter dropTabs joins fuel [] false 0 after
  set { s with symbols := line ++ Symbol.lines (before + count) :: rest }
  pure body

end Parser

end Slipway.Shell
