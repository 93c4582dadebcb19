import Slipway.Regex.Parser
import Slipway.Tool.Lines

/-!
# Scripts of the stream editor

A script is a list of commands, each with the lines that it is meant for.
-/

namespace Slipway.Tool.Editing

open Shell

/-- An expression, or the one that was used last. -/
structure Pattern where
  regex : Option Regex
  settings : Regex.Settings := {}

inductive Address
  | line (number : Nat)
  | last
  | every (first step : Nat)
  | pattern (pattern : Pattern)

/-- Where a range of lines ends. -/
inductive RangeEnd
  | at (address : Address)
  | after (lines : Nat)
  | multiple (number : Nat)

/-- The lines that a command is meant for. -/
structure Selection where
  first : Option Address := none
  /-- The range begins before the first line. -/
  fromStart : Bool := false
  stop : Option RangeEnd := none
  negated : Bool := false

/-- How letters are changed from here on. -/
inductive CaseChange
  | upper
  | lower
  | keep
  | upperOne
  | lowerOne
  deriving DecidableEq

inductive Piece
  | char (c : Char)
  | group (number : Nat)
  | change (change : CaseChange)

structure Substitution where
  pattern : Pattern
  replacement : List Piece
  /-- The number of the match that is replaced first. -/
  number : Nat := 1
  isGlobal : Bool := false
  prints : Bool := false
  file : Option Text := none

inductive Action
  | begin (stop : Nat)
  | stop
  | label
  | branch (label : Text)
  | branchIf (label : Text)
  | branchUnless (label : Text)
  | substitute (s : Substitution)
  | translate (table : List (Char × Char))
  | append (text : Text)
  | insert (text : Text)
  | change (text : Text)
  | delete
  | deleteFirst
  | print
  | printFirst
  | next
  | addNext
  | hold
  | addHold
  | get
  | addGet
  | exchange
  | quit (code : Nat)
  | quitSilently (code : Nat)
  | number
  | list (width : Option Nat)
  | readFile (name : Text)
  | writeFile (name : Text)
  | fileName
  | empty

structure Command where
  selection : Selection
  action : Action

structure Script where
  commands : Array Command := #[]
  labels : List (Text × Nat) := []
  /-- The places of blocks that are open, the latest first. -/
  openBlocks : List Nat := []

/-! ## Reading -/

/-- What is wrong with a script, and how much of it was read then. -/
structure Problem where
  text : String
  /-- The length of what was not read. -/
  left : Nat
  atStart : Bool := false

abbrev Reader := Except Problem

def refuse {α : Type} (text : String) (rest : Text) : Reader α := .error { text, left := rest.length }

def isBlank (c : Char) : Bool := c = ' ' || c = '\t'

def skipBlanks (text : Text) : Text := text.dropWhile isBlank

def skipSpace (text : Text) : Text := text.dropWhile isSpaceChar

/-- The rest of a set in brackets, with its closing bracket. -/
def spanSet (text : Text) : Option (Text × Text) :=
  let start := match text with
    | '^' :: ']' :: _ => 2
    | '^' :: _ => 1
    | ']' :: _ => 1
    | _ => 0
  go (text.length + 1) (text.take start).reverse (text.drop start)
where
  go : (fuel : Nat) → Text → Text → Option (Text × Text)
    | 0, _, _ => none
    | fuel + 1, found, text =>
      match text with
      | [] => none
      | '\n' :: _ => none
      | ']' :: rest => some ((']' :: found).reverse, rest)
      | '[' :: mark :: rest =>
        if mark = ':' ∨ mark = '.' ∨ mark = '=' then
          match Regex.upToMark mark rest with
          | some (name, rest) =>
            go fuel (']' :: mark :: name.reverse ++ mark :: '[' :: found) rest
          | none => go fuel ('[' :: found) (mark :: rest)
        else go fuel ('[' :: found) (mark :: rest)
      | c :: rest => go fuel (c :: found) rest

/-- What stands up to a delimiter, which a backslash keeps from being one. -/
def upToDelimiter (delimiter : Char) (isRegex : Bool) : (fuel : Nat) → (found : Text) → Text →
    Option (Text × Text)
  | 0, _, _ => none
  | fuel + 1, found, text =>
    match text with
    | [] => none
    | '\n' :: rest =>
      if isRegex then none else upToDelimiter delimiter isRegex fuel ('\n' :: found) rest
    | '\\' :: c :: rest =>
      if c = delimiter ∧ !(c = '&' ∧ !isRegex) then
        upToDelimiter delimiter isRegex fuel (c :: found) rest
      else upToDelimiter delimiter isRegex fuel (c :: '\\' :: found) rest
    | c :: rest =>
      if c = delimiter then some (found.reverse, rest)
      else if c = '[' ∧ isRegex then
        match spanSet rest with
        | some (inner, rest) =>
          upToDelimiter delimiter isRegex fuel (inner.reverse ++ '[' :: found) rest
        | none => none
      else upToDelimiter delimiter isRegex fuel (c :: found) rest

/-- A character written by its code, behind the letter that says how. -/
def codedChar? (kind : Char) (rest : Text) : Option (Char × Text) :=
  let (base, width) := match kind with
    | 'x' => (16, 2)
    | 'o' => (8, 3)
    | _ => (10, 3)
  let digits := (rest.take width).takeWhile (isDigitOf base)
  if (kind = 'x' ∨ kind = 'o' ∨ kind = 'd') ∧ !digits.isEmpty then
    some (Char.ofNat (valueOfDigits base digits % 256), rest.drop digits.length)
  else none

/-- The character that a letter behind a backslash stands for. -/
def simpleEscape? (c : Char) : Option Char :=
  match c with
  | 'a' => some '\x07'
  | 'f' => some '\x0c'
  | 'n' => some '\n'
  | 'r' => some '\r'
  | 't' => some '\t'
  | 'v' => some '\x0b'
  | _ => none

/-- Replaces escapes in an expression that the language of expressions does not know. -/
def resolveEscapes : (fuel : Nat) → Text → Text
  | 0, text => text
  | fuel + 1, text =>
    match text with
    | '\\' :: c :: rest =>
      match codedChar? c rest with
      | some (d, rest) =>
        (if ".*[]^$\\".toList.contains d then ['\\', d] else [d]) ++ resolveEscapes fuel rest
      | none =>
        match (if c = 'n' then none else simpleEscape? c) with
        | some d => d :: resolveEscapes fuel rest
        | none => '\\' :: c :: resolveEscapes fuel rest
    | c :: rest => c :: resolveEscapes fuel rest
    | [] => []

/-- An expression; an empty one stands for the one used last. -/
def readPattern (extended : Bool) (settings : Regex.Settings) (text rest : Text) :
    Reader (Pattern × Nat) :=
  if text.isEmpty then .ok ({ regex := none, settings }, 9)
  else
    match Regex.parse extended (resolveEscapes (text.length + 1) text) with
    | .ok (r, groups) => .ok ({ regex := some r, settings }, groups)
    | .error e => refuse e rest

def readNumber (text : Text) : Option Nat × Text :=
  let digits := text.takeWhile isDigitChar
  (decimal? digits, text.drop digits.length)

/-- The letters behind an expression that is an address. -/
def readAddressFlags : (fuel : Nat) → Regex.Settings → Text → Regex.Settings × Text
  | 0, s, text => (s, text)
  | fuel + 1, s, text =>
    match text with
    | 'I' :: rest => readAddressFlags fuel { s with ignoresCase := true } rest
    | 'M' :: rest => readAddressFlags fuel { s with byLine := true } rest
    | text => (s, text)

/-- An address, if one stands here. -/
def readAddress (extended : Bool) (text : Text) : Reader (Option Address × Text) :=
  let pattern (delimiter : Char) (rest : Text) : Reader (Option Address × Text) := do
    match upToDelimiter delimiter true (rest.length + 1) [] rest with
    | none => refuse "unterminated address regex" []
    | some (source, rest) =>
      let (settings, rest) := readAddressFlags (rest.length + 1) {} rest
      let (p, _) ← readPattern extended settings source rest
      .ok (some (.pattern p), rest)
  match text with
  | '/' :: rest => pattern '/' rest
  | '\\' :: delimiter :: rest => pattern delimiter rest
  | '$' :: rest => .ok (some .last, rest)
  | text =>
    match readNumber text with
    | (none, _) => .ok (none, text)
    | (some first, rest) =>
      match skipBlanks rest with
      | '~' :: rest =>
        let (step, rest) := readNumber (skipBlanks rest)
        .ok (some (.every first (step.getD 0)), rest)
      | _ => .ok (some (.line first), rest)

def readRangeEnd (extended : Bool) (text : Text) : Reader (RangeEnd × Text) := do
  match text with
  | '+' :: rest =>
    match readNumber rest with
    | (some n, rest) => .ok (.after n, rest)
    | (none, rest) => refuse "expected newer version of sed" rest
  | '~' :: rest =>
    match readNumber rest with
    | (some n, rest) => .ok (.multiple n, rest)
    | (none, rest) => refuse "expected newer version of sed" rest
  | text =>
    match ← readAddress extended text with
    | (some address, rest) => .ok (.at address, rest)
    | (none, rest) => refuse "unexpected \x60,'" (rest.drop 1)

def readSelection (extended : Bool) (text : Text) : Reader (Selection × Text) := do
  let (first, rest) ← readAddress extended text
  let rest := if first.isSome then skipBlanks rest else rest
  let (selection, rest) ← match first, rest with
    | some first, ',' :: rest => do
      let (stop, rest) ← readRangeEnd extended (skipSpace rest)
      match first, stop with
      | .line 0, .at (.pattern _) =>
        .ok ({ first := none, fromStart := true, stop := some stop : Selection }, rest)
      | .line 0, _ => refuse "invalid usage of line address 0" rest
      | first, stop => .ok ({ first := some first, stop := some stop }, rest)
    | some (.line 0), rest => refuse "invalid usage of line address 0" rest
    | first, rest => .ok ({ first }, rest)
  let rest := skipSpace rest
  match rest with
  | '!' :: rest =>
    let rest := skipSpace rest
    if rest.head? = some '!' then refuse "multiple \x60!'s" (rest.drop 1)
    else .ok ({ selection with negated := true }, rest)
  | rest => .ok (selection, rest)

/-- The pieces of a replacement. -/
def readPieces (groups : Nat) (rest : Text) : (fuel : Nat) → Text → Reader (List Piece)
  | 0, _ => .ok []
  | fuel + 1, text =>
    match text with
    | [] => .ok []
    | '&' :: more => return .group 0 :: (← readPieces groups rest fuel more)
    | '\\' :: c :: more => do
      let change : Option CaseChange := match c with
        | 'U' => some .upper
        | 'L' => some .lower
        | 'E' => some .keep
        | 'u' => some .upperOne
        | 'l' => some .lowerOne
        | _ => none
      match change, codedChar? c more with
      | some change, _ => return .change change :: (← readPieces groups rest fuel more)
      | none, some (d, more) => return .char d :: (← readPieces groups rest fuel more)
      | none, none =>
        if isDigitChar c then
          let number := c.toNat - '0'.toNat
          if groups < number then
            refuse ("invalid reference \\" ++ toString number ++ " on \x60s' command's RHS") rest
          else return .group number :: (← readPieces groups rest fuel more)
        else return .char ((simpleEscape? c).getD c) :: (← readPieces groups rest fuel more)
    | c :: more => return .char c :: (← readPieces groups rest fuel more)

/-- What stands up to the end of the line. -/
def restOfLine (text : Text) : Text × Text :=
  let line := text.takeWhile (· ≠ '\n')
  (line, text.drop (line.length + 1))

/-- The letters behind a substitution. -/
def readSubstitutionFlags : (fuel : Nat) → Substitution → Text → Reader (Substitution × Text)
  | 0, s, text => .ok (s, text)
  | fuel + 1, s, text =>
    match text with
    | 'g' :: rest =>
      if s.isGlobal then refuse "multiple \x60g' options to \x60s' command" rest
      else readSubstitutionFlags fuel { s with isGlobal := true } rest
    | 'p' :: rest => readSubstitutionFlags fuel { s with prints := true } rest
    | 'w' :: rest =>
      let (name, rest) := restOfLine (skipBlanks rest)
      if name.isEmpty then refuse "missing filename in r/R/w/W commands" rest
      else .ok ({ s with file := some name }, rest)
    | c :: rest =>
      if c = 'i' ∨ c = 'I' then
        readSubstitutionFlags fuel { s with pattern := { s.pattern with
          settings := { s.pattern.settings with ignoresCase := true } } } rest
      else if c = 'm' ∨ c = 'M' then
        readSubstitutionFlags fuel { s with pattern := { s.pattern with
          settings := { s.pattern.settings with byLine := true } } } rest
      else
        match readNumber text with
        | (some 0, rest) => refuse "number option to \x60s' command may not be zero" rest
        | (some n, rest) => readSubstitutionFlags fuel { s with number := n } rest
        | (none, _) =>
          if isBlank c ∨ c = '\n' ∨ c = ';' ∨ c = '\x7d' ∨ c = '#' then .ok (s, text)
          else refuse "unknown option to \x60s'" rest
    | [] => .ok (s, [])

def readSubstitution (extended : Bool) (text : Text) : Reader (Substitution × Text) := do
  let unfinished {α : Type} : Reader α := refuse "unterminated \x60s' command" []
  match text with
  | [] => unfinished
  | delimiter :: rest =>
    match upToDelimiter delimiter true (rest.length + 1) [] rest with
    | none => unfinished
    | some (source, rest) =>
      match upToDelimiter delimiter false (rest.length + 1) [] rest with
      | none => unfinished
      | some (target, rest) => do
        let (s, rest) ← readSubstitutionFlags (rest.length + 1)
          { pattern := { regex := none }, replacement := [] } rest
        let (pattern, groups) ← readPattern extended s.pattern.settings source rest
        let replacement ← readPieces groups rest (target.length + 1) target
        .ok ({ s with pattern, replacement }, rest)

def tableChars : (fuel : Nat) → Text → Text
  | 0, _ => []
  | fuel + 1, text =>
    match text with
    | '\\' :: '\\' :: rest => '\\' :: tableChars fuel rest
    | '\\' :: c :: rest =>
      match simpleEscape? c with
      | some d => d :: tableChars fuel rest
      | none => '\\' :: c :: tableChars fuel rest
    | c :: rest => c :: tableChars fuel rest
    | [] => []

def readTable (text : Text) : Reader (List (Char × Char) × Text) :=
  let unfinished {α : Type} : Reader α := refuse "unterminated \x60y' command" []
  match text with
  | [] => unfinished
  | delimiter :: rest =>
    match upToDelimiter delimiter false (rest.length + 1) [] rest with
    | none => unfinished
    | some (source, rest) =>
      match upToDelimiter delimiter false (rest.length + 1) [] rest with
      | none => unfinished
      | some (target, rest) =>
        let source := tableChars (source.length + 1) source
        let target := tableChars (target.length + 1) target
        if source.length ≠ target.length then
          refuse "strings for \x60y' command are different lengths" rest
        else .ok (source.zip target, rest)

/-- Lines of text up to one that does not end in a backslash. -/
def spanText : (fuel : Nat) → Text → Text × Text
  | 0, text => ([], text)
  | fuel + 1, text =>
    match text with
    | [] => ([], [])
    | '\n' :: rest => (['\n'], rest)
    | '\\' :: '\n' :: rest =>
      let (more, rest) := spanText fuel rest
      ('\n' :: more, rest)
    | ['\\'] => ([], [])
    | '\\' :: c :: rest =>
      let (d, rest) := match codedChar? c rest with
        | some found => found
        | none => ((simpleEscape? c).getD c, rest)
      let (more, rest) := spanText fuel rest
      (d :: more, rest)
    | c :: rest =>
      let (more, rest) := spanText fuel rest
      (c :: more, rest)

/-- The text that belongs to a command. Blanks before it are kept behind a backslash. -/
def readInserted (text : Text) : Reader (Text × Text) :=
  match skipBlanks text with
  | [] => refuse "expected \\ after \x60a', \x60c' or \x60i'" []
  | '\\' :: rest =>
    let start := match skipBlanks rest with
      | '\n' :: rest => rest
      | _ => rest
    .ok (finish (spanText (start.length + 1) start))
  | start => .ok (finish (spanText (start.length + 1) start))
where
  finish (found : Text × Text) : Text × Text :=
    let (text, rest) := found
    (if text.isEmpty ∨ text.getLast? = some '\n' then text else text ++ ['\n'], rest)

/-- What may stand behind a command. -/
def endCommand (text : Text) : Reader Text :=
  match skipBlanks text with
  | [] => .ok []
  | '\n' :: rest => .ok rest
  | ';' :: rest => .ok rest
  | '\x7d' :: rest => .ok ('\x7d' :: rest)
  | '#' :: rest => .ok ('#' :: rest)
  | _ :: rest => refuse "extra characters after command" rest

/-- A label ends with a blank, a semicolon or the line. -/
def readLabel (text : Text) : Text × Text :=
  let text := skipBlanks text
  let label := text.takeWhile (fun c => !isSpaceChar c ∧ c ≠ ';')
  (label, text.drop label.length)

/-- The action of a command other than the ends of blocks. -/
def readAction (extended : Bool) (c : Char) (rest : Text) : Reader (Action × Text) := do
  let plain (action : Action) : Reader (Action × Text) := return (action, ← endCommand rest)
  let named (make : Text → Action) : Reader (Action × Text) := do
    let (name, behind) := restOfLine (skipBlanks rest)
    if name.isEmpty then refuse "missing filename in r/R/w/W commands" behind
    else .ok (make name, behind)
  let jump (make : Text → Action) : Reader (Action × Text) := do
    let (label, behind) := readLabel rest
    return (make label, ← endCommand behind)
  let coded (make : Nat → Action) : Reader (Action × Text) := do
    let (code, behind) := readNumber (skipBlanks rest)
    return (make (code.getD 0), ← endCommand behind)
  let text (make : Text → Action) : Reader (Action × Text) := do
    let (text, behind) ← readInserted rest
    return (make text, behind)
  match c with
  | '=' => plain .number
  | 'd' => plain .delete
  | 'D' => plain .deleteFirst
  | 'p' => plain .print
  | 'P' => plain .printFirst
  | 'n' => plain .next
  | 'N' => plain .addNext
  | 'h' => plain .hold
  | 'H' => plain .addHold
  | 'g' => plain .get
  | 'G' => plain .addGet
  | 'x' => plain .exchange
  | 'z' => plain .empty
  | 'F' => plain .fileName
  | 'l' => do
    let (width, behind) := readNumber (skipBlanks rest)
    return (.list width, ← endCommand behind)
  | 'q' => coded .quit
  | 'Q' => coded .quitSilently
  | 'b' => jump .branch
  | 't' => jump .branchIf
  | 'T' => jump .branchUnless
  | 'r' => named .readFile
  | 'w' => named .writeFile
  | 'a' => text .append
  | 'i' => text .insert
  | 'c' => text .change
  | 's' => do
    let (s, behind) ← readSubstitution extended rest
    return (.substitute s, ← if s.file.isSome then .ok behind else endCommand behind)
  | 'y' => do
    let (table, behind) ← readTable rest
    return (.translate table, ← endCommand behind)
  | c => refuse ("unknown command: \x60" ++ Text.toString [c] ++ "'") rest

def Script.add (s : Script) (selection : Selection) (action : Action) : Script :=
  { s with commands := s.commands.push { selection, action } }

/-- Commands one after the other. -/
def readCommands (extended : Bool) : (fuel : Nat) → Script → Text → Reader Script
  | 0, s, _ => .ok s
  | fuel + 1, s, text => do
    match text.dropWhile (fun c => isSpaceChar c || c = ';') with
    | [] =>
      if s.openBlocks.isEmpty then .ok s
      else .error { text := "unmatched \x60\x7b'", left := 0, atStart := true }
    | '#' :: rest => readCommands extended fuel s (restOfLine rest).2
    | text => do
      let (selection, rest) ← readSelection extended text
      match rest with
      | [] => refuse "missing command" []
      | '\x7b' :: rest =>
        let place := s.commands.size
        readCommands extended fuel
          { s.add selection (.begin place) with openBlocks := place :: s.openBlocks } rest
      | '\x7d' :: rest =>
        match s.openBlocks with
        | [] => refuse "unexpected \x60\x7d'" rest
        | place :: places => do
          if selection.first.isSome then refuse "\x7d doesn't want any addresses" rest
          let rest ← endCommand rest
          let commands := s.commands.modify place fun c =>
            { c with action := .begin s.commands.size }
          readCommands extended fuel
            { ({ s with commands } : Script).add {} .stop with openBlocks := places } rest
      | ':' :: rest => do
        if selection.first.isSome then refuse ": doesn't want any addresses" rest
        let (label, behind) := readLabel rest
        if label.isEmpty then refuse "\":\" lacks a label" behind
        else
          readCommands extended fuel
            { s.add {} .label with labels := (label, s.commands.size) :: s.labels }
            (← endCommand behind)
      | c :: rest => do
        let (action, rest) ← readAction extended c rest
        readCommands extended fuel (s.add selection action) rest

def Action.target? : Action → Option Text
  | branch name => some name
  | branchIf name => some name
  | branchUnless name => some name
  | _ => none

/-- The script that is written in a text. -/
def readScript (extended : Bool) (text : Text) : Reader Script :=
  readCommands extended (text.length + 1) {} text

/-- The first label that is jumped to and that there is not. -/
def Script.missingLabel? (s : Script) : Option Text :=
  (s.commands.toList.filterMap (·.action.target?)).find?
    (fun label => !label.isEmpty && (s.labels.lookup label).isNone)

end Slipway.Tool.Editing
