import Slipway.Regex.Parser
import Slipway.Tool.Moving

/-!
# Searching lines

The program `grep` shows the lines in which a pattern is found.
-/

namespace Slipway.Tool

open Shell

/-! ## Patterns -/

inductive PatternKind
  | basic
  | extended
  | fixed
  deriving DecidableEq

/-- What a pattern has to take of a line. -/
inductive Coverage
  | any
  | words
  | line
  deriving DecidableEq

structure Searcher where
  patterns : List Regex
  settings : Regex.Settings
  coverage : Coverage

/-- A text that stands for itself. -/
def fixedRegex (text : Text) : Regex :=
  text.foldr (fun c r => .seq (.char c) r) .empty

def readPattern (kind : PatternKind) (text : Text) : Except String Regex :=
  match kind with
  | .fixed => .ok (fixedRegex text)
  | kind =>
    match Regex.parse (kind = .extended) text with
    | .ok (r, _) => .ok r
    | .error e => .error (if e = Regex.setUnmatched then "Invalid regular expression" else e)

/-- Where a pattern ends that begins at a place, if it takes what it has to. -/
def Searcher.stopAt (s : Searcher) (text : Array Char) (r : Regex) (i : Nat) : Option Nat :=
  let isWord := fun (c : Option Char) => (c.map Regex.isWordChar).getD false
  let fits := fun (j : Nat) => match s.coverage with
    | .any => true
    | .words => !isWord text[j]?
    | .line => j = text.size
  let begins := match s.coverage with
    | .any => true
    | .words => i = 0 || !isWord text[i - 1]?
    | .line => i = 0
  if !begins then none
  else if r.hasReference then
    (r.search s.settings text i [] (fun j groups => if fits j then some (j, groups) else none)).map
      (·.1)
  else ((r.ends s.settings text i).filter fits).getLast?

/-- The first match from a place on, the longest of those that begin there. -/
def Searcher.findFrom (s : Searcher) (text : Array Char) : (fuel : Nat) → (i : Nat) →
    Option (Nat × Nat)
  | 0, _ => none
  | fuel + 1, i =>
    if text.size < i then none
    else
      let stops := s.patterns.filterMap (fun r => s.stopAt text r i)
      if stops.isEmpty then s.findFrom text fuel (i + 1) else some (i, stops.foldl max i)

/-- All matches in a line that are not empty. -/
def Searcher.findAll (s : Searcher) (text : Array Char) : (fuel : Nat) → (i : Nat) →
    List (Nat × Nat)
  | 0, _ => []
  | fuel + 1, i =>
    match s.findFrom text (text.size + 2) i with
    | none => []
    | some (start, stop) =>
      if start = stop then s.findAll text fuel (start + 1)
      else (start, stop) :: s.findAll text fuel stop

/-! ## grep -/

def searchFlags : List Flag := [
  flag 'E' "extended-regexp", flag 'F' "fixed-strings", flag 'G' "basic-regexp",
  flag 'P' "perl-regexp", setting 'e' "regexp", setting 'f' "file", flag 'i' "ignore-case",
  flag 'y', longFlag "no-ignore-case", flag 'v' "invert-match", flag 'w' "word-regexp",
  flag 'x' "line-regexp", flag 'c' "count", longFlag "color" .optional,
  longFlag "colour" .optional, flag 'L' "files-without-match", flag 'l' "files-with-matches",
  setting 'm' "max-count", flag 'o' "only-matching", flag 'q' "quiet", longFlag "silent",
  flag 's' "no-messages", flag 'b' "byte-offset", flag 'H' "with-filename", flag 'h' "no-filename",
  longFlag "label" .value, flag 'n' "line-number", flag 'T' "initial-tab", flag 'Z' "null",
  setting 'A' "after-context", setting 'B' "before-context", setting 'C' "context", flag 'a' "text",
  longFlag "binary-files" .value, setting 'D' "devices", setting 'd' "directories", flag 'I',
  longFlag "include" .value, longFlag "exclude" .value, longFlag "exclude-dir" .value,
  flag 'r' "recursive", flag 'R' "dereference-recursive", flag 'U' "binary",
  flag 'z' "null-data", longFlag "line-buffered"]

/-- A line with its number, its place and whether it is one that was searched for. -/
structure SearchedLine where
  number : Nat
  offset : Nat
  text : Text
  selected : Bool

/-- Looks at the lines of a text; no more are selected than are wanted. -/
def searchLines (s : Searcher) (inverted : Bool) : (number offset : Nat) → (room : Option Nat) →
    List Text → List SearchedLine
  | _, _, _, [] => []
  | number, offset, room, line :: rest =>
    let found := (s.findFrom line.toArray (line.length + 2) 0).isSome
    let selected := (found != inverted) && room ≠ some 0
    ⟨number, offset, line, selected⟩ ::
      searchLines s inverted (number + 1) (offset + line.length + 1)
        (if selected then room.map (· - 1) else room) rest

/-- What stands before a line. -/
def linePrefix (a : Arguments) (name : Option Text) (mark : Char) (number offset : Nat) : Text :=
  let nameMark := if a.has "null" then '\x00' else mark
  (match name with
    | some name => name ++ [nameMark]
    | none => [])
    ++ (if a.has "line-number" then naturalText number ++ [mark] else [])
    ++ (if a.has "byte-offset" then naturalText offset ++ [mark] else [])

/-- Whether a line is near enough to a selected one to be shown. -/
def isNear (lines : List SearchedLine) (before after : Nat) (l : SearchedLine) : Bool :=
  lines.any (fun other => other.selected
    && other.number ≤ l.number + before && l.number ≤ other.number + after)

/-- How the results for one input are shown. -/
structure Report where
  arguments : Arguments
  searcher : Searcher
  before : Nat
  after : Nat

/-- Shows the lines of one input, and tells whether there was something to show. -/
def Report.show (r : Report) (name : Option Text) (isBinary : Bool) (lines : List SearchedLine)
    (label : Text) : Eval Unit := do
  let a := r.arguments
  let mark := if a.has "null-data" then '\x00' else '\n'
  if a.has "only-matching" then
    if !a.has "invert-match" then
      (lines.filter (·.selected)).forM fun l =>
        (r.searcher.findAll l.text.toArray (l.text.length + 2) 0).forM fun (start, stop) =>
          print (linePrefix a name ':' l.number (l.offset + start)
            ++ (l.text.take stop).drop start ++ [mark])
  else if isBinary then
    if lines.any (·.selected) then say (label.toString ++ ": binary file matches")
  else
    let hasContext := 0 < r.before ∨ 0 < r.after
    let shownLines := if hasContext then lines.filter (isNear lines r.before r.after)
      else lines.filter (·.selected)
    let _ ← shownLines.foldlM (fun last l => do
      if hasContext ∧ 0 < last ∧ last + 1 < l.number then print "--\n".toList
      print (linePrefix a name (if l.selected then ':' else '-') l.number l.offset
        ++ l.text ++ [mark])
      pure l.number) 0

/-- The inputs below a directory. -/
def inputsBelow (a : Arguments) : (fuel : Nat) → (isNamed : Bool) → Text → Eval (List Text)
  | 0, _, path => pure [path]
  | fuel + 1, isNamed, path => do
    let fits (key : String) : Bool := (a.values key).any fun glob =>
      matchesPattern (patternOf (glob.map (fun c => ⟨c, false⟩))) (lastName path)
    match ← nodeAt? path isNamed with
    | .ok (.directory _) =>
      if !isNamed ∧ fits "exclude-dir" then pure []
      else do
        let inner ← (← sortedNames path).mapM fun name =>
          inputsBelow a fuel false (joinName path name)
        pure inner.flatten
    | .ok (.link _) => pure []
    | _ =>
      if (a.has "include" ∧ !fits "include") ∨ fits "exclude" then pure [] else pure [path]

/-- The patterns of options, operands and files, and the operands that are inputs. -/
def searchPatterns (a : Arguments) : Eval (Except String (Option (List Text) × List Text)) := do
  let files ← (a.values "file").mapM readText
  match files.mapM (fun (f : Except SystemError Text) => f) with
  | .error e =>
    pure (.error (String.ofList ((a.values "file").headD []) ++ ": " ++ errorText e))
  | .ok texts =>
    let given := (a.values "regexp").flatMap (·.splitOn '\n') ++ texts.flatMap linesOf
    if a.has "regexp" ∨ a.has "file" then pure (.ok (some given, a.operands))
    else
      match a.operands with
      | [] => pure (.ok (none, []))
      | first :: rest => pure (.ok (some (first.splitOn '\n'), rest))

/-- Searches one input: whether something was found, and whether there was an error. -/
def searchInput (r : Report) (withNames : Bool) (path : Text) : Eval (Bool × Bool) := do
  let a := r.arguments
  let label := if path = ['-'] then (a.value? "label").getD "(standard input)".toList else path
  let name := if withNames then some label else none
  match ← readText path with
  | .error e => do
    if !a.has "no-messages" then say (label.toString ++ ": " ++ errorText e)
    pure (false, true)
  | .ok text => do
    let mark := if a.has "null-data" then '\x00' else '\n'
    let isBinary := text.contains '\x00' && !a.has "text" && !a.has "null-data"
    let room := (a.value? "max-count").bind decimal?
    let lines := searchLines r.searcher (a.has "invert-match") 1 0 room (splitAtChar mark text)
    let count := (lines.filter (·.selected)).length
    let found := 0 < count
    let nameEnd := if a.has "null" then ['\x00'] else ['\n']
    if a.has "quiet" ∨ a.has "silent" then pure ()
    else if a.has "files-without-match" then print (if found then [] else label ++ nameEnd)
    else if a.has "files-with-matches" then print (if found then label ++ nameEnd else [])
    else if a.has "count" then
      printLine ((match name with
        | some name => name ++ (if a.has "null" then ['\x00'] else [':'])
        | none => []) ++ naturalText count)
    else r.show name isBinary lines label
    pure (if a.has "files-without-match" then !found else found, false)

/-- Searches with the kind of patterns that the program is known for. -/
def searchWith (usual : PatternKind) (args : List Text) : Eval Nat := do
  let refuseUsage : Eval Nat := do
    complain ("Usage: " ++ (← self).name.toString ++ " [OPTION]... PATTERNS [FILE]...\n")
    recommendHelp
    pure 2
  match readArguments searchFlags true (args.length + 1) {}
      (args.flatMap spellContext) with
  | .error text => do
    say text
    refuseUsage
  | .ok a =>
    match ← searchPatterns a with
    | .error text => do
      say text
      pure 2
    | .ok (none, _) => refuseUsage
    | .ok (some texts, inputs) =>
      let kind := match a.lastOf ["extended-regexp", "fixed-strings", "basic-regexp",
          "perl-regexp"] with
        | some "extended-regexp" => PatternKind.extended
        | some "perl-regexp" => .extended
        | some "fixed-strings" => .fixed
        | some _ => .basic
        | none => usual
      match texts.mapM (readPattern kind) with
      | .error text => do
        say text
        pure 2
      | .ok patterns =>
        let number (key : String) : Option Nat := (a.value? key).bind decimal?
        let around := number "context"
        let isCase := a.lastOf ["ignore-case", "y", "no-ignore-case"]
        let report : Report := {
          arguments := a
          searcher := {
            patterns
            settings := { ignoresCase := isCase.isSome && isCase ≠ some "no-ignore-case" }
            coverage := if a.has "line-regexp" then .line
              else if a.has "word-regexp" then .words else .any }
          before := ((number "before-context").orElse (fun _ => around)).getD 0
          after := ((number "after-context").orElse (fun _ => around)).getD 0 }
        let recursive := a.has "recursive" || a.has "dereference-recursive"
        let paths ← if recursive then do
            let starts := if inputs.isEmpty then [['.']] else inputs
            let found ← starts.mapM (inputsBelow a maxDepth true)
            pure (if inputs.isEmpty then found.flatten.map (·.drop 2) else found.flatten)
          else pure (if inputs.isEmpty then [['-']] else inputs)
        let withNames := match a.lastOf ["with-filename", "no-filename"] with
          | some "with-filename" => true
          | some _ => false
          | none => 1 < inputs.length || recursive
        let (found, failed) ← paths.foldlM (fun (found, failed) path => do
          let (more, wrong) ← searchInput report withNames path
          pure (found || more, failed || wrong)) (false, false)
        let isQuiet := a.has "quiet" || a.has "silent"
        pure (if failed ∧ !(isQuiet ∧ found) then 2 else if found then 0 else 1)
where
  /-- A number as an option stands for lines of context. -/
  spellContext (arg : Text) : List Text :=
    match arg with
    | '-' :: d :: rest =>
      if isDigitChar d ∧ rest.all isDigitChar then ["-C".toList ++ d :: rest] else [arg]
    | _ => [arg]

end Slipway.Tool
