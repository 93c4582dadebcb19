import Slipway.Tool.Editing.Script
import Slipway.Tool.Making

/-!
# Running scripts of the stream editor

The commands of a script are carried out for one line after the other. Between the lines the editor
keeps a second text and what it is to write later.
-/

namespace Slipway.Tool.Editing

open Shell

/-- A line of an input. -/
structure Line where
  text : Text
  /-- Whether it had an end. -/
  ended : Bool := true
  file : Text
  /-- Whether `$` stands for it. -/
  isLast : Bool

/-- What a command writes to; the end of its last line may be missing so far. -/
structure Sheet where
  pieces : List Text := []
  unended : Bool := false

def Sheet.add (s : Sheet) (text : Text) (ended : Bool := true) : Sheet :=
  { pieces := (if ended then text ++ ['\n'] else text) ::
      (if s.unended then ['\n'] :: s.pieces else s.pieces)
    unended := !ended }

def Sheet.text (s : Sheet) : Text := s.pieces.reverse.flatten

/-- What is written behind a line. -/
inductive Appendix
  | text (text : Text)
  | file (name : Text)

inductive RangeState
  | closed
  | openUntil (line : Nat)
  | open

structure Editor where
  script : Script
  quiet : Bool
  zeroEnded : Bool
  lines : List Line
  number : Nat := 0
  current : Line := { text := [], file := ['-'], isLast := false }
  held : Text := []
  appendices : List Appendix := []
  replaced : Bool := false
  ranges : List (Nat × RangeState) := []
  lastRegex : Option Regex := none
  out : Sheet := {}
  /-- Other files that are written. -/
  files : List (Text × Sheet) := []
  code : Option Nat := none
  /-- The next round goes on with the text that is left. -/
  keepsText : Bool := false

namespace Editor

def mark (e : Editor) : Char := if e.zeroEnded then '\x00' else '\n'

def text (e : Editor) : Text := e.current.text

def setText (e : Editor) (text : Text) : Editor := { e with current := { e.current with text } }

def write (e : Editor) (text : Text) : Editor := { e with out := e.out.add text e.current.ended }

/-- Text with an end of its own. -/
def writeWhole (e : Editor) (text : Text) : Editor :=
  let out := if e.out.unended then { e.out with pieces := ['\n'] :: e.out.pieces } else e.out
  { e with out := { pieces := text :: out.pieces } }

def writeTo (e : Editor) (name text : Text) : Editor :=
  if name = "/dev/stdout".toList then e.write text
  else
    let sheet := ((e.files.lookup name).getD {}).add text e.current.ended
    { e with files := e.files.map (fun f => if f.1 = name then (name, sheet) else f) }

/-! ## Selecting -/

/-- A match of a pattern, and the editor that remembers it. -/
def find (e : Editor) (p : Pattern) (text : Array Char) (i : Nat) :
    Option (Nat × Nat × Regex.Groups) × Editor :=
  match p.regex.orElse (fun _ => e.lastRegex) with
  | some r => (r.find? p.settings text i, { e with lastRegex := some r })
  | none => (none, e)

def matchesAddress (e : Editor) : Address → Bool × Editor
  | .line n => (e.number = n, e)
  | .last => (e.current.isLast, e)
  | .every first step =>
    (if step = 0 then e.number = first
      else first ≤ e.number && (e.number - first) % step = 0, e)
  | .pattern p =>
    let (found, e) := e.find p e.text.toArray 0
    (found.isSome, e)

def setRange (e : Editor) (place : Nat) (state : RangeState) : Editor :=
  { e with ranges := (place, state) :: e.ranges.filter (·.1 ≠ place) }

/-- Begins a range at this line, if it does not end here. -/
def beginRange (e : Editor) (place : Nat) (first : Option Address) (stop : RangeEnd) : Editor :=
  match stop with
  | .after n => if n = 0 then e else e.setRange place (.openUntil (e.number + n))
  | .multiple n =>
    if n = 0 ∨ e.number % n = 0 then e
    else e.setRange place (.openUntil ((e.number / n + 1) * n))
  | .at (.line n) =>
    if n ≤ e.number then e else e.setRange place (.openUntil n)
  | .at _ => if first.isNone then e else e.setRange place .open

/-- Whether a command is meant for this line. The second part tells whether a range goes on. -/
def selects (e : Editor) (place : Nat) (s : Selection) : Bool × Bool × Editor :=
  match s.stop with
  | none =>
    match s.first with
    | none => (true, false, e)
    | some address =>
      let (found, e) := e.matchesAddress address
      (found, false, e)
  | some stop =>
    let state := (e.ranges.lookup place).getD (if s.fromStart then .open else .closed)
    match state with
    | .closed =>
      match s.first with
      | none => (false, false, e)
      | some address =>
        let (found, e) := e.matchesAddress address
        if found then
          let e := e.beginRange place s.first stop
          let goesOn := match e.ranges.lookup place with
            | some .closed => false
            | some _ => true
            | none => false
          (true, goesOn, e)
        else (false, false, e)
    | .openUntil n =>
      let e := if n ≤ e.number then e.setRange place .closed else e
      (e.number ≤ n, e.number < n, e)
    | .open =>
      match stop with
      | .at address =>
        let (found, e) := e.matchesAddress address
        (true, !found, if found then e.setRange place .closed else e)
      | _ => (true, true, e)

/-! ## Substituting -/

/-- Changes of letters that are in force: for one letter, and for all. -/
structure Casing where
  one : Option CaseChange := none
  all : CaseChange := .keep

def Casing.apply (c : Casing) (text : Text) : Text × Casing :=
  let whole := match c.all with
    | .upper => text.map Char.toUpper
    | .lower => text.map Char.toLower
    | _ => text
  match whole, c.one with
  | d :: rest, some .upperOne => (d.toUpper :: rest, { c with one := none })
  | d :: rest, some .lowerOne => (d.toLower :: rest, { c with one := none })
  | whole, _ => (whole, c)

/-- What a replacement becomes for a match. -/
def fillIn (pieces : List Piece) (text : Text) (start stop : Nat) (groups : Regex.Groups) : Text :=
  (pieces.foldl (fun (out, casing) piece =>
    match piece with
    | .char c =>
      let (found, casing) := casing.apply [c]
      (found.reverse ++ out, casing)
    | .group n =>
      let (first, last) := if n = 0 then (start, stop) else (groups.lookup n).getD (0, 0)
      let (found, casing) := casing.apply ((text.take last).drop first)
      (found.reverse ++ out, casing)
    | .change .upperOne => (out, { casing with one := some .upperOne })
    | .change .lowerOne => (out, { casing with one := some .lowerOne })
    | .change all => (out, { casing with all })) (([] : Text), ({} : Casing))).1.reverse

/-- Replaces matches from a place on; `count` were seen before. An empty match right behind another
one does not count. -/
def replaceFrom (s : Substitution) (r : Regex) (text : Text) (chars : Array Char) :
    (fuel : Nat) → (i count : Nat) → (lastStop : Option Nat) → Text × Bool
  | 0, i, _, _ => (text.drop i, false)
  | fuel + 1, i, count, lastStop =>
    match r.find? s.pattern.settings chars i with
    | none => (text.drop i, false)
    | some (start, stop, groups) =>
      let before := (text.take start).drop i
      let step (out : Text) (i count : Nat) (replaced : Bool) : Text × Bool :=
        let (rest, more) := replaceFrom s r text chars fuel i count (some stop)
        (before ++ out ++ rest, replaced || more)
      if start = stop ∧ lastStop = some start then
        if text.length ≤ start then (text.drop i, false)
        else step ((text.drop start).take 1) (start + 1) count false
      else
        let replaces := count + 1 = s.number || (s.isGlobal && s.number ≤ count + 1)
        let shownText := if replaces then fillIn s.replacement text start stop groups
          else (text.take stop).drop start
        if replaces ∧ !s.isGlobal then (before ++ shownText ++ text.drop stop, true)
        else if start = stop then
          if text.length ≤ stop then (before ++ shownText, replaces)
          else step (shownText ++ (text.drop stop).take 1) (stop + 1) (count + 1) replaces
        else step shownText stop (count + 1) replaces

def substitute (e : Editor) (s : Substitution) : Editor :=
  match s.pattern.regex.orElse (fun _ => e.lastRegex) with
  | none => e
  | some r =>
    let e := { e with lastRegex := some r }
    let (text, replaced) := replaceFrom s r e.text e.text.toArray (e.text.length + 2) 0 0 none
    if !replaced then e
    else
      let e := { e.setText text with replaced := true }
      let e := if s.prints then e.write text else e
      match s.file with
      | some name => e.writeTo name text
      | none => e

/-! ## Listing -/

def listed (c : Char) : Text :=
  match c with
  | '\\' => "\\\\".toList
  | '\x07' => "\\a".toList
  | '\x08' => "\\b".toList
  | '\x0c' => "\\f".toList
  | '\n' => "\\n".toList
  | '\r' => "\\r".toList
  | '\t' => "\\t".toList
  | '\x0b' => "\\v".toList
  | c => if isPrintChar c then [c] else '\\' :: fixedDigits 8 3 c.toNat

/-- Pieces in lines of a limited width. -/
def listLines (width : Nat) : (column : Nat) → List Text → Text
  | _, [] => ['$']
  | column, piece :: rest =>
    if 1 < width ∧ width - 1 < column + piece.length then
      '\\' :: '\n' :: piece ++ listLines width piece.length rest
    else piece ++ listLines width (column + piece.length) rest

/-! ## Lines -/

/-- Takes the next line, if there is one. -/
def advance (e : Editor) : Option Editor :=
  match e.lines with
  | [] => none
  | line :: lines => some { e with current := line, lines, number := e.number + 1 }

end Editor

/-- What becomes of the script after a command. -/
inductive Flow
  | next
  | jump (place : Nat)
  /-- The end of the script for this line. -/
  | done
  /-- The line is not shown. -/
  | dropped
  /-- There are no more lines. -/
  | finish

/-- Writes what was put off. -/
def writeAppendices (e : Editor) : Eval Editor := do
  let appended ← e.appendices.foldlM (fun e item => do
    match item with
    | .text text => pure (Editor.writeWhole e text)
    | .file name =>
      match ← readText name with
      | .ok text =>
        if text.isEmpty then pure e
        else
          let e := Editor.writeWhole e text
          pure { e with out := { e.out with unended := endsOpen text } }
      | .error _ => pure e) e
  pure { appended with appendices := [] }

def Editor.placeOf (e : Editor) (label : Text) : Flow :=
  if label.isEmpty then .done
  else .jump ((e.script.labels.lookup label).getD e.script.commands.size)

def carryOut (e : Editor) (c : Command) (goesOn : Bool) : Eval (Flow × Editor) := do
  match c.action with
  | .begin _ => pure (.next, e)
  | .stop => pure (.next, e)
  | .label => pure (.next, e)
  | .branch label => pure (e.placeOf label, e)
  | .branchIf label =>
    pure (if e.replaced then e.placeOf label else .next, { e with replaced := false })
  | .branchUnless label =>
    pure (if e.replaced then .next else e.placeOf label, { e with replaced := false })
  | .substitute s => pure (.next, e.substitute s)
  | .translate table =>
    pure (.next, e.setText (e.text.map (fun c => (table.lookup c).getD c)))
  | .append text => pure (.next, { e with appendices := e.appendices ++ [.text text] })
  | .readFile name => pure (.next, { e with appendices := e.appendices ++ [.file name] })
  | .insert text => pure (.next, e.writeWhole text)
  | .change text =>
    let shows := c.selection.stop.isNone || c.selection.negated || !goesOn
    pure (.dropped, if shows then e.writeWhole text else e)
  | .delete => pure (.dropped, e)
  | .deleteFirst =>
    if e.text.contains '\n' then
      let rest := (e.text.dropWhile (· ≠ '\n')).drop 1
      pure (.dropped, { e.setText rest with keepsText := true })
    else pure (.dropped, e)
  | .print => pure (.next, e.write e.text)
  | .printFirst => pure (.next, { e with out := e.out.add (e.text.takeWhile (· ≠ '\n')) })
  | .next =>
    if e.lines.isEmpty then pure (.finish, e)
    else
      let e := if e.quiet then e else e.write e.text
      let e ← writeAppendices e
      pure (.next, (e.advance).getD e)
  | .addNext =>
    if e.lines.isEmpty then pure (.finish, e)
    else
      let before := e.text
      let e ← writeAppendices e
      let e := (e.advance).getD e
      pure (.next, e.setText (before ++ e.mark :: e.text))
  | .hold => pure (.next, { e with held := e.text })
  | .addHold => pure (.next, { e with held := e.held ++ e.mark :: e.text })
  | .get => pure (.next, e.setText e.held)
  | .addGet => pure (.next, e.setText (e.text ++ e.mark :: e.held))
  | .exchange => pure (.next, { e.setText e.held with held := e.text })
  | .quit code =>
    let e := if e.quiet then e else e.write e.text
    let e ← writeAppendices e
    pure (.dropped, { e with code := some code })
  | .quitSilently code => pure (.dropped, { e with code := some code })
  | .number => pure (.next, e.writeWhole (naturalText e.number ++ ['\n']))
  | .list width =>
    let listing := Editor.listLines (width.getD 70) 0 (e.text.map Editor.listed)
    pure (.next, { e with out := e.out.add listing })
  | .writeFile name => pure (.next, e.writeTo name e.text)
  | .fileName => pure (.next, e.writeWhole (e.current.file ++ ['\n']))
  | .empty => pure (.next, e.setText [])

/-- Carries out the script for the line that was read. -/
def runCommands : (fuel : Nat) → (place : Nat) → Editor → Eval (Flow × Editor)
  | 0, _, e => pure (.finish, e)
  | fuel + 1, place, e => do
    match e.script.commands[place]? with
    | none => pure (.done, e)
    | some c =>
      let (found, goesOn, e) := e.selects place c.selection
      let (flow, e) ←
        if found = c.selection.negated then
          match c.action with
          | .begin stop => pure (.jump stop, e)
          | _ => pure (.next, e)
        else carryOut e c goesOn
      match flow with
      | .next => runCommands fuel (place + 1) e
      | .jump place => runCommands fuel place e
      | flow => pure (flow, e)

/-- More commands than are ever carried out. -/
def maxSteps : Nat := 100000000

/-- Runs the script for all lines. -/
def runLines : (fuel : Nat) → Editor → Eval Editor
  | 0, e => pure e
  | fuel + 1, e => do
    let started := if e.keepsText then some { e with keepsText := false }
      else (e.advance).map (fun e => { e with replaced := false })
    match started with
    | none => pure e
    | some e =>
      let (flow, e) ← runCommands maxSteps 0 e
      let shows := match flow with
        | .dropped => false
        | _ => !e.quiet
      let e := if shows then e.write e.text else e
      let e ← writeAppendices e
      if e.code.isSome then pure e else runLines fuel e

end Slipway.Tool.Editing

namespace Slipway.Tool

open Shell Editing

/-! ## sed -/

def editFlags : List Flag := [
  flag 'n' "quiet", longFlag "silent", setting 'e' "expression", setting 'f' "file",
  flag 'E' "regexp-extended", flag 'r', { letter := some 'i', word := "in-place", takes := .optional },
  flag 's' "separate", flag 'u' "unbuffered", flag 'z' "null-data", setting 'l' "line-length",
  longFlag "posix", longFlag "debug", longFlag "sandbox", longFlag "follow-symlinks"]

def editLines (mark : Char) (file text : Text) : List Line :=
  let parts := splitAtChar mark text
  let ended := text.getLast? = some mark
  ((List.range parts.length).zip parts).map fun (i, part) =>
    { text := part, ended := ended || i + 1 < parts.length, file, isLast := i + 1 = parts.length }

def writtenFiles (s : Script) : List Text :=
  (s.commands.toList.filterMap fun c => match c.action with
    | .writeFile name => some name
    | .substitute s => s.file
    | _ => none).eraseDups.filter (· ≠ "/dev/stdout".toList)

/-- The texts of scripts, each with whether it is an expression. -/
def scriptTexts (a : Arguments) : Eval (Except String (List (Text × Bool))) := do
  let parts ← (a.options.filter (fun o => o.1 = "expression" ∨ o.1 = "file")).mapM fun o => do
    if o.1 = "expression" then pure (.ok (o.2, true))
    else
      match ← readText o.2 with
      | .ok text => pure (.ok (if endsOpen text then text else text.dropLast, false))
      | .error e => pure (.error ("couldn't open file " ++ o.2.toString ++ ": " ++ errorText e))
  pure (parts.mapM (fun (part : Except String (Text × Bool)) => part))

/-- Where in several texts a place in all of them is: the number of the text and the place in it. -/
def locate : (number place : Nat) → List Text → Nat × Nat
  | number, place, [] => (number, place)
  | number, place, [_] => (number, place)
  | number, place, text :: rest =>
    if place ≤ text.length then (number, place)
    else locate (number + 1) (place - text.length - 1) rest

def sed (args : List Text) : Eval Nat :=
  withArguments editFlags args fun a => do
    match ← scriptTexts a with
    | .error text => do
      say text
      pure 1
    | .ok given =>
      let fromOperand := given.isEmpty
      let texts := if fromOperand then a.operands.take 1 else given.map (·.1)
      let names := if fromOperand then a.operands.drop 1 else a.operands
      if texts.isEmpty then
        complain ("Usage: " ++ (← self).name.toString
          ++ " [OPTION]... \x7bscript-only-if-no-other-script\x7d [input-file]...\n\n")
        return 1
      let all := List.intercalate ['\n'] texts
      let extended := a.has "regexp-extended" || a.has "r"
      match readScript extended all with
      | .error problem => do
        let (number, place) := locate 1 (all.length - problem.left) texts
        say ("-e expression #" ++ toString number ++ ", char "
          ++ toString (if problem.atStart then 0 else place) ++ ": " ++ problem.text)
        pure 1
      | .ok script =>
        match script.missingLabel? with
        | some label => do
          say ("can't find label for jump to \x60" ++ label.toString ++ "'")
          pure 1
        | none => run a script (if names.isEmpty then [['-']] else names) all
where
  /-- Runs the script on inputs. -/
  run (a : Arguments) (script : Script) (names : List Text) (all : Text) : Eval Nat := do
    let quiet := a.has "quiet" || a.has "silent" || startsWith (String.ofList all) "#n\n"
    let zeroEnded := a.has "null-data"
    let mark := if zeroEnded then '\x00' else '\n'
    let inPlace := a.has "in-place"
    let separate := inPlace || a.has "separate"
    let inputs ← names.mapM fun name => do
      if (← leadsToDirectory name) ∧ name ≠ ['-'] then
        if inPlace then say ("couldn't edit " ++ name.toString ++ ": not a regular file")
        else say ("read error on " ++ name.toString ++ ": " ++ errorText .isDirectory)
        pure none
      else
        match ← readText name with
        | .ok text => pure (some (name, editLines mark name text))
        | .error e => do
          say ("can't read " ++ name.toString ++ ": " ++ errorText e)
          pure none
    let found := inputs.filterMap id
    let files := writtenFiles script
    files.forM fun name => do
      let _ ← openFile .write name
    let groups := if separate then found.map (fun (name, lines) => (name, lines))
      else [(['-'], joinLines (found.map (·.2)))]
    let start : Editor := {
      script, quiet, zeroEnded, lines := [], files := files.map (·, {}) }
    let finished ← groups.foldlM (fun (e : Editor) (name, lines) => do
      if e.code.isSome then pure e
      else
        let e ← runLines maxSteps { e with
          lines, out := if inPlace then {} else e.out, number := if inPlace then 0 else e.number }
        if inPlace then
          let rest := e.lines.flatMap (fun l => if l.ended then l.text ++ [mark] else l.text)
          replaceFile a name (e.out.text ++ rest)
        pure e) start
    if !inPlace then print finished.out.text
    finished.files.forM fun (name, sheet) => do
      if let .ok id ← openFile .write name then
        let _ ← writeTo id (Text.toBytes sheet.text)
    pure (finished.code.getD (if inputs.all Option.isSome then 0 else if inPlace then 4 else 2))
  /-- Only the last line of all is the last one. -/
  joinLines (inputs : List (List Line)) : List Line :=
    let lines := inputs.flatten
    let count := lines.length
    ((List.range count).zip lines).map fun (i, l) =>
      { l with isLast := i + 1 = count, ended := l.ended || i + 1 < count }
  /-- Puts a new file in the place of another one, of which a copy may be kept. -/
  replaceFile (a : Arguments) (name content : Text) : Eval Unit := do
    let suffix := (a.value? "in-place").getD []
    let old := (← nodeAt? name true).toOption
    if !suffix.isEmpty then
      let backup := if suffix.contains '*' then
          suffix.flatMap (fun c => if c = '*' then name else [c])
        else name ++ suffix
      let _ ← act (.rename (pathOf name) (pathOf backup))
    else
      let _ ← act (.remove (pathOf name))
    if let .ok id ← openFile .write name then
      let _ ← writeTo id (Text.toBytes content)
      if let some node := old then setMode name node.mode

end Slipway.Tool
