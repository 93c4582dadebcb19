import Std.Data.HashMap
import Slipway.Calendar.Format
import Slipway.Tool.Differences
import Slipway.Tool.Moving

/-!
# Comparing files line by line

The changes between two files, shown in one of several styles, and the differences of directories.
-/

namespace Slipway.Tool

open Shell Differences

/-! ## Lines -/

/-- How lines are compared. -/
structure LineView where
  ignoresCase : Bool := false
  /-- Amounts of blanks, or all blanks, do not count. -/
  ignoresAmounts : Bool := false
  ignoresBlanks : Bool := false
  ignoresTrailing : Bool := false
  ignoresEmpty : Bool := false

/-- Runs of blanks as one, and none at the end. -/
def squeezed : (afterBlank : Bool) → Text → Text
  | _, [] => []
  | afterBlank, c :: rest =>
    if isSpaceChar c then squeezed true rest
    else (if afterBlank then [' ', c] else [c]) ++ squeezed false rest

/-- What counts of a line. -/
def LineView.key (v : LineView) (line : Text) : Text :=
  let line := if v.ignoresCase then line.map Char.toLower else line
  if v.ignoresBlanks then line.filter (fun c => !isSpaceChar c)
  else if v.ignoresAmounts then squeezed false line
  else if v.ignoresTrailing then (line.reverse.dropWhile isSpaceChar).reverse
  else line

/-- Numbers for lines, the same for lines that count as the same. -/
def numberLines (keys : List Text) (known : Std.HashMap Text Nat) :
    Array Nat × Std.HashMap Text Nat :=
  keys.foldl (fun (numbers, known) key =>
    match known[key]? with
    | some n => (numbers.push n, known)
    | none => (numbers.push (known.size + 1), known.insert key (known.size + 1))) (#[], known)

/-- The changes between two texts that count. -/
def LineView.changes (v : LineView) (xs ys : Array Text) : List Change :=
  let (a, known) := numberLines (xs.toList.map v.key) {}
  let (b, _) := numberLines (ys.toList.map v.key) known
  let isBlank (lines : Array Text) (place count : Nat) : Bool :=
    (lines.extract place (place + count)).all (fun line => line = ['\n'])
  (Differences.changes a b).filter fun c =>
    !(v.ignoresEmpty && isBlank xs c.place c.removed && isBlank ys c.otherPlace c.added)

/-! ## Styles -/

/-- A line behind a mark. The last line of a text may have no end. -/
def markedLine (mark : String) (line : Text) : Text :=
  if line.getLast? = some '\n' then mark.toList ++ line
  else mark.toList ++ line ++ "\n\\ No newline at end of file\n".toList

def markedLines (mark : String) (lines : Array Text) (place count : Nat) : Text :=
  (lines.extract place (place + count)).toList.flatMap (markedLine mark)

/-- The numbers of the first and the last line of some. -/
def lineRange (place count : Nat) : String :=
  if count ≤ 1 then toString (place + count) else toString (place + 1) ++ "," ++ toString (place + count)

/-- The letter for a kind of change. -/
def changeLetter (c : Change) : String :=
  if c.removed = 0 then "a" else if c.added = 0 then "d" else "c"

def normalChange (xs ys : Array Text) (c : Change) : Text :=
  (lineRange c.place c.removed ++ changeLetter c ++ lineRange c.otherPlace c.added ++ "\n").toList
    ++ markedLines "< " xs c.place c.removed
    ++ (if 0 < c.removed ∧ 0 < c.added then "---\n".toList else [])
    ++ markedLines "> " ys c.otherPlace c.added

/-- A change as a command for an editor. -/
def editorChange (ys : Array Text) (c : Change) : Text :=
  (lineRange c.place c.removed ++ changeLetter c ++ "\n").toList
    ++ (if c.added = 0 then []
      else (ys.extract c.otherPlace (c.otherPlace + c.added)).toList.flatten ++ ".\n".toList)

def rcsChange (ys : Array Text) (c : Change) : Text :=
  (if c.removed = 0 then [] else ("d" ++ toString (c.place + 1) ++ " " ++ toString c.removed ++ "\n").toList)
    ++ (if c.added = 0 then []
      else ("a" ++ toString (c.place + c.removed) ++ " " ++ toString c.added ++ "\n").toList
        ++ (ys.extract c.otherPlace (c.otherPlace + c.added)).toList.flatten)

/-- Groups of changes with at most so many lines between them. -/
def groupChanges (gap : Nat) : List Change → List (List Change)
  | [] => []
  | c :: rest =>
    match groupChanges gap rest with
    | (d :: group) :: others =>
      if d.place ≤ c.place + c.removed + gap then (c :: d :: group) :: others
      else [c] :: (d :: group) :: others
    | others => [c] :: others

/-- The lines that a group of changes is shown with: where they start and how many there are, in
both files. -/
def windowOf (context : Nat) (xs ys : Array Text) (group : List Change) : Nat × Nat × Nat × Nat :=
  let first := group.headD ⟨0, 0, 0, 0⟩
  let last := group.getLastD first
  let before := min context first.place
  let after := min context (xs.size - (last.place + last.removed))
  let x := first.place - before
  let y := first.otherPlace - before
  (x, last.place + last.removed + after - x, y,
    min ys.size (last.otherPlace + last.added + after) - y)

/-- A place and a count of lines in the header of a group. -/
def unifiedRange (place count : Nat) : String :=
  let start := if count = 0 then place else place + 1
  if count = 1 then toString start else toString start ++ "," ++ toString count

def unifiedBody (xs ys : Array Text) : (place stop : Nat) → List Change → Text
  | place, stop, [] => markedLines " " xs place (stop - place)
  | place, stop, c :: rest =>
    markedLines " " xs place (c.place - place) ++ markedLines "-" xs c.place c.removed
      ++ markedLines "+" ys c.otherPlace c.added
      ++ unifiedBody xs ys (c.place + c.removed) stop rest

def unifiedGroup (context : Nat) (xs ys : Array Text) (group : List Change) : Text :=
  let (x, xcount, y, ycount) := windowOf context xs ys group
  ("@@ -" ++ unifiedRange x xcount ++ " +" ++ unifiedRange y ycount ++ " @@\n").toList
    ++ unifiedBody xs ys x (x + xcount) group

/-- One side of a group with context. Changes are places and counts, each with its mark. -/
def contextSide (lines : Array Text) : (place stop : Nat) → List (Nat × Nat × String) → Text
  | place, stop, [] => markedLines "  " lines place (stop - place)
  | place, stop, (start, count, mark) :: rest =>
    markedLines "  " lines place (start - place) ++ markedLines mark lines start count
      ++ contextSide lines (start + count) stop rest

def contextRange (place count : Nat) : String :=
  if count ≤ 1 then toString (place + count) else toString (place + 1) ++ "," ++ toString (place + count)

def contextGroup (context : Nat) (xs ys : Array Text) (group : List Change) : Text :=
  let (x, xcount, y, ycount) := windowOf context xs ys group
  let mark (c : Change) (single : String) : String :=
    if c.removed = 0 ∨ c.added = 0 then single else "! "
  let old := if group.any (0 < ·.removed) then
      contextSide xs x (x + xcount) (group.map (fun c => (c.place, c.removed, mark c "- ")))
    else []
  let new := if group.any (0 < ·.added) then
      contextSide ys y (y + ycount) (group.map (fun c => (c.otherPlace, c.added, mark c "+ ")))
    else []
  ("***************\n*** " ++ contextRange x xcount ++ " ****\n").toList ++ old
    ++ ("--- " ++ contextRange y ycount ++ " ----\n").toList ++ new

/-! ## Side by side -/

/-- Where the two columns are. -/
structure Columns where
  half : Nat
  second : Nat

def Columns.ofWidth (width : Nat) : Columns :=
  let start := width / 2 + 5 + (if width % 2 = 1 then 1 else 0)
  let start := start - start % 8
  let half := min (start - 3) (width - start)
  ⟨half, if half = 0 then width else start⟩

/-- Blanks from one column to another, with tabs where they fit. -/
def fillColumns : (fuel : Nat) → (start stop : Nat) → Text
  | 0, _, _ => []
  | fuel + 1, start, stop =>
    let next := start + 8 - start % 8
    if next ≤ stop then '\t' :: fillColumns fuel next stop else List.replicate (stop - start) ' '

/-- What fits of a line into so many columns, and the column at its end. -/
def halfLine (width : Nat) : (column : Nat) → Text → Text × Nat
  | column, [] => ([], column)
  | column, c :: rest =>
    if c = '\n' then ([], column)
    else if c = '\t' then
      let next := column + 8 - column % 8
      if width < next then ([], column)
      else
        let (more, stop) := halfLine width next rest
        (List.replicate (next - column) ' ' ++ more, stop)
    else if column < width then
      let (more, stop) := halfLine width (column + 1) rest
      (c :: more, stop)
    else ([], column)

def sideLine (w : Columns) (left right : Option Text) (mark : Char) : Text :=
  let ends (line : Option Text) : Bool := (line.bind List.getLast?) = some '\n'
  let (first, column) := halfLine w.half 0 (left.getD [])
  let mark := if mark = '|' ∧ ends left ≠ ends right then (if ends left then '/' else '\\') else mark
  let (middle, column) := if mark = ' ' then ([], column)
    else
      let place := (w.half + w.second - 1) / 2
      (fillColumns (place + 1) column place ++ [mark], max column place + 1)
  let last := match right with
    | some line =>
      if line.head? = some '\n' ∨ line.isEmpty then []
      else fillColumns (w.second + 1) column w.second ++ (halfLine w.half 0 line).1
    | none => []
  first ++ middle ++ last ++ (if ends left || ends right then ['\n'] else [])

/-- Lines of both files that belong to one change. -/
def sideChange (w : Columns) (xs ys : List Text) : Text :=
  let both := (xs.zip ys).flatMap (fun (x, y) => sideLine w (some x) (some y) '|')
  both ++ (xs.drop ys.length).flatMap (fun x => sideLine w (some x) none '<')
    ++ (ys.drop xs.length).flatMap (fun y => sideLine w none (some y) '>')

def sideBySide (w : Columns) (hidesCommon leftOnly : Bool) (xs ys : Array Text) :
    (place other : Nat) → List Change → Text
  | place, other, [] => same place other (xs.size - place)
  | place, other, c :: rest =>
    same place other (c.place - place)
      ++ sideChange w (xs.extract c.place (c.place + c.removed)).toList
        (ys.extract c.otherPlace (c.otherPlace + c.added)).toList
      ++ sideBySide w hidesCommon leftOnly xs ys (c.place + c.removed) (c.otherPlace + c.added) rest
where
  same (place other count : Nat) : Text :=
    if hidesCommon then []
    else
      ((xs.extract place (place + count)).toList.zip (ys.extract other (other + count)).toList).flatMap
        fun (x, y) => if leftOnly then sideLine w (some x) none '(' else sideLine w (some x) (some y) ' '

/-! ## Files -/

def diffFlags : List Flag := [
  longFlag "normal", flag 'q' "brief", flag 's' "report-identical-files",
  { letter := some 'c', word := "context", takes := .nothing }, setting 'C',
  flag 'u', { letter := none, word := "unified", takes := .optional }, setting 'U', flag 'e' "ed",
  flag 'n' "rcs", flag 'y' "side-by-side", setting 'W' "width", longFlag "left-column",
  longFlag "suppress-common-lines", flag 'p' "show-c-function", longFlag "label" .value,
  setting 'L', flag 't' "expand-tabs", flag 'T' "initial-tab", flag 'r' "recursive",
  longFlag "no-dereference", flag 'N' "new-file", flag 'P', longFlag "unidirectional-new-file",
  flag 'i' "ignore-case", flag 'E' "ignore-tab-expansion", flag 'Z' "ignore-trailing-space",
  flag 'b' "ignore-space-change", flag 'w' "ignore-all-space", flag 'B' "ignore-blank-lines",
  setting 'I' "ignore-matching-lines", flag 'a' "text", longFlag "strip-trailing-cr",
  flag 'd' "minimal", longFlag "speed-large-files", longFlag "color" .optional, setting 'x' "exclude",
  setting 'S' "starting-file", longFlag "horizon-lines" .value, flag 'l' "paginate"]

def LineView.ofArguments (a : Arguments) : LineView where
  ignoresCase := a.has "ignore-case"
  ignoresAmounts := a.has "ignore-space-change"
  ignoresBlanks := a.has "ignore-all-space"
  ignoresTrailing := a.has "ignore-trailing-space"
  ignoresEmpty := a.has "ignore-blank-lines"

/-- A file that is compared. -/
structure ComparedFile where
  name : Text
  label : Option Text
  modified : Int
  text : Text

/-- The lines above the changes, which tell of the files. -/
def fileHeader (mark style : String) (f : ComparedFile) : Text :=
  match f.label with
  | some label => mark.toList ++ ' ' :: label ++ ['\n']
  | none =>
    let time := (Moment.ofSeconds f.modified).format 0 style.toList
    mark.toList ++ ' ' :: f.name ++ '\t' :: time ++ ['\n']

/-- How many lines around changes are shown. -/
def contextCount (a : Arguments) (keys : List String) : Nat :=
  (keys.filterMap (fun key => (a.value? key).bind decimal?)).headD 3

/-- Shows the changes between two files. -/
def shownChanges (a : Arguments) (f g : ComparedFile) (xs ys : Array Text) (cs : List Change) : Text :=
  match a.lastOf ["normal", "context", "C", "u", "unified", "U", "ed", "rcs", "side-by-side"] with
  | some "side-by-side" =>
    sideBySide (Columns.ofWidth (((a.value? "width").bind decimal?).getD 130))
      (a.has "suppress-common-lines") (a.has "left-column") xs ys 0 0 cs
  | some "ed" => cs.reverse.flatMap (editorChange ys)
  | some "rcs" => cs.flatMap (rcsChange ys)
  | some style =>
    if style = "normal" then cs.flatMap (normalChange xs ys)
    else if style = "context" ∨ style = "C" then
      let n := contextCount a ["C"]
      fileHeader "***" "%a %b %e %H:%M:%S %Y" f ++ fileHeader "---" "%a %b %e %H:%M:%S %Y" g
        ++ (groupChanges (2 * n) cs).flatMap (contextGroup n xs ys)
    else
      let n := contextCount a ["U", "unified"]
      fileHeader "---" "%Y-%m-%d %H:%M:%S.%N %z" f ++ fileHeader "+++" "%Y-%m-%d %H:%M:%S.%N %z" g
        ++ (groupChanges (2 * n) cs).flatMap (unifiedGroup n xs ys)
  | none => cs.flatMap (normalChange xs ys)

/-- Compares two files, and tells whether they are the same. -/
def compareTextsOf (a : Arguments) (command : Option Text) (f g : ComparedFile) : Eval Nat := do
  let lines (text : Text) : Array Text :=
    let text := if a.has "strip-trailing-cr" then dropReturns text else text
    (wholeLines text).toArray
  let isBinary := !a.has "text" && (f.text.contains '\x00' || g.text.contains '\x00')
  let tellSame : Eval Nat := do
    if a.has "report-identical-files" then
      printLine ("Files ".toList ++ f.name ++ " and ".toList ++ g.name ++ " are identical".toList)
    pure 0
  if f.text = g.text then
    if a.lastOf ["normal", "context", "C", "u", "unified", "U", "ed", "rcs", "side-by-side"]
        = some "side-by-side" ∧ !a.has "brief" then
      print (shownChanges a f g (lines f.text) (lines g.text) [])
    tellSame
  else if isBinary then do
    let kind := if a.has "brief" then "Files " else "Binary files "
    printLine (kind.toList ++ f.name ++ " and ".toList ++ g.name ++ " differ".toList)
    pure 1
  else
    let (xs, ys) := (lines f.text, lines g.text)
    let cs := (LineView.ofArguments a).changes xs ys
    if cs.isEmpty then tellSame
    else do
      if a.has "brief" then
        printLine ("Files ".toList ++ f.name ++ " and ".toList ++ g.name ++ " differ".toList)
      else do
        if let some command := command then printLine command
        print (shownChanges a f g xs ys cs)
      pure 1
where
  dropReturns : Text → Text
    | '\r' :: '\n' :: rest => '\n' :: dropReturns rest
    | c :: rest => c :: dropReturns rest
    | [] => []

/-! ## Directories -/

/-- What is to be compared: nothing, a directory, or a file. -/
inductive Side
  | missing (e : SystemError)
  | directory
  | file (modified : Int) (text : Text)

def sideOf (name : Text) : Eval Side := do
  if name = ['-'] then
    match ← readText name with
    | .ok text => return .file (← get).machine.now text
    | .error e => return .missing e
  match ← nodeAt? name true with
  | .error e => pure (.missing e)
  | .ok (.directory _) => pure .directory
  | .ok node =>
    match ← readText name with
    | .error e => pure (.missing e)
    | .ok text => return .file (FileSystem.statusOf (← get).machine.now node).modified text

/-- The options as they are repeated in front of the names of files in directories. -/
def repeatedCommand (args : List Text) (first second : Text) : Text :=
  let options := args.filter (fun arg => arg.head? = some '-' && arg ≠ ['-'])
  List.intercalate [' '] ("diff".toList :: options ++ [first, second])

def tellOnly (directory name : Text) : Eval Nat := do
  printLine ("Only in ".toList ++ directory ++ ": ".toList ++ name)
  pure 1

/-- Compares what two names stand for. Names in directories are `inside`. -/
def compareNames (a : Arguments) (args : List Text) : (fuel : Nat) → (inside : Bool) →
    (first second : Text) → Eval Nat
  | 0, _, _, _ => pure 2
  | fuel + 1, inside, first, second => do
    let left ← sideOf first
    let right ← sideOf second
    let label (i : Nat) : Option Text := (a.values "label" ++ a.values "L")[i]?
    let compare (x y : Int × Text) : Eval Nat :=
      compareTextsOf a (if inside then some (repeatedCommand args first second) else none)
        ⟨first, label 0, x.1, x.2⟩ ⟨second, label 1, y.1, y.2⟩
    let startsNew := a.has "new-file"
    match left, right with
    | .file m x, .file n y => compare (m, x) (n, y)
    | .directory, .directory =>
      if inside ∧ !a.has "recursive" then do
        printLine ("Common subdirectories: ".toList ++ first ++ " and ".toList ++ second)
        pure 0
      else do
        let xs ← sortedNames first
        let ys ← sortedNames second
        let names := (xs ++ ys.filter (fun name => !xs.contains name)).mergeSort textLe
        names.foldlM (fun code name => do
          let more ← if !xs.contains name ∧ !(startsNew ∧ a.has "recursive" ∨ startsNew) then
              tellOnly second name
            else if !ys.contains name ∧ !startsNew then tellOnly first name
            else compareNames a args fuel true (joinName first name) (joinName second name)
          pure (max code more)) 0
    | .missing .noEntry, .file n y =>
      if startsNew then compare (0, []) (n, y) else blameName first .noEntry
    | .file m x, .missing .noEntry =>
      if startsNew then compare (m, x) (0, []) else blameName second .noEntry
    | .directory, .file n y =>
      if inside then tellKinds first second "directory" "regular file"
      else
        let name := joinName first (lastName second)
        match ← sideOf name with
        | .file m x => compareTextsOf a none ⟨name, label 0, m, x⟩ ⟨second, label 1, n, y⟩
        | .directory => tellKinds name second "directory" "regular file"
        | .missing e => blameName name e
    | .file m x, .directory =>
      if inside then tellKinds first second "regular file" "directory"
      else
        let name := joinName second (lastName first)
        match ← sideOf name with
        | .file n y => compareTextsOf a none ⟨first, label 0, m, x⟩ ⟨name, label 1, n, y⟩
        | .directory => tellKinds first name "regular file" "directory"
        | .missing e => blameName name e
    | .missing e, .missing e2 => do
      let _ ← blameName first e
      blameName second e2
    | .missing e, _ => blameName first e
    | _, .missing e => blameName second e
where
  blameName (name : Text) (e : SystemError) : Eval Nat := do
    say (name.toString ++ ": " ++ errorText e)
    pure 2
  tellKinds (first second : Text) (kind other : String) : Eval Nat := do
    printLine ("File ".toList ++ first ++ (" is a " ++ kind ++ " while file ").toList ++ second
      ++ (" is a " ++ other).toList)
    pure 1

def diff (args : List Text) : Eval Nat := do
  match readArguments diffFlags true (args.length + 1) {} args with
  | .error text => refuse text
  | .ok a =>
    match a.operands with
    | [] => refuse ("missing operand after '" ++ ((args.getLast?).getD "diff".toList).toString ++ "'")
    | [only] => refuse ("missing operand after '" ++ only.toString ++ "'")
    | [first, second] => compareNames a args maxDepth false first second
    | _ :: _ :: extra :: _ => refuse ("extra operand '" ++ extra.toString ++ "'")
where
  refuse (text : String) : Eval Nat := do
    say text
    say ("Try '" ++ (← self).name.toString ++ " --help' for more information.")
    pure 2

end Slipway.Tool
