import Slipway.Calendar.Format
import Slipway.Tool.Columns

/-!
# Pages

Files in pages with headers, in one column or in several that are filled downwards, across, or each
from a file of its own.
-/

namespace Slipway.Tool

open Shell

/-- How pages look. -/
structure PagePlan where
  columns : Nat := 1
  across : Bool := false
  merges : Bool := false
  /-- The lines of a page, with its header and what is below. -/
  length : Nat := 66
  width : Nat := 72
  cutsLines : Bool := false
  bare : Bool := false
  doubled : Bool := false
  title : Option Text := none
  dateFormat : Text := "%Y-%m-%d %H:%M".toList
  margin : Nat := 0
  /-- The sign behind numbers of lines and the width of these. -/
  numbers : Option (Char × Nat) := none
  firstNumber : Nat := 1
  separator : Option Text := none
  firstPage : Nat := 1
  formFeeds : Bool := false
  expandsTabs : Bool := false

namespace PagePlan

def isBare (p : PagePlan) : Bool := p.bare || p.length ≤ 10

/-- The lines of text on a page. -/
def body (p : PagePlan) : Nat :=
  let lines := if p.isBare then p.length else p.length - 10
  max 1 (if p.doubled then lines / 2 else lines)

def columnWidth (p : PagePlan) : Nat :=
  (p.width - (p.columns - 1)) / max 1 p.columns

/-! ## Rows -/

/-- Groups of at most so many. -/
def grouped {α : Type} (size : Nat) : (fuel : Nat) → List α → List (List α)
  | 0, _ => []
  | fuel + 1, items =>
    if items.isEmpty then [] else items.take size :: grouped size fuel (items.drop size)

/-- The heights of columns that share lines as evenly as they can. -/
def heights (p : PagePlan) (count : Nat) : List Nat :=
  (List.range p.columns).map fun i =>
    count / p.columns + (if i < count % p.columns then 1 else 0)

/-- Lists one below the other as rows. -/
def rowsOf (columns : List (List Text)) : List (List (Option Text)) :=
  let height := (columns.map List.length).foldl max 0
  (List.range height).map fun i => columns.map (·[i]?)

/-- The rows of each page. -/
def pages (p : PagePlan) (lines : List Text) : List (List (List (Option Text))) :=
  let fuel := lines.length + 1
  if p.columns ≤ 1 then (grouped p.body fuel lines).map (fun page => page.map (fun line => [some line]))
  else if p.across then
    grouped p.body fuel ((grouped p.columns fuel lines).map (fun row => row.map some))
  else
    (grouped (p.body * p.columns) fuel lines).map fun page =>
      let (columns, _) := (p.heights page.length).foldl
        (fun (columns, rest) height => (columns ++ [rest.take height], rest.drop height))
        (([] : List (List Text)), page)
      rowsOf columns

/-! ## Lines -/

/-- Blanks from one column to another, with tabs where they save something. -/
def blanksTo : (fuel : Nat) → (start stop : Nat) → Text
  | 0, _, _ => []
  | fuel + 1, start, stop =>
    let next := start + 8 - start % 8
    if 1 < stop - start ∧ next ≤ stop then '\t' :: blanksTo fuel next stop
    else List.replicate (stop - start) ' '

/-- The cells of a row at their places. -/
def place (p : PagePlan) : (index column : Nat) → List (Option Text) → Text
  | _, _, [] => []
  | index, column, cell :: rest =>
    let text := ((cell.map (expandTabs 8 0)).getD []).take p.columnWidth
    if text.isEmpty then place p (index + 1) column rest
    else
      let start := index * (p.columnWidth + 1)
      blanksTo (start + 1) column start ++ text
        ++ place p (index + 1) (max column start + text.length) rest

def rowText (p : PagePlan) (row : List (Option Text)) : Text :=
  let line := match p.separator with
    | some separator =>
      let present := (row.reverse.dropWhile Option.isNone).reverse
      List.intercalate separator (present.map (·.getD []))
    | none =>
      if p.columns ≤ 1 then
        let text := ((row.head?.bind (fun cell => cell)).getD [])
        let text := if p.expandsTabs then expandTabs 8 0 text else text
        if p.cutsLines then text.take p.width else text
      else p.place 0 0 row
  (if line.isEmpty then [] else List.replicate p.margin ' ') ++ line ++ ['\n']
    ++ (if p.doubled then ['\n'] else [])

/-- The lines above a page. -/
def header (p : PagePlan) (date title : Text) (number : Nat) : Text :=
  let page := "Page ".toList ++ naturalText number
  let room := p.width - date.length - title.length - page.length
  let left := room / 2
  let between (n : Nat) : Text := List.replicate (max 1 n) ' '
  "\n\n".toList ++ List.replicate p.margin ' ' ++ date ++ between left ++ title
    ++ between (room - left) ++ page ++ "\n\n\n".toList

/-- A page with everything around its rows. -/
def page (p : PagePlan) (date title : Text) (number : Nat) (rows : List (List (Option Text))) : Text :=
  let text := rows.flatMap p.rowText
  if p.isBare then text ++ (if p.formFeeds then ['\x0c'] else [])
  else
    let used := rows.length * (if p.doubled then 2 else 1)
    let below := if p.formFeeds then ['\x0c'] else List.replicate (p.length - 5 - used) '\n'
    p.header date title number ++ text ++ below

/-- Lines with their numbers in front. -/
def number (p : PagePlan) (lines : List Text) : List Text :=
  match p.numbers with
  | none => lines
  | some (c, width) =>
    lines.zipIdx.map fun (line, i) =>
      let digits := naturalText (p.firstNumber + i)
      padLeft width (digits.drop (digits.length - width)) ++ c :: line

/-- All pages for a list of rows. -/
def render (p : PagePlan) (date title : Text) (pages : List (List (List (Option Text)))) : Text :=
  (pages.zipIdx.filter (fun (_, i) => p.firstPage ≤ i + 1)).flatMap
    fun (rows, i) => p.page date title (i + 1) rows

end PagePlan

/-! ## The program -/

def prFlags : List Flag := [
  longFlag "columns" .value, longFlag "pages" .value, flag 'a' "across", flag 'c', flag 'd' "double-space",
  setting 'D' "date-format", { letter := some 'e', word := "expand-tabs", takes := .optional },
  flag 'F' "form-feed", flag 'f', setting 'h' "header",
  { letter := some 'i', word := "output-tabs", takes := .optional }, flag 'J' "join-lines",
  setting 'l' "length", flag 'm' "merge",
  { letter := some 'n', word := "number-lines", takes := .optional },
  setting 'N' "first-line-number", setting 'o' "indent", flag 'r' "no-file-warnings",
  { letter := some 's', word := "separator", takes := .optional },
  { letter := some 'S', word := "sep-string", takes := .optional }, flag 't' "omit-header",
  flag 'T' "omit-pagination", flag 'v' "show-nonprinting", setting 'w' "width", setting 'W' "page-width"]

/-- Numbers alone as options are counts of columns; behind a plus sign they are pages. -/
def spellPages (args : List Text) : List Text :=
  args.map fun arg =>
    match arg with
    | '-' :: d :: rest =>
      if (d :: rest).all isDigitChar then "--columns=".toList ++ d :: rest else arg
    | '+' :: d :: rest => if isDigitChar d then "--pages=".toList ++ d :: rest else arg
    | arg => arg

def PagePlan.ofArguments (a : Arguments) : PagePlan :=
  let number (key : String) (usual : Nat) : Nat := ((a.value? key).bind decimal?).getD usual
  let numbers := (a.value? "number-lines").map fun text =>
    match text with
    | [] => ('\t', 5)
    | c :: rest =>
      if isDigitChar c then ('\t', (decimal? text).getD 5)
      else (c, (decimal? rest).getD 5)
  let separator := match a.value? "sep-string", a.value? "separator" with
    | some text, _ => some text
    | none, some [] => some ['\t']
    | none, some text => some text
    | none, none => if a.has "join-lines" then some ['\t'] else none
  { columns := max 1 (number "columns" 1)
    across := a.has "across"
    merges := a.has "merge"
    length := number "length" 66
    width := number "page-width" (number "width" 72)
    cutsLines := a.has "page-width"
    bare := a.has "omit-header" || a.has "omit-pagination"
    doubled := a.has "double-space"
    title := a.value? "header"
    dateFormat := (a.value? "date-format").getD "%Y-%m-%d %H:%M".toList
    margin := number "indent" 0
    numbers
    firstNumber := number "first-line-number" 1
    separator
    firstPage := (((a.value? "pages").map (·.takeWhile isDigitChar)).bind decimal?).getD 1
    formFeeds := a.has "form-feed" || a.has "f"
    expandsTabs := a.has "expand-tabs" }

/-- When an input was changed last. -/
def changedAt (name : Text) : Eval Int := do
  let now := (← get).machine.now
  if name = ['-'] then pure now
  else
    match ← findNode (pathOf name) with
    | .ok (_, node) => pure (FileSystem.statusOf now node).modified
    | .error _ => pure now

def pr (args : List Text) : Eval Nat :=
  withArguments prFlags (spellPages args) fun a => do
    let p := PagePlan.ofArguments a
    let read (name : Text) : Eval (Option Text) := do
      match ← readText name with
      | .ok text => pure (some text)
      | .error e => do
        if !a.has "no-file-warnings" then say (shown name ++ ": " ++ errorText e)
        pure none
    let dateOf (seconds : Int) : Text := (Moment.ofSeconds seconds).format 0 p.dateFormat
    if p.merges then do
      let texts ← (inputsOf a).mapM read
      let p := { p with columns := texts.length }
      let rows := PagePlan.rowsOf ((texts.filterMap id).map linesOf)
      let rows := match p.numbers with
        | none => rows
        | some _ =>
          let labels := p.number (rows.map (fun _ => []))
          (labels.zip rows).map fun (label, row) =>
            match row with
            | first :: rest => some (label ++ first.getD []) :: rest
            | [] => []
      print (p.render (dateOf (← get).machine.now) (p.title.getD [])
        (PagePlan.grouped p.body (rows.length + 1) rows))
      pure (if texts.all Option.isSome then 0 else 1)
    else
      forEach (inputsOf a) fun name => do
        match ← read name with
        | none => pure false
        | some text => do
          let title := p.title.getD (if name = ['-'] then [] else name)
          print (p.render (dateOf (← changedAt name)) title (p.pages (p.number (linesOf text))))
          pure true

end Slipway.Tool
