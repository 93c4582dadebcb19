import Slipway.Tool.Lines

/-!
# Programs about columns

Parts of lines, lines side by side, lines of a limited width, and lines with numbers.
-/

namespace Slipway.Tool

open Shell

/-! ## cut -/

/-- A range of positions, the first being 1; one end may be open. -/
structure Range where
  first : Nat
  last : Option Nat

def Range.contains (r : Range) (n : Nat) : Bool :=
  r.first ≤ n && r.last.all (fun last => n ≤ last)

def readRange (isField : Bool) (text : Text) : Except String Range :=
  let zero := if isField then "fields are numbered from 1"
    else "byte/character positions are numbered from 1"
  let what := if isField then "field value " else "byte/character position "
  let number (digits : Text) : Except String Nat :=
    match decimal? digits with
    | none => .error ("invalid " ++ what ++ emphasized text)
    | some 0 => .error zero
    | some n => .ok n
  match text.splitOn '-' with
  | [[], []] => .error ("invalid range with no endpoint: -")
  | [[], last] => (number last).map (⟨1, some ·⟩)
  | [first, []] => (number first).map (⟨·, none⟩)
  | [[]] => .error zero
  | [only] => (number only).map (fun n => ⟨n, some n⟩)
  | [first, last] => do
    let first ← number first
    let last ← number last
    if last < first then .error "invalid decreasing range" else .ok ⟨first, some last⟩
  | _ => .error ("invalid " ++ what ++ emphasized text)

def readRanges (isField : Bool) (text : Text) : Except String (List Range) :=
  (text.splitOn ',').flatMap (·.splitOn ' ') |>.mapM (readRange isField)

/-- How `cut` chooses from a line. -/
structure Cutting where
  ranges : List Range
  complement : Bool
  /-- What stands between the parts that are shown, if it is given. -/
  joint : Option Text

def Cutting.takes (c : Cutting) (n : Nat) : Bool := c.ranges.any (·.contains n) != c.complement

/-- Chosen characters; a joint stands between those of different ranges. -/
def Cutting.characters (c : Cutting) (line : Text) : Text :=
  let numbered := ((List.range line.length).map (· + 1)).zip line
  let starts := fun (n : Nat) =>
    if c.complement then !c.takes (n - 1) else c.ranges.any (·.first = n) && !(c.ranges.any
      (fun r => r.first < n && r.contains n))
  (numbered.foldl (fun (out, any) (n, char) =>
    if !c.takes n then (out, any)
    else (char :: (if any ∧ starts n then (c.joint.getD []).reverse else []) ++ out, true))
    ([], false)).1.reverse

/-- Chosen fields; a line without a delimiter is shown as it is, or not at all. -/
def Cutting.fields (c : Cutting) (delimiter : Char) (onlyDelimited : Bool) (line : Text) :
    Option Text :=
  if !line.contains delimiter then (if onlyDelimited then none else some line)
  else
    let fields := line.splitOn delimiter
    let numbered := ((List.range fields.length).map (· + 1)).zip fields
    some (List.intercalate (c.joint.getD [delimiter])
      ((numbered.filter (fun (n, _) => c.takes n)).map (·.2)))

def cutFlags : List Flag := [
  setting 'b' "bytes", setting 'c' "characters", setting 'd' "delimiter", setting 'f' "fields",
  flag 'n', flag 's' "only-delimited", longFlag "complement", longFlag "output-delimiter" .value,
  flag 'z' "zero-terminated"]

def cut (args : List Text) : Eval Nat :=
  withArguments cutFlags args fun a => do
    let lists := a.options.filter (fun o => ["bytes", "characters", "fields"].contains o.1)
    let delimiter := (a.value? "delimiter").getD ['\t']
    match lists with
    | [] =>
      if (a.value? "delimiter").any (fun d => 1 < d.length) then
        misuse "the delimiter must be a single character"
      else misuse "you must specify a list of bytes, characters, or fields"
    | _ :: _ :: _ => misuse "only one list may be specified"
    | [(kind, list)] =>
      let isField := kind = "fields"
      match readRanges isField list with
      | .error text => misuse text
      | .ok ranges =>
        if 1 < delimiter.length then misuse "the delimiter must be a single character"
        else if !isField ∧ a.has "delimiter" then
          misuse "an input delimiter may be specified only when operating on fields"
        else if !isField ∧ a.has "only-delimited" then
          misuse "suppressing non-delimited lines makes sense\n\tonly when operating on fields"
        else
          let cutting : Cutting :=
            { ranges, complement := a.has "complement", joint := a.value? "output-delimiter" }
          let mark := if a.has "zero-terminated" then '\x00' else '\n'
          forEach (inputsOf a) fun name => do
            match ← readText name with
            | .error e => blame (shown name ++ ": " ++ errorText e)
            | .ok text => do
              (splitAtChar mark text).forM fun line =>
                if isField then
                  match cutting.fields (delimiter.headD '\x00') (a.has "only-delimited") line with
                  | some line => print (line ++ [mark])
                  | none => pure ()
                else print (cutting.characters line ++ [mark])
              pure true

/-! ## paste -/

/-- The delimiters of `paste`, each of which may be empty. -/
def readDelimiters : Text → List Text
  | [] => []
  | '\\' :: c :: rest =>
    (match c with
      | 'n' => ['\n']
      | 't' => ['\t']
      | '0' => []
      | 'b' => ['\x08']
      | 'f' => ['\x0c']
      | 'r' => ['\r']
      | 'v' => ['\x0b']
      | c => [c]) :: readDelimiters rest
  | c :: rest => [c] :: readDelimiters rest

/-- Texts with delimiters between them, taken in turn. -/
def joinInTurn (delimiters : List Text) (parts : List Text) : Text :=
  let count := max 1 delimiters.length
  (((List.range parts.length).zip parts).map (fun (i, part) =>
    if i = 0 then part else delimiters.getD ((i - 1) % count) [] ++ part)).flatten

/-- The lines of inputs side by side. The standard input is shared by those who read it. -/
def pasteRows (delimiters : List Text) : (fuel : Nat) → (sources : List (Option (List Text))) →
    (shared : List Text) → List Text
  | 0, _, _ => []
  | fuel + 1, sources, shared =>
    let step := fun (acc : List Text × List (Option (List Text)) × List Text × Bool)
        (source : Option (List Text)) =>
      let (row, left, shared, any) := acc
      match source with
      | none => (row ++ [shared.headD []], left ++ [none], shared.drop 1, any || !shared.isEmpty)
      | some lines => (row ++ [lines.headD []], left ++ [some (lines.drop 1)], shared,
          any || !lines.isEmpty)
    let (row, left, shared, any) := sources.foldl step ([], [], shared, false)
    if any then joinInTurn delimiters row :: pasteRows delimiters fuel left shared else []

def paste (args : List Text) : Eval Nat :=
  withArguments [setting 'd' "delimiters", flag 's' "serial", flag 'z' "zero-terminated"] args
    fun a => do
    let delimiters := readDelimiters ((a.value? "delimiters").getD ['\t'])
    let names := inputsOf a
    let (inputs, ok) ← readInputs (if a.has "serial" then names
      else names.filter (· ≠ ['-']))
    if a.has "serial" then
      inputs.forM (fun (_, text) => printLine (joinInTurn delimiters (linesOf text)))
      pure (if ok then 0 else 1)
    else if !ok then pure 1
    else
      let input : Except SystemError Text ←
        if names.contains ['-'] then readText ['-'] else pure (.ok [])
      let shared := linesOf (input.toOption.getD [])
      let sources := names.map fun name =>
        if name = ['-'] then none else (inputs.lookup name).map linesOf
      let longest := (sources.map (fun s => ((s.map List.length).getD 0))).foldl max shared.length
      (pasteRows delimiters (longest + 1) sources shared).forM printLine
      pure 0

/-! ## fold -/

/-- The column behind a character. -/
def columnAfter (inBytes : Bool) (column : Nat) (c : Char) : Nat :=
  if inBytes then column + 1
  else if c = '\t' then column / 8 * 8 + 8
  else if c = '\x08' then column - 1
  else if c = '\r' then 0
  else column + 1

/-- Breaks a line into lines of a width; with `atBlanks` behind the last blank where there is one. -/
def foldLine (width : Nat) (atBlanks inBytes : Bool) : (fuel : Nat) → (current : Text) →
    (column : Nat) → Text → List Text
  | 0, current, _, rest => [current.reverse ++ rest]
  | _, current, _, [] => [current.reverse]
  | fuel + 1, current, column, c :: rest =>
    let after := columnAfter inBytes column c
    if after ≤ width ∨ current.isEmpty then
      foldLine width atBlanks inBytes fuel (c :: current) after rest
    else
      let tail := current.takeWhile (fun c => c ≠ ' ' ∧ c ≠ '\t')
      if atBlanks ∧ tail.length < current.length then
        (current.drop tail.length).reverse
          :: foldLine width atBlanks inBytes fuel [] 0 (tail.reverse ++ c :: rest)
      else current.reverse :: foldLine width atBlanks inBytes fuel [] 0 (c :: rest)

def fold (args : List Text) : Eval Nat :=
  withArguments [flag 'b' "bytes", flag 's' "spaces", setting 'w' "width"] args fun a => do
    let widthText := (a.value? "width").getD "80".toList
    match decimal? widthText with
    | none => do
      say ("invalid number of columns: " ++ emphasized widthText)
      pure 1
    | some 0 => do
      say ("invalid number of columns: " ++ emphasized widthText ++ ": Numerical result out of range")
      pure 1
    | some width =>
      forEach (inputsOf a) fun name => do
        match ← readText name with
        | .error e => blameInput name e
        | .ok text => do
          let broken := (linesOf text).map fun line =>
            List.intercalate ['\n']
              (foldLine width (a.has "spaces") (a.has "bytes") (2 * line.length * line.length + 9)
                [] 0 line)
          print (List.intercalate ['\n'] broken)
          if !text.isEmpty ∧ !endsOpen text then print ['\n']
          pure true

/-! ## nl -/

def nl (args : List Text) : Eval Nat :=
  withArguments [setting 'b' "body-numbering", setting 'w' "number-width",
      setting 's' "number-separator", setting 'v' "starting-line-number",
      setting 'i' "line-increment", setting 'n' "number-format", setting 'h', setting 'f',
      setting 'd', setting 'l', flag 'p'] args fun a => do
    let numberOf (key : String) (usual : Nat) : Nat := ((a.value? key).bind decimal?).getD usual
    let style := String.ofList ((a.value? "body-numbering").getD ['t'])
    let width := numberOf "number-width" 6
    let separator := (a.value? "number-separator").getD ['\t']
    let step := numberOf "line-increment" 1
    let render (n : Nat) : Text :=
      let digits := naturalText n
      match String.ofList ((a.value? "number-format").getD "rn".toList) with
      | "ln" => padRight width digits
      | "rz" => List.replicate (width - digits.length) '0' ++ digits
      | _ => padLeft width digits
    let (inputs, ok) ← readInputs (inputsOf a)
    let _ ← (linesOf (inputs.flatMap (·.2))).foldlM (fun n line => do
      if style = "a" ∨ (style = "t" ∧ !line.isEmpty) then
        printLine (render n ++ separator ++ line)
        pure (n + step)
      else
        printLine (List.replicate (width + separator.length) ' ' ++ line)
        pure n) (numberOf "starting-line-number" 1)
    pure (if ok then 0 else 1)

/-! ## expand -/

/-- Blanks in place of a tab up to the next column that is a multiple of `width`. -/
def expandTabs (width : Nat) : (column : Nat) → Text → Text
  | _, [] => []
  | column, c :: rest =>
    if c = '\t' then
      let count := width - column % width
      List.replicate count ' ' ++ expandTabs width (column + count) rest
    else if c = '\n' then c :: expandTabs width 0 rest
    else c :: expandTabs width (column + 1) rest

def expand (args : List Text) : Eval Nat :=
  withArguments [flag 'i' "initial", setting 't' "tabs"] args fun a => do
    let width := max 1 (((a.value? "tabs").bind decimal?).getD 8)
    let (inputs, ok) ← readInputs (inputsOf a)
    print (expandTabs width 0 (inputs.flatMap (·.2)))
    pure (if ok then 0 else 1)

/-! ## unexpand -/

/-- Where tabs lead: to places in a list, and behind them nowhere, or to multiples of a width. -/
inductive TabStops
  | every (width : Nat)
  | list (places : List Nat)

/-- The next place for a tab behind a column. -/
def TabStops.next? (t : TabStops) (column : Nat) : Option Nat :=
  match t with
  | .every width => some (column + (width - column % width))
  | .list places => places.find? (column < ·)

/-- A line whose blanks are being replaced by tabs. -/
structure Tabbing where
  converts : Bool := true
  column : Nat := 0
  /-- Blanks that may still become a tab. -/
  pending : Text := []
  afterBlank : Bool := true
  /-- The first of them stands just in front of a tab stop. -/
  atStop : Bool := false

namespace Tabbing

/-- What is written of the pending blanks once it is clear that they stay. -/
def settled (t : Tabbing) : Text :=
  if t.atStop ∧ 1 < t.pending.length then '\t' :: t.pending.drop 1 else t.pending

/-- Takes a character, and gives what is written for it. -/
def take (stops : TabStops) (all : Bool) (t : Tabbing) (c : Char) : Tabbing × Text :=
  if c = '\n' then ({}, t.settled ++ [c])
  else if !t.converts then (t, [c])
  else
    let write (t : Tabbing) (isBlank : Bool) (c : Char) : Tabbing × Text :=
      ({ t with pending := [], atStop := false, afterBlank := isBlank, converts := all || isBlank },
        t.settled ++ [c])
    if isBlankChar c then
      match stops.next? t.column with
      | none => write { t with converts := false } true c |> fun (t, text) =>
          ({ t with converts := false }, text)
      | some next =>
        let kept (t : Tabbing) : Tabbing := { t with pending := if t.atStop then ['\t'] else [] }
        if c = '\t' then write (kept { t with column := next }) true '\t'
        else
          let t := { t with column := t.column + 1 }
          if t.afterBlank ∧ t.column = next then write (kept t) true '\t'
          else
            ({ t with
              atStop := t.atStop || t.column = next
              pending := t.pending ++ [c]
              afterBlank := true }, [])
    else write { t with column := if c = '\x08' then t.column - 1 else t.column + 1 } false c

def takeAll (stops : TabStops) (all : Bool) : Tabbing → Text → Text
  | t, [] => t.settled
  | t, c :: rest =>
    let (t, text) := t.take stops all c
    text ++ takeAll stops all t rest

end Tabbing

/-- The places that a list names. -/
def readStops (text : Text) : TabStops :=
  let numbers := (text.splitOnP (fun c => c = ',' ∨ isBlankChar c)).filterMap decimal?
  match numbers with
  | [width] => .every (max 1 width)
  | [] => .every 8
  | places => .list places

def unexpand (args : List Text) : Eval Nat :=
  withArguments [flag 'a' "all", longFlag "first-only", setting 't' "tabs"] args fun a => do
    let stops := ((a.value? "tabs").map readStops).getD (.every 8)
    let all := (a.has "all" || a.has "tabs") && !a.has "first-only"
    let (inputs, ok) ← readInputs (inputsOf a)
    print (Tabbing.takeAll stops all {} (inputs.flatMap (·.2)))
    pure (if ok then 0 else 1)

end Slipway.Tool
