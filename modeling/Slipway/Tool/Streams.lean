import Slipway.Tool.Lines

/-!
# Programs that pass on their input

Whole inputs, their beginnings and ends, and counts of what is in them.
-/

namespace Slipway.Tool

open Shell

/-! ## cat -/

/-- Copies a channel to the standard output, block by block. -/
def copyChannel (id : Nat) : (fuel : Nat) → Eval (Except SystemError (Except SystemError Unit))
  | 0 => pure (.ok (.ok ()))
  | fuel + 1 => do
    match ← readFrom id blockSize with
    | .error e => pure (.error e)
    | .ok [] => pure (.ok (.ok ()))
    | .ok bytes =>
      match ← emit 1 bytes with
      | .ok () => copyChannel id fuel
      | .error e => pure (.ok (.error e))

/-- Whether a channel is a file that the standard output is appended to. -/
def isOwnOutput (id : Nat) : Eval Bool := do
  let s ← get
  match s.channels.lookup id, s.channelOf? 1 with
  | some (.file input offset _), some (.file output _ _) =>
    match s.machine.files.openNode? output with
    | some (.file data) =>
      pure (data.serial = input.serial && offset < data.content.length)
    | _ => pure false
  | _, _ => pure false

/-- How `cat` shows a character that cannot be seen. -/
def visibleChar (c : Char) : Text :=
  let n := c.toNat
  let low (n : Nat) : Text :=
    if n < 32 then ['^', Char.ofNat (n + 64)] else if n = 127 then ['^', '?'] else [Char.ofNat n]
  if c = '\n' ∨ c = '\t' then [c] else if n < 128 then low n else 'M' :: '-' :: low (n - 128)

/-- The lines of a text as `cat` shows them; `n` lines were numbered before. -/
def showLines (a : Arguments) : (n : Nat) → (afterEmpty : Bool) → List Text → List Text
  | _, _, [] => []
  | n, afterEmpty, line :: rest =>
    let isEmpty := line = ['\n']
    if isEmpty ∧ afterEmpty ∧ a.has "squeeze-blank" then showLines a n true rest
    else
      let counts := a.has "number" ∨ a.has "number-nonblank"
      let numbered := if a.has "number-nonblank" then !isEmpty else a.has "number"
      let number := if numbered then padLeft 6 (naturalText (n + 1)) ++ ['\t']
        else []
      let line := line.flatMap fun c =>
        if c = '\t' ∧ a.has "show-tabs" then ['^', 'I']
        else if c = '\n' ∧ a.has "show-ends" then ['$', '\n']
        else if a.has "show-nonprinting" then visibleChar c
        else [c]
      (number ++ line) :: showLines a (if counts && numbered then n + 1 else n) isEmpty rest

def catFlags : List Flag := [
  flag 'A' "show-all", flag 'b' "number-nonblank", flag 'e', flag 'E' "show-ends",
  flag 'n' "number", flag 's' "squeeze-blank", flag 't', flag 'T' "show-tabs", flag 'u',
  flag 'v' "show-nonprinting"]

/-- Some letters stand for several options. -/
def spellOut (option : String × Text) : List (String × Text) :=
  match option.1 with
  | "show-all" => [("show-nonprinting", []), ("show-ends", []), ("show-tabs", [])]
  | "e" => [("show-nonprinting", []), ("show-ends", [])]
  | "t" => [("show-nonprinting", []), ("show-tabs", [])]
  | "u" => []
  | _ => [option]

def cat (args : List Text) : Eval Nat :=
  withArguments catFlags args fun a => do
    let a := { a with options := a.options.flatMap spellOut }
    if a.options.isEmpty then
      forEach (inputsOf a) fun name => do
        match ← openInput name with
        | .error e => blameInput name e
        | .ok id =>
          if ← isOwnOutput id then blame (shown name ++ ": input file is output file")
          else
            match ← copyChannel id maxBlocks with
            | .error e => blameInput name e
            | .ok (.error e) => blame ("write error: " ++ errorText e)
            | .ok (.ok ()) => pure true
    else do
      let (inputs, ok) ← readInputs (inputsOf a)
      print (showLines a 0 false (wholeLines (inputs.flatMap (·.2)))).flatten
      pure (if ok then 0 else 1)

/-! ## head and tail -/

/-- The part of an input that is asked for. -/
structure Extent where
  count : Nat
  inBytes : Bool
  /-- Counted from the other end. -/
  reversed : Bool

/-- A count with an optional sign that says from where it counts. -/
def extent? (sign : Char) (inBytes : Bool) (text : Text) : Option Extent :=
  match text with
  | c :: rest =>
    if c = sign then (size? rest).map ({ count := ·, inBytes, reversed := true })
    else
      let digits := if sign = '+' ∧ c = '-' then rest else text
      (size? digits).map ({ count := ·, inBytes, reversed := false })
  | [] => none

/-- Options like `-5`, spelled out. -/
def spellCounts (args : List Text) : List Text :=
  match args with
  | ('-' :: d :: rest) :: more =>
    if isDigitChar d then
      let digits := (d :: rest).takeWhile isDigitChar
      let letters := (d :: rest).drop digits.length
      let unit := if letters.contains 'c' then 'c' else 'n'
      let others := letters.filter (fun c => c = 'q' || c = 'v')
      ['-', unit] :: digits :: (if others.isEmpty then [] else ['-' :: others]) ++ more
    else args
  | _ => args

def extentFlags : List Flag := [
  setting 'n' "lines", setting 'c' "bytes", flag 'q' "quiet", flag 'v' "verbose",
  longFlag "silent", flag 'z' "zero-terminated", flag 'f' "follow", flag 'F',
  setting 's' "sleep-interval", longFlag "pid" .value, longFlag "retry"]

/-- The headings are shown if there are several inputs, unless options say otherwise. -/
def showsHeadings (a : Arguments) : Bool :=
  match a.lastOf ["quiet", "silent", "verbose"] with
  | some "verbose" => true
  | some _ => false
  | none => 1 < a.operands.length

def heading (isFirst : Bool) (name : Text) : Text :=
  let name := if name = ['-'] then "standard input".toList else name
  (if isFirst then [] else ['\n']) ++ "==> ".toList ++ name ++ " <==\n".toList

/-- The extent that options ask for, ten lines otherwise, or the value that is none. -/
def extentOf (sign : Char) (a : Arguments) : Except String Extent :=
  match a.lastOf ["lines", "bytes"] with
  | none => .ok ⟨10, false, false⟩
  | some key =>
    let text := (a.value? key).getD []
    let unit := if key = "bytes" then "bytes" else "lines"
    match extent? sign (key = "bytes") text with
    | some e => .ok e
    | none =>
      let digits := if text.head? = some '-' ∨ text.head? = some '+' then text.drop 1 else text
      .error ("invalid number of " ++ unit ++ ": " ++ emphasized (if sign = '-' then digits else text))

/-- The beginning of a text. -/
def headOf (e : Extent) (text : Text) : Text :=
  if e.inBytes then (if e.reversed then text.take (text.length - e.count) else text.take e.count)
  else
    let lines := wholeLines text
    (lines.take (if e.reversed then lines.length - e.count else e.count)).flatten

/-- The end of a text. -/
def tailOf (e : Extent) (text : Text) : Text :=
  if e.inBytes then
    text.drop (if e.reversed then e.count - 1 else text.length - e.count)
  else
    let lines := wholeLines text
    (lines.drop (if e.reversed then e.count - 1 else lines.length - e.count)).flatten

/-- Reads blocks until so many lines are there, and gives what was read. -/
def readUntilLines (id count : Nat) : (fuel : Nat) → (found : Text) →
    Eval (Except SystemError Text)
  | 0, found => pure (.ok found)
  | fuel + 1, found => do
    if count ≤ found.count '\n' then pure (.ok found)
    else
      match ← readFrom id 8192 with
      | .error e => pure (.error e)
      | .ok [] => pure (.ok found)
      | .ok bytes => readUntilLines id count fuel (found ++ Text.ofBytes bytes)

/-- Reads bytes until so many are there. -/
def readCount (id : Nat) : (fuel : Nat) → (count : Nat) → (found : Bytes) →
    Eval (Except SystemError Bytes)
  | 0, _, found => pure (.ok found)
  | fuel + 1, count, found => do
    if count = 0 then pure (.ok found)
    else
      match ← readFrom id (min count blockSize) with
      | .error e => pure (.error e)
      | .ok [] => pure (.ok found)
      | .ok bytes => readCount id fuel (count - bytes.length) (found ++ bytes)

/-- The offset of a channel in its file. -/
def offsetOf (id : Nat) : Eval Nat := do
  match (← get).channels.lookup id with
  | some (.file _ offset _) => pure offset
  | _ => pure 0

/-- Reads the beginning of a channel. What was read too much of a file is given back. -/
def readHead (e : Extent) (id : Nat) : Eval (Except SystemError Text) := do
  let start ← offsetOf id
  let read : Except SystemError Text ←
    if e.reversed then (·.map Text.ofBytes) <$> readAll id
    else if e.inBytes then (·.map Text.ofBytes) <$> readCount id maxBlocks e.count []
    else readUntilLines id e.count maxBlocks []
  match read with
  | .error e => pure (.error e)
  | .ok text => do
    let found := headOf e text
    seekTo id (start + found.length)
    pure (.ok found)

/-- Shows parts of inputs, one after the other. -/
def showParts (a : Arguments)
    (read : Nat → Eval (Except SystemError Text)) : Eval Nat := do
  let names := inputsOf a
  let (ok, _) ← names.foldlM (fun (ok, isFirst) name => do
    match ← openInput name with
    | .error e => do
      say ("cannot open " ++ quoted name ++ " for reading: " ++ errorText e)
      pure (false, isFirst)
    | .ok id => do
      if showsHeadings a then print (heading isFirst name)
      match ← read id with
      | .error e => do
        say ("error reading " ++ quoted name ++ ": " ++ errorText e)
        pure (false, false)
      | .ok text => do
        print text
        pure (ok, false)) (true, true)
  pure (if ok then 0 else 1)

def head (args : List Text) : Eval Nat :=
  withArguments extentFlags (spellCounts args) fun a => do
    match extentOf '-' a with
    | .error text => do
      say text
      pure 1
    | .ok e => showParts a (readHead e)

/-- Options like `+5`, spelled out. -/
def spellFrom (args : List Text) : List Text :=
  match spellCounts args with
  | ('+' :: d :: rest) :: more =>
    if isDigitChar d then ['-', 'n'] :: ('+' :: d :: rest) :: more else ('+' :: d :: rest) :: more
  | args => args

def tail (args : List Text) : Eval Nat :=
  withArguments extentFlags (spellFrom args) fun a => do
    match extentOf '+' a with
    | .error text => do
      say text
      pure 1
    | .ok e => showParts a fun id => do
      return (← readAll id).map (fun bytes => tailOf e (Text.ofBytes bytes))

/-! ## wc -/

/-- Lines, words, characters, bytes and the length of the longest line. -/
def countsOf (text : Text) : List Nat :=
  let words := text.foldl (fun (n, inWord) c =>
    if isSpaceChar c then (n, false) else (if inWord then n else n + 1, true)) (0, false)
  let longest := ((linesOf text).map (fun line =>
    line.foldl (fun n c => if c = '\t' then n / 8 * 8 + 8 else if isPrintChar c then n + 1 else n) 0)
    ).foldl max 0
  [text.count '\n', words.1, text.length, text.length, longest]

def wcFlags : List Flag := [
  flag 'l' "lines", flag 'w' "words", flag 'm' "chars", flag 'c' "bytes",
  flag 'L' "max-line-length", longFlag "total" .value, longFlag "files0-from" .value]

def shownCounts (a : Arguments) : List Bool :=
  let chosen := ["lines", "words", "chars", "bytes", "max-line-length"].map a.has
  if chosen.any id then chosen else [true, true, false, true, false]

/-- The width of the columns: room for the size of all files, and for more if some are no files. -/
def columnWidth (names : List Text) (columns : Nat) : Eval Nat := do
  if names.length = 1 ∧ columns = 1 then return 1
  let sizes ← names.mapM fun name => do
    if name = ['-'] then
      let s ← get
      match s.channelOf? 0 with
      | some (.file file _ _) =>
        match s.machine.files.openNode? file with
        | some (.file data) => pure (data.content.length, 1)
        | _ => pure (0, 7)
      | _ => pure (0, 7)
    else
      match ← findNode (pathOf name) with
      | .ok (_, node) => if node.isRegular then pure (node.size, 1) else pure (0, 7)
      | .error _ => pure (0, 1)
  let total := (sizes.map (·.1)).foldl (· + ·) 0
  pure (max ((sizes.map (·.2)).foldl max 1) (naturalText total).length)

def wc (args : List Text) : Eval Nat :=
  withArguments wcFlags args fun a => do
    let chosen := shownCounts a
    let names := inputsOf a
    let width ← columnWidth names (chosen.count true)
    let line (counts : List Nat) (name : Text) : Text :=
      let numbers := ((counts.zip chosen).filter (·.2)).map
        (fun (n, _) => padLeft width (naturalText n))
      List.intercalate [' '] numbers ++ (if name.isEmpty then [] else ' ' :: name)
    let (ok, totals) ← names.foldlM (fun (ok, totals) name => do
      let shownAs := if a.operands.isEmpty then [] else name
      match ← openInput name with
      | .error e => do
        let _ ← blameInput name e
        pure (false, totals)
      | .ok id =>
        match ← readAll id with
        | .error e => do
          let _ ← blameInput name e
          printLine (line [0, 0, 0, 0, 0] shownAs)
          pure (false, totals)
        | .ok bytes => do
          let counts := countsOf (Text.ofBytes bytes)
          printLine (line counts shownAs)
          let longest := max (totals.getD 4 0) (counts.getD 4 0)
          pure (ok, ((totals.zip counts).map (fun (x, y) => x + y)).take 4 ++ [longest]))
      (true, [0, 0, 0, 0, 0])
    if 1 < names.length then printLine (line totals "total".toList)
    pure (if ok then 0 else 1)

/-! ## Others -/

def tee (args : List Text) : Eval Nat :=
  withArguments [flag 'a' "append", flag 'i' "ignore-interrupts", flag 'p',
      longFlag "output-error" .optional] args fun a => do
    let opening := if a.has "append" then Opening.append else .write
    let opened ← a.operands.mapM fun name => do
      match ← openFile opening name with
      | .ok id => pure (some id)
      | .error e => do
        let _ ← blameInput name e
        pure none
    let input ← match (← get).channel? 0 with
      | some id => readAll id
      | none => pure (.error badDescriptor)
    match input with
    | .error e => do
      say ("read error: " ++ errorText e)
      pure 1
    | .ok bytes => do
      let written ← if bytes.isEmpty then pure (.ok ()) else emit 1 bytes
      if let .error e := written then say ("'standard output': " ++ errorText e)
      (opened.filterMap id).forM fun id => do
        let _ ← writeTo id bytes
      pure (if opened.all Option.isSome ∧ written.isOk then 0 else 1)

/-- Writes the same text over and over again. -/
def repeatText (bytes : Bytes) : (fuel : Nat) → Eval Nat
  | 0 => pure 0
  | fuel + 1 => do
    match ← emit 1 bytes with
    | .ok () => repeatText bytes fuel
    | .error e => do
      say ("standard output: " ++ errorText e)
      pure 1

def yes (args : List Text) : Eval Nat := do
  let line := List.intercalate [' '] (if args.isEmpty then [['y']] else args) ++ ['\n']
  let copies := max 1 (8192 / line.length)
  repeatText (Text.toBytes (List.replicate copies line).flatten) 100000

def tac (args : List Text) : Eval Nat :=
  withArguments [flag 'b' "before", flag 'r' "regex", setting 's' "separator"] args fun a =>
    forEach (inputsOf a) fun name => do
      match ← readText name with
      | .ok text => do
        print (wholeLines text).reverse.flatten
        pure true
      | .error e =>
        if e = .isDirectory then blame (shown name ++ ": read error: " ++ errorText e)
        else blame ("failed to open " ++ quoted name ++ " for reading: " ++ errorText e)

def rev (args : List Text) : Eval Nat :=
  withArguments [flag '0' "zero"] args fun a =>
    forEach (inputsOf a) fun name => do
      match ← readText name with
      | .ok text => do
        (wholeLines text).forM fun line =>
          print (if line.getLast? = some '\n' then line.dropLast.reverse ++ ['\n'] else line.reverse)
        pure true
      | .error e => blame ("cannot open " ++ String.ofList name ++ ": " ++ errorText e)

end Slipway.Tool
