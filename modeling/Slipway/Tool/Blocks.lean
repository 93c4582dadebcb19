import Slipway.Tool.Lines

/-!
# Copying blocks

A program that copies its input in blocks of given sizes, from one place to another, with the bytes
converted on the way.
-/

namespace Slipway.Tool

open Shell

/-! ## Operands -/

/-- One number with a letter behind it for what it is multiplied by; `B` tells that bytes are
counted. -/
def blockFactor? (text : Text) : Option Nat :=
  let digits := text.takeWhile isDigitChar
  let unit := String.ofList (text.drop digits.length)
  if digits.isEmpty then none
  else
    let scale := match unit with
      | "c" => some 1
      | "w" => some 2
      | "B" => some 1
      | _ => (size? text).bind (fun _ => size? ('1' :: text.drop digits.length))
    scale.map (valueOfDigits 10 digits * ·)

/-- A product of numbers. -/
def blockNumber? (text : Text) : Option Nat :=
  (text.splitOn 'x').foldl (fun product part => do
    let n ← product
    let m ← blockFactor? part
    pure (n * m)) (some 1)

/-- What is to be copied. -/
structure BlockPlan where
  input : Option Text := none
  output : Option Text := none
  inputSize : Nat := 512
  outputSize : Nat := 512
  /-- Whether blocks are written as they were read. -/
  whole : Bool := false
  recordSize : Nat := 0
  count : Option Nat := none
  skip : Nat := 0
  seek : Nat := 0
  conversions : List String := []
  inputFlags : List String := []
  outputFlags : List String := []
  status : String := ""

def conversionNames : List String := [
  "ascii", "ebcdic", "ibm", "block", "unblock", "lcase", "ucase", "sparse", "swab", "sync", "excl",
  "nocreat", "notrunc", "noerror", "fdatasync", "fsync"]

def blockFlagNames : List String := [
  "append", "binary", "cio", "direct", "directory", "dsync", "fullblock", "noatime", "nocache",
  "noctty", "nofollow", "nolinks", "nonblock", "sync", "text", "count_bytes", "skip_bytes",
  "seek_bytes"]

/-- Conversions of which only one can be asked for. -/
def exclusiveConversions : List (List String) := [
  ["ascii", "ebcdic", "ibm"], ["block", "unblock"], ["lcase", "ucase"], ["excl", "nocreat"]]

/-- Reads one operand. An error has a text, and tells whether it is about the usage. -/
def BlockPlan.read (p : BlockPlan) (arg : Text) : Except (String × Bool) BlockPlan :=
  let key := arg.takeWhile (· ≠ '=')
  let value := arg.drop (key.length + 1)
  let inBytes := value.getLast? = some 'B' && !(value.dropLast.getLast?.map isLetterChar).getD true
  let number (f : Nat → BlockPlan) : Except (String × Bool) BlockPlan :=
    match blockNumber? value with
    | some n => .ok (f n)
    | none => .error ("invalid number: " ++ emphasized value, false)
  let positive (f : Nat → BlockPlan) : Except (String × Bool) BlockPlan :=
    match blockNumber? value with
    | some 0 => .error ("invalid number: " ++ emphasized value, false)
    | _ => number f
  let names (known : List String) (kind : String) (f : List String → BlockPlan) :
      Except (String × Bool) BlockPlan :=
    let given := (value.splitOn ',').map String.ofList
    match given.find? (fun name => !known.contains name) with
    | some name => .error ("invalid " ++ kind ++ ": " ++ emphasized name.toList, true)
    | none => .ok (f given)
  if !arg.contains '=' then .error ("unrecognized operand " ++ emphasized arg, true)
  else
    match String.ofList key with
    | "if" => .ok { p with input := some value }
    | "of" => .ok { p with output := some value }
    | "bs" => positive (fun n => { p with inputSize := n, outputSize := n, whole := true })
    | "ibs" => positive (fun n => if p.whole then p else { p with inputSize := n })
    | "obs" => positive (fun n => if p.whole then p else { p with outputSize := n })
    | "cbs" => positive (fun n => { p with recordSize := n })
    | "count" => number (fun n => { p with
        count := some n
        inputFlags := if inBytes then "count_bytes" :: p.inputFlags else p.inputFlags })
    | "skip" => number (fun n => { p with
        skip := n
        inputFlags := if inBytes then "skip_bytes" :: p.inputFlags else p.inputFlags })
    | "iseek" => number (fun n => { p with skip := n })
    | "seek" => number (fun n => { p with
        seek := n
        outputFlags := if inBytes then "seek_bytes" :: p.outputFlags else p.outputFlags })
    | "oseek" => number (fun n => { p with seek := n })
    | "conv" => names conversionNames "conversion" (fun given => { p with
        conversions := p.conversions ++ given })
    | "iflag" => names blockFlagNames "input flag" (fun given => { p with
        inputFlags := p.inputFlags ++ given })
    | "oflag" => names blockFlagNames "output flag" (fun given => { p with
        outputFlags := p.outputFlags ++ given })
    | "status" =>
      let name := String.ofList value
      if ["none", "noxfer", "progress"].contains name then .ok { p with status := name }
      else .error ("invalid status level: " ++ emphasized value, true)
    | _ => .error ("unrecognized operand " ++ emphasized arg, true)

/-! ## Conversions -/

/-- Every two bytes in the other order. -/
def swapPairs : Text → Text
  | a :: b :: rest => b :: a :: swapPairs rest
  | rest => rest

/-- Lines as records of one length, and how many were too long. -/
def linesToRecords (size : Nat) (text : Text) : Text × Nat :=
  let lines := linesOf text
  (lines.flatMap (fun line => padRight size (line.take size)),
    (lines.filter (fun line => size < line.length)).length)

/-- Records of one length as lines without blanks at their ends. -/
def recordsToLines (size : Nat) : (fuel : Nat) → Text → Text
  | 0, _ => []
  | fuel + 1, text =>
    if text.isEmpty then []
    else
      ((text.take size).reverse.dropWhile (· = ' ')).reverse
        ++ '\n' :: recordsToLines size fuel (text.drop size)

def BlockPlan.has (p : BlockPlan) (conversion : String) : Bool := p.conversions.contains conversion

/-- Everything that was read, converted, and how many records were cut. -/
def BlockPlan.convert (p : BlockPlan) (text : Text) : Text × Nat :=
  let text := if p.has "swab" then swapPairs text else text
  let text := if p.has "lcase" then text.map Char.toLower
    else if p.has "ucase" then text.map Char.toUpper else text
  if p.recordSize = 0 then (text, 0)
  else if p.has "block" then linesToRecords p.recordSize text
  else if p.has "unblock" then (recordsToLines p.recordSize (text.length + 1) text, 0)
  else (text, 0)

/-! ## Copying -/

/-- Blocks of a channel as they were read, and the error that ended them. -/
def readBlocks (id size : Nat) (left : Option Nat) : (fuel : Nat) → Eval (List Text × Option SystemError)
  | 0 => pure ([], none)
  | fuel + 1 => do
    let size := min size (left.getD size)
    if size = 0 then return ([], none)
    match ← readFrom id size with
    | .error e => pure ([], some e)
    | .ok [] => pure ([], none)
    | .ok bytes => do
      let (more, e) ← readBlocks id size (left.map (· - bytes.length)) fuel
      pure (Text.ofBytes bytes :: more, e)

/-- An amount of bytes with a letter, to one digit behind the point if it is small. -/
def amountText (base : Nat) (bytes : Nat) (letters : List String) : String :=
  let rec go (fuel n scale : Nat) : List String → String
    | [] => ""
    | letter :: rest =>
      match fuel with
      | 0 => ""
      | fuel + 1 =>
        if n < scale * base ∨ rest.isEmpty then
          let tenths := (n * 10 * 2 + scale) / (scale * 2)
          if scale = 1 then toString n ++ " " ++ letter
          else if tenths < 100 then
            toString (tenths / 10) ++ "." ++ toString (tenths % 10) ++ " " ++ letter
          else toString ((n * 2 + scale) / (scale * 2)) ++ " " ++ letter
        else go fuel n (scale * base) rest
  go 20 bytes 1 letters

/-- How much was copied. -/
def copiedText (bytes : Nat) : String :=
  let start := toString bytes ++ (if bytes = 1 then " byte" else " bytes")
  let decimal := amountText 1000 bytes ["B", "kB", "MB", "GB", "TB"]
  let binary := amountText 1024 bytes ["B", "KiB", "MiB", "GiB", "TiB"]
  if bytes < 1000 then start
  else if bytes < 1024 then start ++ " (" ++ decimal ++ ")"
  else start ++ " (" ++ decimal ++ ", " ++ binary ++ ")"

/-- Tells of the blocks that were read and written. -/
def BlockPlan.report (p : BlockPlan) (inputs outputs : Nat × Nat) (cut bytes : Nat) : Eval Unit := do
  if p.status = "none" then return
  complain (toString inputs.1 ++ "+" ++ toString inputs.2 ++ " records in\n"
    ++ toString outputs.1 ++ "+" ++ toString outputs.2 ++ " records out\n")
  if 0 < cut then
    complain (toString cut ++ " truncated record" ++ (if cut = 1 then "\n" else "s\n"))
  if p.status ≠ "noxfer" then
    complain (copiedText bytes ++ " copied, 0.0001 s, 0.0 kB/s\n")

/-- How many full and partial blocks of a size there are. -/
def countBlocks (size : Nat) (blocks : List Text) : Nat × Nat :=
  let full := (blocks.filter (fun block => block.length = size)).length
  (full, blocks.length - full)

/-- Where the output goes, at its place. -/
def BlockPlan.openOutput (p : BlockPlan) : Eval (Except SystemError Nat) := do
  let place := if p.outputFlags.contains "seek_bytes" then p.seek else p.seek * p.outputSize
  match p.output with
  | none =>
    match (← get).channel? 1 with
    | some id => pure (.ok id)
    | none => pure (.error badDescriptor)
  | some name => do
    let exists? := (← findNode (pathOf name)).isOk
    if p.has "nocreat" ∧ !exists? then return .error .noEntry
    let keeps := p.has "notrunc" || 0 < place || p.outputFlags.contains "append"
    let before ← if keeps ∧ exists? ∧ !p.has "notrunc" then contentOf name else pure (.ok [])
    let opened ← openFile (if p.has "excl" then .fresh
      else if p.outputFlags.contains "append" then .append
      else if p.has "notrunc" then .both else .write) name
    match opened, before with
    | .ok id, .ok bytes => do
      if keeps ∧ !p.has "notrunc" ∧ !p.outputFlags.contains "append" then do
        let _ ← writeTo id (bytes.take place)
      seekTo id place
      pure (.ok id)
    | result, _ => pure result

/-- Copies from one channel to another. -/
def BlockPlan.copy (p : BlockPlan) (input output : Nat) : Eval Nat := do
  let inputName := match p.input with
    | some name => name
    | none => "standard input".toList
  let skipped := if p.inputFlags.contains "skip_bytes" then p.skip else p.skip * p.inputSize
  let (passed, _) ← readBlocks input (max skipped 1) (some skipped) (skipped + 1)
  let passedCount := passed.foldl (fun n block => n + block.length) 0
  if passedCount < skipped ∧ p.status ≠ "none" then
    say (quoted inputName ++ ": cannot skip to specified offset")
  let countsBytes := p.inputFlags.contains "count_bytes"
  let limit := if countsBytes then p.count else none
  let rounds := if countsBytes then p.count.map (· + 1) else p.count
  let (blocks, e) ← readBlocks input p.inputSize limit (rounds.getD 1000000)
  let inputs := countBlocks p.inputSize blocks
  let filler := if p.has "block" ∨ p.has "unblock" then ' ' else '\x00'
  let blocks := if p.has "sync" then
      blocks.map (fun block => block ++ List.replicate (p.inputSize - block.length) filler)
    else blocks
  let changesSizes := p.has "block" || p.has "unblock"
  let (text, cut) := p.convert blocks.flatten
  let written := if p.whole ∧ !changesSizes then blocks
    else splitBlocks p.outputSize (text.length + 1) text
  let result ← writeTo output text.toBytes
  if let some e := e then say ("error reading " ++ quoted inputName ++ ": " ++ errorText e)
  match result with
  | .error e => do
    let outputName := match p.output with
      | some name => quoted name
      | none => quoted "standard output".toList
    say ("error writing " ++ outputName ++ ": " ++ errorText e)
    p.report inputs (0, 0) cut 0
    pure 1
  | .ok () => do
    p.report inputs (countBlocks p.outputSize written) cut text.length
    pure (if e.isSome then 1 else 0)
where
  splitBlocks (size : Nat) : (fuel : Nat) → Text → List Text
    | 0, _ => []
    | fuel + 1, text =>
      if text.isEmpty then [] else text.take size :: splitBlocks size fuel (text.drop size)

def dd (args : List Text) : Eval Nat := do
  let args := if args.head? = some ['-', '-'] then args.drop 1 else args
  match args.foldlM BlockPlan.read {} with
  | .error (text, isUsage) => if isUsage then misuse text else do
      say text
      pure 1
  | .ok p =>
    match exclusiveConversions.find? (fun names => 1 < (names.filter p.has).length) with
    | some names => do
      say ("cannot combine " ++ (match names with
        | ["ascii", "ebcdic", "ibm"] => "any two of \x7bascii,ebcdic,ibm\x7d"
        | ["lcase", "ucase"] => "lcase and ucase"
        | ["block", "unblock"] => "block and unblock"
        | _ => "excl and nocreat"))
      pure 1
    | none => do
      let input ← match p.input with
        | some name => openFile .read name
        | none => pure (match (← get).channel? 0 with
          | some id => .ok id
          | none => .error badDescriptor)
      match input with
      | .error e => do
        say ("failed to open " ++ quoted (p.input.getD "standard input".toList) ++ ": " ++ errorText e)
        pure 1
      | .ok input =>
        match ← p.openOutput with
        | .error e => do
          say ("failed to open " ++ quoted (p.output.getD "standard output".toList) ++ ": "
            ++ errorText e)
          pure 1
        | .ok output => p.copy input output

end Slipway.Tool
