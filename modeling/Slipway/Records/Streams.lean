import Slipway.Records.Store
import Slipway.Shell.Simple

/-!
# Inputs and outputs of programs over records

Records of files and commands, output that is collected for files and commands, and the arguments
that are gone through as inputs.
-/

namespace Slipway.Records

open Shell (Text Eval errorText)

/-! ## Records -/

/-- Where a record ends. -/
inductive Ends
  | char (c : Char)
  | paragraph
  | pattern (p : Pattern)

/-- Reads the next block of an input. -/
def Input.fill (i : Input) : Eval Input := do
  match ← Shell.readFrom i.channel 4096 with
  | .ok [] => pure { i with ended := true }
  | .error _ => pure { i with ended := true }
  | .ok bytes => pure { i with buffer := i.buffer ++ Text.ofBytes bytes }

/-- The text up to two line breaks and what follows the breaks, if that can be told. -/
def cutParagraph (ended : Bool) : Text → Option (Text × Text)
  | [] => none
  | '\n' :: '\n' :: rest =>
    let behind := rest.dropWhile (· = '\n')
    if behind.isEmpty ∧ !ended then none else some ([], behind)
  | c :: rest => (cutParagraph ended rest).map (fun (text, behind) => (c :: text, behind))

/-- The next record of what is in the buffer, if its end can be told. -/
def Input.cut? (i : Input) (ends : Ends) : Option (Text × Text) :=
  match ends with
  | .char c =>
    let text := i.buffer.takeWhile (· ≠ c)
    match i.buffer.drop text.length with
    | _ :: rest => some (text, rest)
    | [] => none
  | .paragraph => cutParagraph i.ended (i.buffer.dropWhile (· = '\n'))
  | .pattern p =>
    let chars := i.buffer.toArray
    match p.find? chars with
    | some (first, last) =>
      if last = first ∨ (last = chars.size ∧ !i.ended) then none
      else some (i.buffer.take first, i.buffer.drop last)
    | none => none

def Input.lastRecord (i : Input) (ends : Ends) : Option Text :=
  match ends with
  | .paragraph =>
    let text := i.buffer.dropWhile (· = '\n')
    if text.isEmpty then none
    else some (if text.getLast? = some '\n' then text.dropLast else text)
  | _ => if i.buffer.isEmpty then none else some i.buffer

/-- The next record of an input. -/
def Input.next (ends : Ends) : (fuel : Nat) → Input → Eval (Option Text × Input)
  | 0, i => pure (none, i)
  | fuel + 1, i => do
    match i.cut? ends with
    | some (text, rest) => pure (some text, { i with buffer := rest })
    | none =>
      if i.ended then pure (i.lastRecord ends, { i with buffer := [] })
      else Input.next ends fuel (← i.fill)

def maxFills : Nat := 100000000

/-- How the program says that records end. -/
def recordEnds : Run Ends := do
  match (← get).slotText slotRS with
  | [] => pure .paragraph
  | [c] => pure (.char c)
  | text =>
    match Pattern.read text with
    | .ok p => pure (.pattern p)
    | .error e => stopWith ("regular expression compile failed (" ++ e ++ ")\n" ++ Text.toString text)

/-! ## Output -/

/-- Writes what was collected for the standard output. -/
def flushMain : Run Unit := do
  modify (fun s => { s with collected := 0 })
  let _ ← (Shell.flush : Eval _)

def printMain (text : Text) : Run Unit := do
  (Shell.print text : Eval Unit)
  modify (fun s => { s with collected := s.collected + text.length })
  if 4096 ≤ (← get).collected then flushMain

/-- Writes what was collected for a file. -/
def Output.flush (o : Output) : Eval Output := do
  match o.channel with
  | none => pure o
  | some id => do
    if !o.pieces.isEmpty then
      let _ ← Shell.writeTo id (Text.toBytes o.pieces.reverse.flatten)
    pure { o with pieces := [] }

/-- Writes all that was collected for files. -/
def flushFiles : Run Unit := do
  let mut outputs : List Output := []
  for o in (← get).outputs do
    outputs := (← (o.flush : Eval Output)) :: outputs
  modify (fun s => { s with outputs := outputs.reverse })

def flushAll : Run Unit := do
  flushMain
  flushFiles

/-! ## Commands -/

/-- Runs a command of the shell; its input and output may lead to channels of their own. -/
def runCommand (r : Shell.Runner) (command : Text) (input output : Option Nat) :
    Eval Shell.Ending := do
  let m := (← get).machine
  let args := ["sh".toList, "-c".toList, command]
  match m.image Machine.maxScripts (Shell.pathOf "/bin/sh".toList) (args.map Text.toBytes) with
  | .error _ => pure (.code 127)
  | .ok image => do
    let environment := (← Shell.self).bindings.filterMap
      (fun (name, v) => v.value.map (name, ·))
    Shell.inChild do
      Shell.modifySelf fun p =>
        let p := if input.isSome then p.connect 0 input else p
        if output.isSome then p.connect 1 output else p
      r.become image environment

/-- What a program sees of the end of a command. -/
def endingNumber : Shell.Ending → Float
  | .code n => Float.ofNat n
  | .signal n => Float.ofNat (256 + n)

/-- An input with all that a command writes. -/
def openCommand (r : Shell.Runner) (command : Text) : Run (Input × Float) := do
  flushAll
  let id ← (Shell.newInput [] : Eval Nat)
  let ending ← (runCommand r command none (some id) : Eval _)
  pure ({ channel := id }, endingNumber ending)

/-- Ends an output: a file is written, a command gets what was collected for it. -/
def finishOutput (r : Shell.Runner) (o : Output) : Run Float := do
  match o.channel with
  | some _ => do
    let _ ← (o.flush : Eval _)
    pure 0
  | none => do
    flushFiles
    let id ← (Shell.newInput (Text.toBytes o.pieces.reverse.flatten) : Eval Nat)
    return endingNumber (← (runCommand r o.name (some id) none : Eval _))

/-- Ends all outputs, the latest first. -/
def finishOutputs (r : Shell.Runner) : Run Unit := do
  let outputs := (← get).outputs
  modify (fun s => { s with outputs := [] })
  for o in outputs do
    let _ ← finishOutput r o
  flushMain

/-- Writes to where a statement sends its output. -/
def writeOut (direction : Direction) (name text : Text) : Run Unit := do
  let s ← get
  if direction ≠ .pipe ∧ (name = "/dev/stdout".toList ∨ name = ['-']) then printMain text
  else if direction ≠ .pipe ∧ name = "/dev/stderr".toList then
    let _ ← (Shell.emit 2 (Text.toBytes text) : Eval _)
  else
    match s.outputs.find? (fun o => o.name = name && (o.channel.isNone = (direction = .pipe))) with
    | some o =>
      let others := s.outputs.filter
        (fun o => !(o.name = name && (o.channel.isNone = (direction = .pipe))))
      set { s with outputs := { o with pieces := text :: o.pieces } :: others }
    | none =>
      if direction = .pipe then
        flushAll
        modify (fun s => { s with
          outputs := { name, channel := none, pieces := [text] } :: s.outputs })
      else
        match ← (Shell.openFile (if direction = .append then .append else .write) name : Eval _) with
        | .ok id => set { s with outputs := { name, channel := some id, pieces := [text] } :: s.outputs }
        | .error e =>
          stopPlainly ("cannot open \"" ++ Text.toString name ++ "\" for output (" ++ errorText e ++ ")")

/-- Ends an input or an output by its name. -/
def closeNamed (r : Shell.Runner) (name : Text) : Run Float := do
  let s ← get
  match s.outputs.find? (·.name = name), s.inputs.lookup name with
  | some o, _ => do
    set { s with outputs := s.outputs.filter (·.name ≠ name) }
    finishOutput r o
  | none, some _ => do
    set { s with inputs := s.inputs.filter (·.1 ≠ name) }
    pure 0
  | none, none => pure (-1)

/-! ## The main input -/

/-- Puts the value of an argument like `name=value` into its slot. -/
def assignArgument (arg : Text) : Run Bool := do
  let name := arg.takeWhile (· ≠ '=')
  if name.length = arg.length ∨ !Shell.isName name then pure false
  else
    let value := Value.input (unescaped (arg.drop (name.length + 1)))
    let s ← get
    match s.program.names.lookup name with
    | some slot =>
      set (s.setValue slot value)
      if slot = slotNF then
        splitRecord
        modify (fun s => s.setCount (wholePart value.toNumber).toNat)
      pure true
    | none => pure true

def openMain (name : Text) : Run Input := do
  if name = ['-'] ∨ name = "/dev/stdin".toList then
    match (← (get : Eval Shell.State)).channel? 0 with
    | some id => pure { channel := id }
    | none => pure { channel := 0, ended := true }
  else
    match ← (Shell.openFile .read name : Eval _) with
    | .ok id => pure { channel := id }
    | .error e =>
      stopPlainly ("cannot open \"" ++ Text.toString name ++ "\" (" ++ errorText e ++ ")")

/-- The input that comes next, if one is left. -/
def nextInput : (fuel : Nat) → Run (Option Input)
  | 0 => pure none
  | fuel + 1 => do
    let s ← get
    let count := (wholePart (s.value slotArgc).toNumber).toNat
    if count ≤ s.nextArg then
      if s.usedFile then pure none
      else do
        set { s with usedFile := true }
        return some (← openMain ['-'])
    else
      let key := (toString s.nextArg).toList
      set { s with nextArg := s.nextArg + 1 }
      let arg := if (s.table slotArgv).contains key then s.textOf ((s.table slotArgv).get key) else []
      if arg.isEmpty then nextInput fuel
      else if ← assignArgument arg then nextInput fuel
      else do
        modify (fun s => { s with usedFile := true }.setValue slotFilename (.input arg)
          |>.setValue slotFNR (.number 0))
        return some (← openMain arg)

/-- The next record of the inputs. -/
def nextRecord : (fuel : Nat) → Run (Option Text)
  | 0 => pure none
  | fuel + 1 => do
    match (← get).main with
    | none => do
      match ← nextInput ((wholePart ((← get).value slotArgc).toNumber).toNat + 2) with
      | none => pure none
      | some input => do
        modify (fun s => { s with main := some input })
        nextRecord fuel
    | some input => do
      let ends ← recordEnds
      let (found, input) ← (Input.next ends maxFills input : Eval _)
      match found with
      | some text => do
        modify (fun s => { s with main := some input })
        pure (some text)
      | none => do
        modify (fun s => { s with main := none })
        nextRecord fuel

/-- As many inputs as there can be. -/
def maxInputs : Nat := 1000000

/-- Counts a record that was read. -/
def countRecord (ofFile : Bool) : Run Unit :=
  modify fun s =>
    let up (s : Store) (slot : Nat) : Store :=
      s.setValue slot (.number ((s.value slot).toNumber + 1))
    let s := up s slotNR
    if ofFile then up s slotFNR else s

end Slipway.Records
