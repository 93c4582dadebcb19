import Slipway.Records.Run

/-!
# The meaning of expressions and statements

Both are carried out to some depth, which bounds how deep functions call each other. Commands of the
shell are left to its runner.
-/

namespace Slipway.Records

open Shell (Text Eval errorText)

/-- A call that is too deep. -/
def tooDeep {α : Type} : Run α := stopWith "function call nesting too deep"

/-- Reads a record of an input by its name. -/
def readNamed (r : Shell.Runner) (isCommand : Bool) (name : Text) : Run (Option (Option Text)) := do
  let s ← get
  let input ← do
    match s.inputs.find? (fun i => i.1 = name && i.2.1 = isCommand) with
    | some (_, _, input) => pure (some input)
    | none =>
      if isCommand then
        let (input, _) ← openCommand r name
        pure (some input)
      else if name = ['-'] ∨ name = "/dev/stdin".toList then
        let input ← openMain ['-']
        pure (some input)
      else
        match ← (Shell.openFile .read name : Eval _) with
        | .ok id => pure (some { channel := id })
        | .error _ => pure none
  match input with
  | none => pure none
  | some input => do
    let ends ← recordEnds
    let (found, input) ← (Input.next ends maxFills input : Eval _)
    let others := (← get).inputs.filter (fun i => !(i.1 = name && i.2.1 = isCommand))
    modify (fun s => { s with inputs := (name, isCommand, input) :: others })
    pure (some found)

mutual

def eval (r : Shell.Runner) : (depth : Nat) → Expr → Run Value
  | 0, _ => tooDeep
  | depth + 1, e => do
    match e with
    | .number x => pure (.number x)
    | .text s => pure (.text s)
    | .pattern p => do
      let text ← wholeRecord
      pure (boolValue (p.find? text.toArray).isSome)
    | .slot place => readSlot place
    | .element _ _ => do
      let t ← evalTarget r depth e
      readTarget t
    | .field _ => do
      let t ← evalTarget r depth e
      readTarget t
    | .assign target none value => do
      let t ← evalTarget r depth target
      let v ← eval r depth value
      writeTarget t v
      pure v
    | .assign target (some operator) value => do
      let t ← evalTarget r depth target
      let v ← eval r depth value
      let old ← readTarget t
      let new := Value.number (operator.apply old.toNumber v.toNumber)
      writeTarget t new
      pure new
    | .step target up valueBefore => do
      let t ← evalTarget r depth target
      let old := (← readTarget t).toNumber
      let new := if up then old + 1 else old - 1
      writeTarget t (.number new)
      pure (.number (if valueBefore then old else new))
    | .not a => return boolValue (!(← eval r depth a).isTrue)
    | .negate a => return .number (-(← eval r depth a).toNumber)
    | .plus a => return .number (← eval r depth a).toNumber
    | .arithmetic operator a b => do
      let x := (← eval r depth a).toNumber
      let y := (← eval r depth b).toNumber
      pure (.number (operator.apply x y))
    | .compare relation a b => do
      let x ← eval r depth a
      let y ← eval r depth b
      pure (boolValue (relation.holds (← get).conversion x y))
    | .join a b => do
      let x ← eval r depth a
      let y ← eval r depth b
      let s ← get
      pure (.text (s.textOf x ++ s.textOf y))
    | .both a b =>
      if (← eval r depth a).isTrue then return boolValue (← eval r depth b).isTrue
      else pure (boolValue false)
    | .either a b =>
      if (← eval r depth a).isTrue then pure (boolValue true)
      else return boolValue (← eval r depth b).isTrue
    | .fits a b => do
      let text := (← get).textOf (← eval r depth a)
      let p ← evalPattern r depth b
      pure (boolValue (p.find? text.toArray).isSome)
    | .member subscripts table => do
      let values ← evalAll r depth subscripts
      let id ← tableOf table
      let s ← get
      let key := keyOf s values
      if (s.table id).contains key.shown then
        touch id key
        pure (boolValue true)
      else pure (boolValue false)
    | .choose condition yes no =>
      if (← eval r depth condition).isTrue then eval r depth yes else eval r depth no
    | .call function args => evalCall r depth function args
    | .builtin f args => evalBuiltin r depth f args
    | .readMain target => do
      match ← nextRecord maxInputs with
      | none => pure (.number 0)
      | some text => do
        countRecord true
        storeRead r depth target text
    | .readFile file target => do
      let name := (← get).textOf (← eval r depth file)
      match ← readNamed r false name with
      | none => pure (.number (-1))
      | some none => pure (.number 0)
      | some (some text) => storeRead r depth target text
    | .readCommand command target => do
      let name := (← get).textOf (← eval r depth command)
      match ← readNamed r true name with
      | none => pure (.number (-1))
      | some none => pure (.number 0)
      | some (some text) => do
        countRecord false
        storeRead r depth target text

/-- Puts a line that was read where it belongs. -/
def storeRead (r : Shell.Runner) : (depth : Nat) → Option Expr → Text → Run Value
  | 0, _, _ => tooDeep
  | depth + 1, target, text => do
    match target with
    | none => modify (fun s => s.setRecord text)
    | some e => do
      let t ← evalTarget r depth e
      writeTarget t (.input text)
    pure (.number 1)

def evalAll (r : Shell.Runner) : (depth : Nat) → List Expr → Run (List Value)
  | 0, _ => tooDeep
  | _, [] => pure []
  | depth + 1, e :: rest => do
    let v ← eval r depth e
    let vs ← evalAll r depth rest
    pure (v :: vs)

def evalTarget (r : Shell.Runner) : (depth : Nat) → Expr → Run Target
  | 0, _ => tooDeep
  | depth + 1, e => do
    match e with
    | .slot place => pure (.slot place)
    | .element table subscripts => do
      let values ← evalAll r depth subscripts
      let id ← tableOf table
      pure (.element id (keyOf (← get) values))
    | .field index => do
      let x := (← eval r depth index).toNumber
      let n := wholePart x
      if n < 0 then stopWith ("negative field index $" ++ toString n)
      pure (.field n.toNat)
    | _ => pure (.field 0)

/-- An expression that texts are compared with. -/
def evalPattern (r : Shell.Runner) : (depth : Nat) → Expr → Run Pattern
  | 0, _ => tooDeep
  | depth + 1, e => do
    match e with
    | .pattern p => pure p
    | e => patternOf (← eval r depth e)

/-- The arguments of a function in cells of their own. -/
def evalArgs (r : Shell.Runner) : (depth : Nat) → List Bool → List Expr → Run (List Cell)
  | 0, _, _ => tooDeep
  | _, [], _ => pure []
  | depth + 1, isTable :: more, args => do
    let cell ← do
      match isTable, args with
      | true, .slot place :: _ => do
        let id ← tableOf place
        pure (Cell.table id)
      | true, _ => do
        let s ← get
        set { s with nextTable := s.nextTable + 1 }
        pure (Cell.table s.nextTable)
      | false, e :: _ => do
        let v ← eval r depth e
        pure (Cell.value v)
      | false, [] => pure (Cell.value .unset)
    let cells ← evalArgs r depth more (args.drop 1)
    pure (cell :: cells)

def evalCall (r : Shell.Runner) : (depth : Nat) → (function : Nat) → List Expr → Run Value
  | 0, _, _ => tooDeep
  | depth + 1, function, args => do
    match (← get).program.functions[function]? with
    | none => pure .unset
    | some f => do
      let cells ← evalArgs r depth f.tables args
      let before := (← get).frame
      modify (fun s => { s with frame := cells.toArray })
      let outcome ← attempt (exec r depth (f.body.getD (.block [])))
      modify (fun s => { s with frame := before })
      match outcome with
      | none => pure .unset
      | some (.giveBack v) => pure v
      | some jump => throw jump

def evalBuiltin (r : Shell.Runner) : (depth : Nat) → Builtin → List Expr → Run Value
  | 0, _, _ => tooDeep
  | depth + 1, f, args => do
    match f, args with
    | .length, [] => do
      let text ← wholeRecord
      pure (.number (Float.ofNat text.length))
    | .length, [.slot place] => do
      let s ← get
      let id? : Option Nat := match place with
        | .shared i => if s.tables.contains i then some i else none
        | .own i => match s.frame[i]? with
          | some (.table id) => some id
          | _ => none
      match id? with
      | some id => pure (.number (Float.ofNat (s.table id).size))
      | none => do
        let v ← readSlot place
        pure (.number (Float.ofNat ((← get).textOf v).length))
    | .split, subject :: .slot place :: separators => do
      let text := (← get).textOf (← eval r depth subject)
      let separator ← do
        match separators with
        | [] => pure ((← get).slotText slotFS |> Store.Separator.ofText)
        | .pattern p :: _ => pure (.ok (.pattern p))
        | .text t :: _ => pure (Store.Separator.ofText t)
        | e :: _ => do
          let v ← eval r depth e
          pure (Store.Separator.ofText ((← get).textOf v))
      match separator with
      | .error e => stopWith ("regular expression compile failed (" ++ e ++ ")")
      | .ok separator => do
        let pieces := separator.pieces text
        let id ← tableOf place
        modify fun s => s.setTable id <| pieces.zipIdx.foldl (fun (t : Table) (piece, i) =>
          (t.touchNumber (i + 1 : Nat)).set (toString (i + 1)).toList (.input piece)) {}
        pure (.number (Float.ofNat pieces.length))
    | .search, [subject, pattern] => do
      let text := (← get).textOf (← eval r depth subject)
      let p ← evalPattern r depth pattern
      let (start, length) : Float × Float := match p.find? text.toArray with
        | some (first, last) => (Float.ofNat (first + 1), Float.ofNat (last - first))
        | none => (0, -1)
      modify fun s => (s.setValue slotRstart (.number start)).setValue slotRlength (.number length)
      pure (.number start)
    | .sub, pattern :: by_ :: rest => replaceTarget r depth false pattern by_ rest
    | .gsub, pattern :: by_ :: rest => replaceTarget r depth true pattern by_ rest
    | .sprintf, args => do
      let values ← evalAll r depth args
      let s ← get
      let format := s.textOf (values.headD .unset)
      fillFormat "sprintf" (fun _ => pure ()) values
      pure (.text (formatted s.conversion format (format.length + s.conversion.length + 8) 1
        (values.drop 1)).1)
    | f, args => do
      let values ← evalAll r depth args
      applyBuiltin r f values

/-- Replaces pieces of a text where it stands. -/
def replaceTarget (r : Shell.Runner) : (depth : Nat) → (everywhere : Bool) → Expr → Expr →
    List Expr → Run Value
  | 0, _, _, _, _ => tooDeep
  | depth + 1, everywhere, pattern, by_, rest => do
    let p ← evalPattern r depth pattern
    let by_ := (← get).textOf (← eval r depth by_)
    let target := rest.headD (.field (.number 0))
    if target.isTarget then
      let t ← evalTarget r depth target
      let text := (← get).textOf (← readTarget t)
      let chars := text.toArray
      let (pieces, n) := replaceIn p by_ everywhere chars (2 * chars.size + 4) 0 false
      if 0 < n then writeTarget t (.text pieces.flatten)
      pure (.number (Float.ofNat n))
    else
      let chars := ((← get).textOf (← eval r depth target)).toArray
      let (_, n) := replaceIn p by_ everywhere chars (2 * chars.size + 4) 0 false
      pure (.number (Float.ofNat n))

/-- Carries out a function of the language on values. -/
def applyBuiltin (r : Shell.Runner) (f : Builtin) (values : List Value) : Run Value := do
  let s ← get
  let number (i : Nat) : Float := (values.getD i .unset).toNumber
  let text (i : Nat) : Text := s.textOf (values.getD i .unset)
  match f with
  | .index => pure (.number (Float.ofNat (placeOf (text 1) (text 0) 1)))
  | .substr => pure (.text (partOf (text 0) (number 1) (if 2 < values.length then some (number 2) else none)))
  | .length => pure (.number (Float.ofNat (text 0).length))
  | .sin => pure (.number (number 0).sin)
  | .cos => pure (.number (number 0).cos)
  | .exp => pure (.number (number 0).exp)
  | .log => pure (.number (number 0).log)
  | .sqrt => pure (.number (number 0).sqrt)
  | .int => pure (.number (if number 0 < 0 then (number 0).ceil else (number 0).floor))
  | .atan2 => pure (.number (Float.atan2 (number 0) (number 1)))
  | .rand => do
    let seed := nextSeed s.seed
    set { s with seed }
    pure (.number (Float.ofNat (seed / 2048) / 9007199254740992.0))
  | .srand => do
    let now := (← (get : Eval Shell.State)).machine.now
    let seed := if values.isEmpty then Float.ofInt now else number 0
    set { s with seed := (exactValue seed).quotient.1 + 12345, lastSeed := seed }
    pure (.number s.lastSeed)
  | .close => return .number (← closeNamed r (text 0))
  | .system => do
    flushAll
    return .number (endingNumber (← (runCommand r (text 0) none none : Eval _)))
  | .toupper => pure (.text ((text 0).map (fun c => if isLowerChar c then c.toUpper else c)))
  | .tolower => pure (.text ((text 0).map (fun c => if isUpperChar c then c.toLower else c)))
  | .fflush => do
    flushAll
    pure (.number 0)
  | .strftime => do
    let format := if values.isEmpty then "%c".toList else text 0
    let now := (← (get : Eval Shell.State)).machine.now
    let seconds := if 1 < values.length then wholePart (number 1) else now
    pure (.text ((Moment.ofSeconds seconds).format 0 format))
  | .mktime => pure (.number (match momentOf (text 0) with
      | some n => ofWhole n
      | none => -1))
  | .systime => return .number (ofWhole (← (get : Eval Shell.State)).machine.now)
  | _ => pure .unset

def exec (r : Shell.Runner) : (depth : Nat) → Statement → Run Unit
  | 0, _ => tooDeep
  | depth + 1, s => do
    match s with
    | .expr e => do
      let _ ← eval r depth e
    | .print args target => do
      let values ← evalAll r depth args
      let s ← get
      let format := match s.value slotOfmt with
        | .text t => t
        | v => v.toText "%.6g".toList
      let text ← if args.isEmpty then wholeRecord
        else pure (List.intercalate (s.slotText slotOFS) (values.map (·.toText format)))
      writeTo r depth target (text ++ (← get).slotText slotORS)
    | .printf args target => do
      let values ← evalAll r depth args
      fillFormat "printf" (writeTo r depth target) values
    | .branch condition yes no =>
      if (← eval r depth condition).isTrue then exec r depth yes else exec r depth no
    | .whileLoop condition body =>
      repeatWhile (do return (← eval r depth condition).isTrue) (exec r depth body) (pure ()) maxRounds
    | .doWhile body condition => do
      if ← runRound (exec r depth body) then
        repeatWhile (do return (← eval r depth condition).isTrue) (exec r depth body) (pure ())
          maxRounds
    | .forLoop first condition after body => do
      exec r depth first
      let test : Run Bool := do
        match condition with
        | none => pure true
        | some c => return (← eval r depth c).isTrue
      repeatWhile test (exec r depth body) (exec r depth after) maxRounds
    | .forEach target table body => do
      let id ← tableOf table
      let (keys, t) := ((← get).table id).keys
      modify (fun s => s.setTable id t)
      repeatEach (fun key => do
        let place ← evalTarget r depth target
        writeTarget place (.text key)
        exec r depth body) keys
    | .block statements => execAll r depth statements
    | .next => throw .next
    | .nextFile => throw .nextFile
    | .exit code => do
      if let some e := code then
        let n := wholePart (← eval r depth e).toNumber
        modify (fun s => { s with code := (n % 256).toNat })
      throw .exit
    | .giveBack value => do
      match value with
      | none => throw (.giveBack .unset)
      | some e => do
        let v ← eval r depth e
        throw (.giveBack v)
    | .leave => throw .leave
    | .again => throw .again
    | .delete table subscripts => do
      let values ← evalAll r depth subscripts
      let id ← tableOf table
      modify (fun s => s.setTable id ((s.table id).erase (keyOf s values).shown))
    | .clear table => do
      let id ← tableOf table
      modify (fun s => s.setTable id {})

def execAll (r : Shell.Runner) : (depth : Nat) → List Statement → Run Unit
  | 0, _ => tooDeep
  | _, [] => pure ()
  | depth + 1, s :: rest => do
    exec r depth s
    execAll r depth rest

/-- Writes to where a statement sends its output. -/
def writeTo (r : Shell.Runner) : (depth : Nat) → Option (Direction × Expr) → Text → Run Unit
  | 0, _, _ => tooDeep
  | depth + 1, target, text => do
    match target with
    | none => printMain text
    | some (direction, e) => do
      let v ← eval r depth e
      writeOut direction ((← get).textOf v) text

end

/-! ## Whole programs -/

/-- As deep as expressions, statements and calls can be in each other. -/
def maxDepth : Nat := 200000

/-- Carries out an action; without one the record is printed. -/
def runAction (r : Shell.Runner) (action : Option Statement) : Run Unit := do
  match action with
  | some s => exec r maxDepth s
  | none => do
    let text ← wholeRecord
    printMain (text ++ (← get).slotText slotORS)

/-- Carries out a rule on the record, if it is one for it. -/
def runRule (r : Shell.Runner) (rule : Rule) : Run Unit := do
  match rule.trigger with
  | .always => runAction r rule.action
  | .when e => if (← eval r maxDepth e).isTrue then runAction r rule.action
  | .range first last number => do
    let wasIn := (← get).inRange.contains number
    let begins ← do
      if wasIn then pure true
      else
        let v ← eval r maxDepth first
        pure v.isTrue
    if begins then
      let isLast := (← eval r maxDepth last).isTrue
      modify (fun s => { s with inRange :=
        if isLast then s.inRange.filter (· ≠ number)
        else if wasIn then s.inRange else number :: s.inRange })
      runAction r rule.action
  | _ => pure ()

def runRules (r : Shell.Runner) : List Rule → Run Unit
  | [] => pure ()
  | rule :: rest => do
    runRule r rule
    runRules r rest

/-- Carries out the rules for every record that is left. -/
def runRecords (r : Shell.Runner) (rules : List Rule) : (rounds : Nat) → Run Unit
  | 0 => pure ()
  | rounds + 1 => do
    match ← nextRecord maxInputs with
    | none => pure ()
    | some text => do
      modify (fun s => s.setRecord text)
      countRecord true
      match ← attempt (runRules r rules) with
      | none => runRecords r rules rounds
      | some .next => runRecords r rules rounds
      | some .nextFile => do
        modify (fun s => { s with main := none })
        runRecords r rules rounds
      | some jump => throw jump

def Trigger.isStart : Trigger → Bool
  | start => true
  | _ => false

def Trigger.isFinish : Trigger → Bool
  | finish => true
  | _ => false

def runActions (r : Shell.Runner) : List Rule → Run Unit
  | [] => pure ()
  | rule :: rest => do
    runAction r rule.action
    runActions r rest

/-- Carries out a whole program: what comes before the records, the records, and what comes behind
them, which is left out only after an error. -/
def runProgram (r : Shell.Runner) : Run Unit := do
  let rules := (← get).program.rules
  let starts := rules.filter (·.trigger.isStart)
  let finishes := rules.filter (·.trigger.isFinish)
  let others := rules.filter (fun rule => !rule.trigger.isStart && !rule.trigger.isFinish)
  let outcome ← attempt do
    runActions r starts
    if !others.isEmpty || !finishes.isEmpty then runRecords r others maxRounds
  let isOver := match outcome with
    | some .failed => true
    | _ => false
  if !isOver then
    let _ ← attempt (runActions r finishes)
  finishOutputs r

end Slipway.Records
