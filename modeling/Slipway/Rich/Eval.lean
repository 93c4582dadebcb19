import Slipway.Rich.Simple
import Slipway.Shell.Eval

/-!
# Running rich commands

Carrying out commands of every kind, and scripts line by line. The commands inside a command are
left to a runner.
-/

namespace Slipway.Rich

open Shell (Text Eval Flags Job Skip self modifySelf setStatus attempt ensuring naturalText newPipe
  complain)

section

variable (r : Shell.Runner)

/-! ## Signals -/

/-- Does what is to be done at the signals that arrived. -/
def runTraps : Eval Unit := do
  let p ← self
  if !p.caught.isEmpty then
    modifySelf (fun p => { p with line := 1 })
    r.runTraps
    modifySelf (fun q => { q with line := p.line })

/-! ## Loops -/

/-- Goes on with a loop unless the commands of a round left it. -/
def afterRound (status : Nat) (again : Eval Nat) : Eval Nat := do
  match ← Shell.Runner.endRound with
  | .left => pure status
  | _ => again

/-- The status of a loop is that of its last body, or 0. -/
def runLoop (flags : Flags) (untilTrue : Bool) (test body : Command) :
    (fuel : Nat) → (status : Nat) → Eval Nat
  | 0, status => pure status
  | fuel + 1, status => do
    let value ← r.runRich test { tested := true }
    let skipped := (← self).skip
    match ← Shell.Runner.endRound with
    | .again => runLoop flags untilTrue test body fuel status
    | .left => pure (if skipped = some (.return true) then value else status)
    | .done =>
      if (value = 0) = untilTrue then pure status
      else
        let status ← r.runRich body { tested := flags.tested }
        afterRound status (runLoop flags untilTrue test body fuel status)

/-- The words that a loop goes through. -/
def choicesOf (ofArgs : Bool) (words : List Word) : Eval (List Text) := do
  if ofArgs then return (← self).args
  else return (← words.mapM (expandFields r)).flatten

/-- How a command begins that goes through words. -/
def shownChoices (keyword : String) (name : Text) (ofArgs : Bool) (words : List Word) : Text :=
  let list := if ofArgs then "\"$@\"".toList
    else List.intercalate [' '] (words.map (Printer.wordText Printer.maxDepth))
  keyword.toList ++ ' ' :: name ++ " in ".toList ++ list

def runEach (flags : Flags) (line : Nat) (shown name : Text) (body : Command) :
    (status : Nat) → (values : List Text) → Eval Nat
  | status, [] => pure status
  | _, value :: rest => do
    startLine line
    trace r shown
    runAction r "DEBUG"
    let c ← context
    if ((c.find? name).map (·.reference)).getD false then
      modifyContext (fun c => c.update name (fun v => { v with content := .text value }))
    else assign name none value
    let status ← r.runRich body { tested := flags.tested }
    afterRound status (runEach flags line shown name body status rest)

/-- The value of an expression of a loop, if it has one. -/
def expressionValue (usual : Int) (parts : Word) : Eval Int := do
  if parts.isEmpty then return usual
  let text ← textOfParts r { quoted := true } parts
  trace r ("(( ".toList ++ text ++ " ))".toList)
  if text.all (fun c => c = ' ' || c = '\t' || c = '\n') then pure usual else Arithmetic.evaluate text

/-- Does something with expressions as the command in double brackets does it: an error is its
status. -/
def inDoubleBrackets (name : String) (body : Eval Nat) : Eval Nat := do
  let outer := (← self).builtin
  modifySelf (fun p => { p with builtin := some name.toList })
  let result ← attempt body
  modifySelf (fun p => { p with builtin := outer })
  match result with
  | .ok status => pure status
  | .error .discard => pure 1
  | .error .error => pure 1
  | .error stop => throw stop

/-- The value of an expression, unless there is an error in it. -/
def safeValue (line : Nat) (usual : Int) (parts : Word) : Eval (Option Int) := do
  startLine line
  runAction r "DEBUG"
  let outer := (← self).builtin
  modifySelf (fun p => { p with builtin := some "((".toList })
  let result ← attempt (expressionValue r usual parts)
  modifySelf (fun p => { p with builtin := outer })
  match result with
  | .ok value => pure (some value)
  | .error .discard => pure none
  | .error .error => pure none
  | .error stop => throw stop

def runCounting (flags : Flags) (line : Nat) (test step : Word) (body : Command) :
    (fuel : Nat) → (status : Nat) → Eval Nat
  | 0, status => pure status
  | fuel + 1, status => do
    match ← safeValue r line 1 test with
    | none => pure 1
    | some 0 => pure status
    | some _ => do
      let status ← r.runRich body { tested := flags.tested }
      afterRound status (do
        match ← safeValue r line 0 step with
        | none => pure 1
        | some _ => runCounting flags line test step body fuel status)

/-! ## Menus -/

/-- What leads from a column to another one. -/
def gap : (fuel : Nat) → (here there : Nat) → Text
  | 0, _, _ => []
  | fuel + 1, here, there =>
    if there ≤ here then []
    else if here / 8 < there / 8 then '\t' :: gap fuel (here + 8 - here % 8) there
    else ' ' :: gap fuel (here + 1) there

/-- The numbered choices of a menu in columns. -/
def menuText (width : Nat) (choices : List Text) : Text :=
  let count := choices.length
  let numberWidth (n : Nat) : Nat := (toString n).length
  let longest := (choices.map (fun choice => (charactersOf choice).length)).foldl max 0
  let each := longest + numberWidth count + 4
  let columns := max 1 (width / each)
  let rows := if count = 0 then 1 else (count + columns - 1) / columns
  let columns := if count = 0 then 1 else (count + rows - 1) / rows
  let (rows, _) := if rows = 1 then (columns, 1) else (rows, columns)
  let first := numberWidth rows
  let entry (isFirst : Bool) (i : Nat) (choice : Text) : Text :=
    rightAligned (if isFirst then first else numberWidth count) (naturalText (i + 1))
      ++ ") ".toList ++ choice
  let numbered := choices.zipIdx
  let row (k : Nat) : Text :=
    let inRow := numbered.filter (fun (_, i) => i % rows = k)
    (inRow.zipIdx.map fun ((choice, i), column) =>
      let text := entry (column = 0) i choice
      let place := column * each
      if column + 1 = inRow.length then text
      else text ++ gap each (place + text.length) (place + each)).flatten ++ ['\n']
  if choices.isEmpty then ['\n'] else ((List.range rows).map row).flatten

/-- Asks for a choice: none at the end of the input, and an empty one for an answer that is not in
the menu. -/
def askChoice (choices : List Text) : (fuel : Nat) → (showsMenu : Bool) → Eval (Option Text)
  | 0, _ => pure none
  | fuel + 1, showsMenu => do
    let width := ((← text? "COLUMNS").bind (fun v => String.toNat? (String.ofList v))).getD 80
    let prompt := (← text? "PS3").getD "#? ".toList
    complain (Text.toString ((if showsMenu then menuText width choices else []) ++ prompt))
    let status ← runBuiltin r (fun _ _ _ => pure 0) {} "read".toList []
    if status ≠ 0 then
      Shell.printLine []
      let _ ← Shell.flush
      pure none
    else
      let answer := (← text? "REPLY").getD []
      if answer.isEmpty then askChoice choices fuel true
      else
        match Shell.number? 10 answer with
        | some n =>
          if 0 < n ∧ n ≤ choices.length then pure (some (choices.getD (n.toNat - 1) []))
          else pure (some [])
        | none => pure (some [])

def runMenu (flags : Flags) (name : Text) (choices : List Text) (body : Command) :
    (fuel : Nat) → (showsMenu : Bool) → (status : Nat) → Eval Nat
  | 0, _, status => pure status
  | fuel + 1, showsMenu, _ => do
    match ← askChoice r choices 1000 showsMenu with
    | none => pure 1
    | some choice => do
      assign name none choice
      let status ← r.runRich body { tested := flags.tested }
      afterRound status (do
        let answer := (← text? "REPLY").getD []
        runMenu flags name choices body fuel answer.isEmpty status)

/-! ## Choices -/

/-- Whether one of some patterns fits. -/
def fitsAny (text : Text) (patterns : List Word) : Eval Bool := do
  let anyCase := (← context).has "nocasematch"
  patterns.anyM fun word => do
    return (← patternOfWord r word).fits (charactersOf text) anyCase

/-- Runs the arms with patterns that fit, as far as they lead on to each other. -/
def runArms (flags : Flags) (text : Text) : (isChosen : Bool) → (status : Nat) → List Arm → Eval Nat
  | _, status, [] => pure status
  | isChosen, status, .mk patterns body ending :: rest => do
    let fits ← if isChosen then pure true else fitsAny r text patterns
    if fits then
      let status ← match body with
        | some body => r.runRich body { tested := flags.tested }
        | none => pure 0
      if (← self).skip.isSome then return status
      match ending with
      | .done => pure status
      | .next => runArms flags text true status rest
      | .goesOn => runArms flags text false status rest
    else runArms flags text false status rest

/-! ## Processes -/

/-- Whether a command is a simple one, so that a process of its own for it counts for nothing. -/
def isSimple : Command → Bool
  | .simple _ _ _ _ => true
  | _ => false

/-- Runs a command as the last of a process. -/
def runLast (body : Command) (tested : Bool) (isStage : Bool := false) : Eval Unit :=
  r.toEnd (do let _ ← r.runRich body { last := true, tested, isStage })

/-- Runs the stages of a pipeline in processes of their own, each reading what the one before it
wrote, and gives their statuses. The last one can be run by the shell itself. -/
def runStages (tested : Bool) : (input : Option Nat) → List Command → Eval (List Nat)
  | _, [] => pure []
  | input, [stage] => do
    if (← context).has "lastpipe" then
      let before := (← self).descriptors
      if let some id := input then modifySelf (·.connect 0 (some id))
      let status ← ensuring (r.runRich stage { tested })
        (modifySelf (fun p => { p with descriptors := before }))
      pure [status]
    else
      let status ← waitForChild (Printer.lineText stage) (do
        if let some id := input then modifySelf (·.connect 0 (some id))
        runLast r stage tested true) (!isSimple stage)
      pure [status]
  | input, stage :: rest => do
    let output ← newPipe
    let ending ← inCopy (do
      if let some id := input then modifySelf (·.connect 0 (some id))
      modifySelf (·.connect 1 (some output))
      runLast r stage tested true) (!isSimple stage)
    return ending.status :: (← runStages tested (some output) rest)

def pipelineStatus (isStrict : Bool) (statuses : List Nat) : Nat :=
  if isStrict then ((statuses.filter (· ≠ 0)).getLast?).getD 0 else (statuses.getLast?).getD 0

/-- Puts a command into the background, with a change to its process. -/
def putIntoBackground (body : Command) (shown : Text) (change : Shell.Process → Shell.Process) :
    Eval Nat := do
  let number ← Shell.newNumber
  let shell ← self
  let process := shell.copy number
  let process := change { process with
    rich := process.rich.map (·.copy shell.options shell.traps true)
    traps := (2, []) :: (3, []) :: process.traps.filter (fun trap => trap.1 ≠ 2 && trap.1 ≠ 3) }
  modify (fun s => { s with
    jobs := (number, Job.waiting process (.rich body) s.machine.directory) :: s.jobs })
  let index ← Shell.makeRoom
  modifySelf (fun p => { p with
    jobs := { index, number, text := shown } :: p.jobs
    background := p.background ++ [number]
    lastJob := number })
  pure number

/-- Starts a command in the background with pipes to and from it. -/
def runCoprocess (name : Text) (body : Command) : Eval Nat := do
  let input ← Shell.newChannel (.pipe [] [] none)
  let output ← Shell.newChannel (.pipe [] [] none)
  let number ← putIntoBackground body (Printer.lineText body) (fun p =>
    (p.connect 0 (some input)).connect 1 (some output))
  let reading ← freeDescriptor 50 63
  modifySelf (·.connect reading (some output))
  let writing ← freeDescriptor 50 60
  modifySelf (·.connect writing (some input))
  assignList name (listContent [naturalText reading, naturalText writing])
  putText (name ++ "_PID".toList) (naturalText number)
  pure 0

/-- Shows how long a command took, which is no time. -/
def showTimes (portable : Bool) : Eval Unit := do
  let digits := if portable then "0.00" else "0m0.000s"
  let line (label : String) : String :=
    label ++ (if portable then " " else "\t") ++ digits ++ "\n"
  let usual := (if portable then "" else "\n") ++ line "real" ++ line "user" ++ line "sys"
  match ← text? "TIMEFORMAT" with
  | none => complain usual
  | some [] => pure ()
  | some template =>
    if portable then complain usual
    else complain (Text.toString (fill (template.length + 1) template) ++ "\n")
where
  /-- The template with its places filled in. -/
  fill : (fuel : Nat) → Text → Text
    | 0, _ => []
    | _, [] => []
    | fuel + 1, '%' :: rest =>
      match rest with
      | '%' :: rest => '%' :: fill fuel rest
      | 'P' :: rest => "0.00".toList ++ fill fuel rest
      | rest =>
        let places := rest.takeWhile Char.isDigit
        let after := rest.drop places.length
        let (isLong, after) := if after.head? = some 'l' then (true, after.drop 1) else (false, after)
        let count := if places.isEmpty then 3 else min 3 (Shell.valueOfDigits 10 places)
        let number := '0' :: (if count = 0 then [] else '.' :: List.replicate count '0')
        (if isLong then "0m".toList ++ number ++ ['s'] else number) ++ fill fuel (after.drop 1)
    | fuel + 1, c :: rest => c :: fill fuel rest

/-! ## Commands -/

/-- What a command leaves: its status, and whether its failure can end the shell. -/
structure Outcome where
  status : Nat
  checks : Bool := true

def setStatuses (statuses : List Nat) : Eval Unit :=
  modifyContext (fun c => { c with pipeStatuses := statuses })

/-- The outcome of something that is a pipeline of its own. -/
def alone (body : Eval Nat) : Eval Outcome := do
  let status ← body
  setStatuses [status]
  pure { status }

def carryOut (flags : Flags) : Command → Eval Outcome
  | .simple line assignments items redirects =>
    alone (runSimple r flags line assignments items redirects)
  | .pipeline line stages => do
    startLine line
    let statuses ← runStages r flags.tested none stages
    setStatuses statuses
    pure { status := pipelineStatus ((← self).has "pipefail") statuses }
  | .negation body => do
    let status ← r.runRich body { tested := true }
    pure { status := if status = 0 then 1 else 0, checks := false }
  | .timed portable body => do
    let status ← match body with
      | some body => r.runRich body { tested := flags.tested }
      | none => pure 0
    showTimes portable
    pure { status, checks := false }
  | .andThen first second => do
    let status ← r.runRich first { tested := true }
    if status = 0 ∧ (← self).skip.isNone then
      return { status := ← r.runRich second flags, checks := false }
    else pure { status, checks := false }
  | .orElse first second => do
    let status ← r.runRich first { tested := true }
    if status ≠ 0 ∧ (← self).skip.isNone then
      return { status := ← r.runRich second flags, checks := false }
    else pure { status, checks := false }
  | .sequence first second => do
    let status ← r.runRich first { tested := flags.tested }
    if (← self).skip.isNone then return { status := ← r.runRich second flags, checks := false }
    else pure { status, checks := false }
  | .background line body => do
    startLine line
    let input ← Shell.newInput []
    let _ ← putIntoBackground body (Printer.lineText body) (·.connect 0 (some input))
    pure { status := 0 }
  | .coprocess line name body => do
    startLine line
    return { status := ← runCoprocess name body }
  | .group body => return { status := ← r.runRich body flags, checks := false }
  | .subshell line body => do
    startLine line
    alone (waitForChild ("( ".toList ++ Printer.lineText body ++ " )".toList) (do
      modifySelf (fun p => { p with loops := 0 })
      runLast r body flags.tested))
  | .redirected line body redirects => do
    startLine line
    let partners := (← context).partners
    let saved := (← self).descriptors
    let restore : Eval Unit := do
      restoreDescriptors saved redirects
      closePartners r partners
    ensuring (do
      if ← redirectAll r redirects then
        return { status := ← r.runRich body { tested := flags.tested }, checks := false }
      else pure { status := 1 }) restore
  | .conditional test yes no => do
    let status ← r.runRich test { tested := true }
    if (← self).skip.isSome then pure { status, checks := false }
    else if status = 0 then return { status := ← r.runRich yes flags, checks := false }
    else
      match no with
      | some no => return { status := ← r.runRich no flags, checks := false }
      | none => pure { status := 0, checks := false }
  | .loop untilTrue test body => do
    let status ← Shell.Runner.inLoop (runLoop r flags untilTrue test body Shell.Runner.maxRounds 0)
    pure { status, checks := false }
  | .each line name ofArgs words body => do
    startLine line
    let partners := (← context).partners
    if !Shell.isName name then
      warn (notValid name)
      return { status := 1 }
    let values ← choicesOf r ofArgs words
    let status ← Shell.Runner.inLoop
      (runEach r flags line (shownChoices "for" name ofArgs words) name body 0 values)
    closePartners r partners
    pure { status, checks := false }
  | .counting line start test step body => do
    let status ← Shell.Runner.inLoop (do
      match ← safeValue r line 0 start with
      | none => pure 1
      | some _ => runCounting r flags line test step body Shell.Runner.maxRounds 0)
    pure { status, checks := false }
  | .menu line name ofArgs words body => do
    startLine line
    trace r (shownChoices "select" name ofArgs words)
    let choices ← choicesOf r ofArgs words
    if choices.isEmpty then return { status := 0, checks := false }
    let status ← Shell.Runner.inLoop (runMenu r flags name choices body Shell.Runner.maxRounds true 0)
    pure { status, checks := false }
  | .choose line word arms => do
    startLine line
    trace r ("case ".toList ++ Printer.wordText Printer.maxDepth word ++ " in".toList)
    runAction r "DEBUG"
    let partners := (← context).partners
    let text ← expandText r word
    let status ← runArms r flags text false 0 arms
    closePartners r partners
    pure { status, checks := false }
  | .define line name body => do
    startLine line
    let c ← context
    let known := c.functions.lookup name
    if (known.map (·.readonly)).getD false then
      warn (Text.toString name ++ ": readonly function")
      pure { status := 1 }
    else
      let p ← self
      let source := if !c.calls.isEmpty ∨ c.fromFile then sourceName p
        else (if c.fromArgument then "environment" else "main").toList
      modifyContext (fun c => { c with
        functions := (name, { line, source, body, exported := (known.map (·.exported)).getD false })
          :: c.functions.filter (·.1 ≠ name) })
      pure { status := 0 }
  | .condition line condition => do
    startLine line
    approach r (.condition line condition)
    alone (inDoubleBrackets "[[" (do
      let shows (text : Text) : Eval Unit := trace r ("[[ ".toList ++ text ++ " ]]".toList)
      match ← Test.holds r shows condition with
      | some true => pure 0
      | some false => pure 1
      | none => pure 2))
  | .arithmetic line expression => do
    startLine line
    approach r (.arithmetic line expression)
    alone (inDoubleBrackets "((" (do
      let text ← textOfParts r { quoted := true } expression
      trace r ("(( ".toList ++ text ++ " ))".toList)
      let n ← Arithmetic.evaluate text
      pure (if n = 0 then 1 else 0)))

/-- Carries out a command and sets the status. A failure that nobody asked about ends the shell if
that is wanted. -/
def runCommand (command : Command) (flags : Flags) : Eval Nat := do
  if (← self).has "noexec" then return (← self).status
  runTraps r
  let outcome ← match ← attempt (carryOut r flags command) with
    | .ok outcome => pure outcome
    | .error .error => do
      let p ← self
      pure { status := if p.status = 0 then 1 else p.status }
    | .error stop => throw stop
  setStatus outcome.status
  runTraps r
  if outcome.checks ∧ !flags.tested ∧ outcome.status ≠ 0 ∧ (← self).skip ≠ some (.return true) then
    runAction r "ERR"
    if (← self).has "errexit" then throw .finished
  if flags.last then throw .finished
  return (← self).status

/-! ## Scripts -/

/-- What is told of lines that cannot be read. -/
def syntaxMessage (shell script : String) (lines : List Text) (first : Nat) (e : Shell.SyntaxError) :
    String :=
  let start := if shell = script then shell ++ ": line " ++ toString e.line ++ ": "
    else shell ++ ": " ++ script ++ ": line " ++ toString e.line ++ ": "
  let tell (message : String) : String := start ++ message ++ "\n"
  String.join ((e.message.splitOn "\n").map fun message =>
    tell message ++ (if startsWith message "syntax error near" then
      tell ("\x60" ++ Text.toString (lines.getD (e.line - first) []) ++ "'") else ""))

/-- Takes notice of errors for which only the rest of a line is not run. In a copy of the shell they
end it. -/
def orNextLine (loops : Nat) (body : Eval Nat) : Eval Nat := do
  match ← attempt body with
  | .ok status => pure status
  | .error .discard => do
    if (← context).isCopy then throw .discard
    modifySelf (fun p => { p with
      status := if p.status = 0 then 1 else p.status, loops, skip := none })
    return (← self).status
  | .error stop => throw stop

/-- Shows lines that were just read, if that is wanted, and gives the text behind them. -/
def showLines (count : Nat) (text : Text) : Eval Text := do
  if text.isEmpty then return []
  let (lines, behind) := Shell.Runner.splitLines count text
  if (← self).has "verbose" then
    let _ ← Shell.emit 2 lines.toBytes
  pure behind

/-- The source behind so many lines. -/
def dropLines (count : Nat) (source : Shell.Source) : Shell.Source :=
  { source with
    symbols := skip count source.symbols
    line := source.line + count }
where
  skip : (count : Nat) → List Shell.Symbol → List Shell.Symbol
    | 0, symbols => symbols
    | _, [] => []
    | count + 1, .char '\n' :: rest => skip count rest
    | count, .lines n :: rest => skip (count - n) rest
    | count, _ :: rest => skip count rest

/-- Runs what is left of a source, line by line, and gives the status of the last command. The text
of the source is shown on the way. -/
def runSource (flags : Flags) (script : Option String) (lines : List Text) (first loops : Nat) :
    (fuel : Nat) → (status : Nat) → Text → Shell.Source → Eval Nat
  | 0, status, _, _ => pure status
  | fuel + 1, status, text, source => do
    let hasGroups := (← context).has "extglob"
    match (Parser.parseLine.run { hasGroups }).run source with
    | .error e => do
      let text ← showLines (e.line + 1 - source.line) text
      let shell := Text.toString (sourceName (← self))
      complain (syntaxMessage shell (script.getD shell) lines first e)
      if e.onlyLine then
        setStatus 1
        if (← context).isCopy then throw .discard
        runSource flags script lines first loops fuel 1 text
          (dropLines (e.line + 1 - source.line) source)
      else
        setStatus 2
        pure 2
    | .ok ((line, lookahead), behind) => do
      let count := behind.line - source.line
      let text ← showLines (if behind.symbols.isEmpty then count + 1 else count) text
      lookahead.warnings.reverse.forM fun (n, warning) => do
        let shell := Text.toString (sourceName (← self))
        complain (shell ++ ": line " ++ toString n ++ ": " ++ warning ++ "\n")
      match line with
      | .ended => pure status
      | .line none _ => runSource flags script lines first loops fuel status text behind
      | .line (some command) isLast => do
        let status ← orNextLine loops
          (r.runRich command { flags with last := flags.last && isLast, fromFile := false })
        if (← self).skip.isSome then pure status
        else runSource flags script lines first loops fuel status text behind

/-- Runs the commands in a text, which messages call by a name. The lines of a file are counted from
its start, others from the line that is being run. The last line need not be ended. -/
def runScript (script : Option String) (text : Text) (flags : Flags) : Eval Nat := do
  let p ← self
  let text := if text.isEmpty ∨ text.getLast? = some '\n' then text else text ++ ['\n']
  let first := if flags.fromFile then 1 else max 1 p.line
  modifyContext (fun c => { c with evaluations := c.evaluations + 1 })
  ensuring (runSource r flags script (text.splitOn '\n') first p.loops Shell.Runner.maxRounds 0 text
      { Shell.Source.ofText [] text with line := first })
    (modifyContext (fun c => { c with evaluations := c.evaluations - 1 }))

end

end Slipway.Rich
