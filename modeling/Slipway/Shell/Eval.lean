import Slipway.Shell.Simple

/-!
# Running commands

Carrying out commands of every kind, and scripts command by command. The commands inside a command
are left to a runner.
-/

namespace Slipway.Shell

namespace Runner

variable (r : Runner)

/-! ## Traps -/

/-- Runs the traps for the signals that arrived. They leave the status as it was, unless they
return another one from a function. -/
def runTraps : Eval Unit := do
  let p ← self
  if p.caught.isEmpty then return
  let status := p.savedStatus.getD p.status
  modifySelf (fun p => { p with caught := [], savedStatus := some status })
  for signal in p.caught.mergeSort do
    if (← self).skip.isSome then
      modifySelf (fun p => { p with caught := p.caught ++ [signal] })
    else
      match (← self).traps.lookup signal with
      | some action => do
        let _ ← r.script action {}
        if (← self).skip ≠ some (.return true) then setStatus status
      | none => pure ()
  modifySelf (fun q => { q with savedStatus := p.savedStatus })

/-! ## Loops -/

/-- How a loop goes on after a round. -/
inductive Round
  | done
  | again
  | left
  deriving DecidableEq

/-- Looks at what the commands of a round left to be skipped. -/
def endRound : Eval Round := do
  let set (skip : Option Skip) : Eval Unit := modifySelf (fun p => { p with skip })
  match (← self).skip with
  | none => pure .done
  | some (.leave n) => do
    set (if n ≤ 1 then none else some (.leave (n - 1)))
    pure .left
  | some (.again n) =>
    if n ≤ 1 then
      set none
      pure .again
    else
      set (some (.again (n - 1)))
      pure .left
  | some (.return _) => pure .left

/-- Runs something as a loop. -/
def inLoop (body : Eval Nat) : Eval Nat := do
  modifySelf (fun p => { p with loops := p.loops + 1 })
  let status ← body
  modifySelf (fun p => { p with loops := p.loops - 1 })
  pure status

/-- More rounds than a loop makes that ends. -/
def maxRounds : Nat := 100000000

/-- The status of a loop is that of its last body, or 0. -/
def runLoop (flags : Flags) (untilTrue : Bool) (test body : Command) :
    (fuel : Nat) → (status : Nat) → Eval Nat
  | 0, status => pure status
  | fuel + 1, status => do
    let value ← r.run test { tested := true }
    let skipped := (← self).skip
    match ← endRound with
    | .again => runLoop flags untilTrue test body fuel status
    | .left => pure (if skipped = some (.return true) then value else status)
    | .done =>
      if (value = 0) = untilTrue then pure status
      else
        let status ← r.run body { tested := flags.tested }
        match ← endRound with
        | .left => pure status
        | _ => runLoop flags untilTrue test body fuel status

def runEach (flags : Flags) (name : Text) (body : Command) :
    (status : Nat) → (values : List Text) → Eval Nat
  | status, [] => pure status
  | _, value :: rest => do
    assign name value
    let status ← r.run body { tested := flags.tested }
    match ← endRound with
    | .left => pure status
    | _ => runEach flags name body status rest

/-! ## Choices -/

/-- The body of the first arm with a pattern that fits. -/
def runArms (flags : Flags) (text : Text) : List (List Word × Option Command) → Eval Nat
  | [] => pure 0
  | (patterns, body) :: rest => do
    let found ← patterns.anyM fun pattern => do
      let letters := lettersOfAtoms (← r.parts { tilde := true } pattern)
      pure (matchesPattern (patternOf letters) text)
    if found then
      match body with
      | some body => if (← self).skip.isSome then pure 0 else r.run body flags
      | none => pure 0
    else runArms flags text rest

/-! ## Processes -/

/-- Runs a command as the last of a process. -/
def runLast (body : Command) (tested : Bool) : Eval Unit :=
  r.toEnd (do let _ ← r.run body { last := true, tested })

/-- Stages in processes of their own, each reading what the one before it wrote. -/
def runStages (tested : Bool) : (status : Nat) → (input : Option Nat) → List Command → Eval Nat
  | status, _, [] => pure status
  | _, input, stage :: rest => do
    let output ← if rest.isEmpty then pure none else some <$> newPipe
    let status ← waitForChild (do
      if let some id := input then modifySelf (·.connect 0 (some id))
      if let some id := output then modifySelf (·.connect 1 (some id))
      r.runLast stage tested)
    runStages tested status output rest

/-- Commands in a process of their own. A process that is at its end anyway is used as it is. -/
def runSubshell (flags : Flags) (line : Nat) (body : Command) (redirects : List Redirect) :
    Eval Nat := do
  startLine line
  let targets ← r.expandRedirects redirects
  if flags.last ∧ !(Process.hasTraps (← self)) then
    r.redirectAll targets
    r.run body flags
  else
    let _ ← makeRoom
    waitForChild (r.toEnd (do
      r.redirectAll targets
      let _ ← r.run body { last := true, tested := flags.tested }))

/-- Puts a command into the background. It has no input and is not interrupted from the keyboard. -/
def runInBackground (body : Task) (stages : Nat := 1) : Eval Nat := do
  let number ← newNumber
  let input ← newInput []
  let process := ((← self).copy number).connect 0 (some input)
  let process := { process with
    traps := (2, []) :: (3, []) :: process.traps.filter (fun trap => trap.1 ≠ 2 ∧ trap.1 ≠ 3) }
  modify (fun s => { s with
    jobs := (number, .waiting process body s.machine.directory) :: s.jobs })
  let index ← makeRoom
  modifySelf (fun p => { p with
    jobs := { index, number, stages } :: p.jobs
    background := p.background ++ [number]
    lastJob := number })
  pure 0

/-! ## Commands -/

/-- Carries out a command, and tells whether its failure can end the shell. -/
def carryOut (flags : Flags) : Command → Eval (Nat × Bool)
  | .simple line assignments words redirects =>
    return (← r.runSimple flags line assignments words redirects, true)
  | .pipeline false stages => do
    let _ ← makeRoom
    return (← r.runStages flags.tested 0 none stages, true)
  | .pipeline true stages =>
    return (← runInBackground (.plain (.pipeline false stages)) stages.length, true)
  | .negation body => do
    let status ← r.run body { tested := true }
    pure (if status = 0 then 1 else 0, false)
  | .andThen first second => do
    let status ← r.run first { tested := true }
    if status = 0 ∧ (← self).skip.isNone then return (← r.run second flags, false)
    else pure (status, false)
  | .orElse first second => do
    let status ← r.run first { tested := true }
    if status ≠ 0 ∧ (← self).skip.isNone then return (← r.run second flags, false)
    else pure (status, false)
  | .sequence first second => do
    let status ← r.run first { tested := flags.tested }
    if (← self).skip.isNone then return (← r.run second flags, false) else pure (status, false)
  | .background line body redirects => do
    startLine line
    let command := if redirects.isEmpty then body else .redirected line body redirects
    return (← runInBackground (.plain command), true)
  | .redirected line body redirects => do
    startLine line
    let targets ← r.expandRedirects redirects
    let saved := (← self).descriptors
    let failed ← r.redirectSafely targets
    let status ← if failed then pure 2 else r.run body { tested := flags.tested }
    modifySelf (fun p => { p with descriptors := saved })
    pure (status, failed)
  | .subshell line body redirects => return (← r.runSubshell flags line body redirects, true)
  | .conditional test yes no => do
    let status ← r.run test { tested := true }
    if (← self).skip.isSome then pure (status, false)
    else if status = 0 then return (← r.run yes flags, false)
    else
      match no with
      | some no => return (← r.run no flags, false)
      | none => pure (0, false)
  | .loop untilTrue test body =>
    return (← inLoop (r.runLoop flags untilTrue test body maxRounds 0), false)
  | .each line name words body => do
    startLine line
    let values := (← words.mapM (fun word => r.expandFields word)).flatten
    return (← inLoop (r.runEach flags name body 0 values), false)
  | .choose line word arms => do
    startLine line
    let text ← r.expandText word
    return (← r.runArms flags text arms, false)
  | .define line name body => do
    modifySelf (fun p => { p with
      functions := (name, ⟨line, body⟩) :: p.functions.filter (·.1 ≠ name) })
    pure (0, false)

/-- Carries out a command and sets the status. A failure that nobody asked about ends the shell if
that is wanted. -/
def runCommand (command : Command) (flags : Flags) : Eval Nat := do
  if (← self).has "noexec" then return (← self).status
  r.runTraps
  let (status, checks) ← r.carryOut flags command
  setStatus status
  r.runTraps
  if checks ∧ !flags.tested ∧ status ≠ 0 ∧ (← self).has "errexit" then throw .finished
  if flags.last then throw .finished
  return (← self).status

/-! ## Scripts -/

/-- So many lines at the beginning of a text, and what is behind them. -/
def splitLines : (count : Nat) → Text → Text × Text
  | 0, text => ([], text)
  | _, [] => ([], [])
  | count + 1, c :: rest =>
    let (lines, behind) := splitLines (if c = '\n' then count else count + 1) rest
    (c :: lines, behind)
  termination_by _ text => text.length

/-- Shows lines that were just read, if that is wanted, and gives the text behind them. -/
def showLines (flags : Flags) (count : Nat) (text : Text) : Eval Text := do
  if !flags.fromFile then return text
  let (lines, behind) := splitLines count text
  if (← self).has "verbose" then
    let _ ← emit 2 lines.toBytes
  pure behind

/-- Runs what is left of a source, line by line, and gives the status of the last command. The text
of the source is shown on the way. -/
def runSource (flags : Flags) : (fuel : Nat) → (status : Nat) → Text → Source → Eval Nat
  | 0, status, _, _ => pure status
  | fuel + 1, status, text, source => do
    match Parser.parseLine.run { source with aliases := (← self).aliases } with
    | .error e => do
      let _ ← showLines flags (e.line + 1 - source.line) text
      startLine e.line
      fail ("Syntax error: " ++ e.message)
    | .ok (.ended, _) => do
      let _ ← showLines flags text.length text
      pure status
    | .ok (.line none _, behind) => do
      let text ← showLines flags (behind.line - source.line) text
      runSource flags fuel status text behind
    | .ok (.line (some command) isLast, behind) => do
      let count := behind.line - source.line
      let text ← showLines flags (if behind.symbols.isEmpty then count + 1 else count) text
      let status ← r.run command { flags with last := flags.last && isLast, fromFile := false }
      if (← self).skip.isSome then pure status else runSource flags fuel status text behind

/-- Runs the commands in a text. -/
def runScript (text : Text) (flags : Flags) : Eval Nat :=
  r.runSource flags maxRounds 0 (if flags.fromFile then text else []) (.ofText [] text)

end Runner

end Slipway.Shell
