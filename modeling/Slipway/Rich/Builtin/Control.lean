import Slipway.Rich.Builtin.Options

/-!
# Builtins of rich scripts for processes and control

Actions at signals and at errors, processes in the background, leaving loops, functions and the
shell, and scripts that are run by the same shell.
-/

namespace Slipway.Rich

open Shell (Text Eval self modifySelf setStatus printLine print naturalText complain JobEntry Skip)

/-! ## Signals -/

/-- Events that actions can be for, besides signals. -/
def eventNames : List String := ["DEBUG", "ERR", "RETURN"]

inductive Event
  /-- A signal, or the end of the shell with 0. -/
  | signal (number : Nat)
  | named (name : String)

def signalName (n : Nat) : String :=
  if n = 0 then "EXIT" else if n = 16 then "SIGSTKFLT" else "SIG" ++ Shell.signalName n

/-- The numbers that signals have. -/
def signalNumbers : List Nat := ((List.range 65).drop 1).filter (fun n => n ≠ 32 && n ≠ 33)

def signalOf? (text : Text) : Option Nat :=
  if !text.isEmpty ∧ text.all Char.isDigit then
    let n := Shell.valueOfDigits 10 text
    if n ≤ 64 then some n else none
  else
    let name := String.ofList (text.map Char.toUpper)
    (0 :: signalNumbers).find? (fun n => name = signalName n || (n ≠ 0 && "SIG" ++ name = signalName n))

def eventOf? (text : Text) : Option Event :=
  let name := String.ofList (text.map Char.toUpper)
  if eventNames.contains name then some (.named name) else (signalOf? text).map .signal

def invalidSignal (text : Text) : String := Text.toString text ++ ": invalid signal specification"

/-- All signals, five to a line. -/
def signalTable : Text :=
  let entry (n : Nat) : Text := rightAligned 2 (naturalText n) ++ ") ".toList
    ++ (signalName n).toList
  let rows (numbers : List Nat) : Text :=
    (numbers.zipIdx.map fun (n, i) => entry n ++ [if i % 5 = 4 then '\n' else '\t']).flatten
  rows signalNumbers ++ ['\n']

/-- Lists all signals, or tells the names of numbers and the numbers of names. -/
def listSignals (names : List Text) : Eval Nat := do
  if names.isEmpty then
    print signalTable
    return 0
  forEach names fun name => do
    let n := Shell.valueOfDigits 10 name
    if !name.isEmpty ∧ name.all Char.isDigit then
      let n := if 128 < n then n - 128 else n
      if n = 0 ∨ signalNumbers.contains n then
        printLine (if n = 0 then signalName n else ((signalName n).drop 3).toString).toList
        return true
    else if let some n := signalOf? name then
      printLine (naturalText n)
      return true
    warn (invalidSignal name)
    pure false

/-! ## Jobs -/

/-- The job that a text behind a percent sign names. -/
def jobOf? (text : Text) : Eval (Option JobEntry) := do
  let jobs := (← self).jobs
  let name := text.drop 1
  let fitting (test : Text → Bool) : Eval (Option JobEntry) := do
    match jobs.filter (fun job => test job.text) with
    | [job] => pure (some job)
    | [] => pure none
    | _ => do
      warn (Text.toString name ++ ": ambiguous job spec")
      pure none
  match name with
  | [] => pure jobs.head?
  | ['%'] => pure jobs.head?
  | ['+'] => pure jobs.head?
  | ['-'] => pure (jobs[1]?.orElse (fun _ => jobs.head?))
  | '?' :: piece => fitting (isPieceOf piece)
  | name =>
    if name.all Char.isDigit then pure (jobs.find? (·.index = Shell.valueOfDigits 10 name))
    else fitting (name.isPrefixOf ·)

def noJob (text : Text) : String := Text.toString text ++ ": no such job"

/-- Whether a job has not been run. -/
def isWaiting (job : JobEntry) : Eval Bool := return !(← get).hasEnded job.number

def showJob (options : List (Char × Text)) (job : JobEntry) : Eval Unit := do
  if !(← isWaiting job) ∨ hasOption options 's' then return
  let jobs := (← self).jobs
  if hasOption options 'p' then printLine (naturalText job.number)
  else
    let sign := if (jobs[0]?.map (·.index)) = some job.index then '+'
      else if (jobs[1]?.map (·.index)) = some job.index then '-' else ' '
    let number := if hasOption options 'l' then
        rightAligned 5 (naturalText job.number) ++ [' '] else [' ']
    printLine ('[' :: naturalText job.index ++ ']' :: sign :: ' ' :: number
      ++ "Running                 ".toList ++ job.text ++ " &".toList)

def jobsBuiltin (r : Shell.Runner) (args : List Text) : Eval Nat := do
  let (options, names) ← readOptions "lpnxrs" args
  if hasOption options 'x' then
    let words ← names.mapM fun word => do
      match word with
      | '%' :: _ => do
        let found ← jobOf? word
        pure ((found.map (fun job => naturalText job.number)).getD word)
      | word => pure word
    return ← r.script (List.intercalate [' '] (words.map quotedIfNeeded)) {}
  if names.isEmpty then
    if !hasOption options 'n' then
      ((← self).jobs.mergeSort (fun a b => a.index ≤ b.index)).forM (showJob options)
    return 0
  forEach names fun name => do
    match ← jobOf? (if name.head? = some '%' then name else '%' :: name) with
    | some job => do
      showJob options job
      pure true
    | none => do
      warn (noJob name)
      pure false

def disownBuiltin (args : List Text) : Eval Nat := do
  let (options, names) ← readOptions "ahr" args
  let forget (index : Nat) : Eval Unit :=
    modifySelf (fun p => { p with jobs := p.jobs.filter (·.index ≠ index) })
  if names.isEmpty ∧ (hasOption options 'a' ∨ hasOption options 'r') then
    modifySelf (fun p => { p with jobs := [] })
    return 0
  if names.isEmpty then
    match (← self).jobs.head? with
    | some job => do
      forget job.index
      pure 0
    | none => refuse "current: no such job"
  else
    forEach names fun name => do
      let found ← match name with
        | '%' :: _ => jobOf? name
        | name => do pure ((← self).jobs.find? (fun job => naturalText job.number = name))
      match found with
      | some job => do
        forget job.index
        pure true
      | none => do
        warn (noJob name)
        pure false

/-- Tells of a job that a signal ended. -/
def announceJob (job : JobEntry) (ending : Shell.Ending) : Eval Unit := do
  match ending with
  | .signal n => if n ≠ 15 then announce ending job.text job.number
  | .code _ => pure ()

def forgetJob (number : Nat) : Eval Unit :=
  modifySelf (fun p => { p with jobs := p.jobs.filter (·.number ≠ number) })

/-- The ending of a process in the background, which is run if it has not been. -/
def endOf (r : Shell.Runner) (number : Nat) : Eval (Option Nat) := do
  r.catchUp
  match (← get).jobs.lookup number with
  | some (.ended ending) => do
    if let some job := (← self).jobs.find? (·.number = number) then
      announceJob job ending
      forgetJob number
    pure (some ending.status)
  | _ => pure none

def waitBuiltin (r : Shell.Runner) (args : List Text) : Eval Nat := do
  let (options, ids) ← readOptions "fnp:" args
  let jobs := (← self).jobs
  let note (number : Nat) : Eval Unit := do
    if let some name := optionArg? options 'p' then putText name (naturalText number)
  if hasOption options 'n' ∧ ids.isEmpty then
    match jobs.getLast? with
    | none => pure 127
    | some job => do
      note job.number
      return (← endOf r job.number).getD 127
  else if ids.isEmpty then
    r.catchUp
    jobs.reverse.forM fun job => do
      let _ ← endOf r job.number
    pure 0
  else
    ids.foldlM (fun _ id => do
      match id with
      | '%' :: _ => do
        match ← jobOf? id with
        | some job => do
          note job.number
          return (← endOf r job.number).getD 127
        | none => do
          warn (noJob id)
          pure 127
      | id =>
        if id.isEmpty ∨ !id.all Char.isDigit then
          warn ("\x60" ++ Text.toString id ++ "': not a pid or valid job spec")
          pure 1
        else
          let number := Shell.valueOfDigits 10 id
          let isChild := (← self).background.contains number
          match ← (if isChild then endOf r number else pure none) with
          | some status => do
            note number
            pure status
          | none => do
            warn ("pid " ++ Text.toString id ++ " is not a child of this shell")
            pure 127) 0

/-! ## Sending signals -/

/-- The signal that is asked for, and the arguments behind that: none if it is not known, with
the text that names it. -/
def killOptions : (fuel : Nat) → (signal : Except Text Nat) → (seen : Bool) → List Text →
    Eval (Except Text Nat × Bool × List Text)
  | 0, signal, _, args => pure (signal, false, args)
  | fuel + 1, signal, seen, args => do
    let named (text : Text) : Except Text Nat :=
      match signalOf? text with
      | some n => .ok n
      | none => .error text
    match args with
    | ['-', 'l'] :: rest => pure (signal, true, rest)
    | ['-', 'L'] :: rest => pure (signal, true, rest)
    | ['-', '-'] :: rest => pure (signal, false, rest)
    | ['-', '?'] :: _ => showUsage
    | ['-', c] :: rest =>
      if c = 's' ∨ c = 'n' then
        match rest with
        | name :: rest => killOptions fuel (named name) seen rest
        | [] => refuse (Text.toString ['-', c] ++ ": option requires an argument")
      else if seen then pure (signal, false, args)
      else killOptions fuel (named [c]) true rest
    | ('-' :: name) :: rest =>
      if seen then pure (signal, false, args)
      else
        match name with
        | 's' :: d :: more =>
          if d.isAlpha then killOptions fuel (named (d :: more)) true rest
          else killOptions fuel (named name) true rest
        | 'n' :: d :: more =>
          if d.isDigit then killOptions fuel (named (d :: more)) true rest
          else killOptions fuel (named name) true rest
        | name => killOptions fuel (named name) true rest
    | args => pure (signal, false, args)

def killBuiltin (args : List Text) : Eval Nat := do
  if args.isEmpty then showUsage
  let (signal, lists, targets) ← killOptions (args.length + 1) (.ok 15) false args
  if lists then return ← listSignals targets
  match signal with
  | .error text => refuse (invalidSignal text)
  | .ok signal => do
    if targets.isEmpty then showUsage
    let reached ← targets.mapM fun target => do
      let digits := if target.head? = some '-' then target.drop 1 else target
      if !digits.isEmpty ∧ digits.all Char.isDigit then
        let found ← if target.head? = some '-' then pure false
          else Shell.send (Shell.valueOfDigits 10 digits) signal
        if !found then warn ("(" ++ Text.toString target ++ ") - No such process")
        pure found
      else if target.head? = some '%' then
        match ← jobOf? target with
        | some job => Shell.send job.number signal
        | none => do
          warn (noJob target)
          pure false
      else
        warn (Text.toString target ++ ": arguments must be process or job IDs")
        pure false
    pure (if reached.any id then 0 else 1)

/-! ## Actions -/

def actionFor (event : Event) : Eval (Option Text) := do
  match event with
  | .signal n => return (← self).traps.lookup n
  | .named name => return (← context).actions.lookup name

def shownAction (event : Event) : Eval (Option Text) := do
  match (← context).former, event with
  | none, _ => actionFor event
  | some (traps, _), .signal n => pure (traps.lookup n)
  | some (_, actions), .named name => pure (actions.lookup name)

/-- Sets the action for an event, or takes it away. -/
def setAction (event : Event) (action : Option Text) : Eval Unit := do
  modifyContext (fun c => { c with former := none })
  match event with
  | .signal n => modifySelf (fun p => { p with
      traps := action.toList.map (n, ·) ++ p.traps.filter (·.1 ≠ n) })
  | .named name => modifyContext (fun c => { c with
      actions := action.toList.map (name, ·) ++ c.actions.filter (·.1 ≠ name) })

def showAction (event : Event) : Eval Unit := do
  if let some action := ← shownAction event then
    let name := match event with
      | .signal n => signalName n
      | .named name => name
    printLine ("trap -- ".toList ++ singleQuoted action ++ ' ' :: name.toList)

def trapBuiltin (args : List Text) : Eval Nat := do
  let (options, operands) ← readOptions "lp" args
  if hasOption options 'l' then listSignals []
  else if operands.isEmpty then
    ((List.range 65).map Event.signal ++ eventNames.map Event.named).forM showAction
    pure 0
  else if hasOption options 'p' then onEach operands showAction
  else
    match operands with
    | [] => pure 0
    | first :: rest =>
      let isNumber := !first.isEmpty && first.all Char.isDigit && (signalOf? first).isSome
      if isNumber ∨ (first ≠ ['-'] ∧ rest.isEmpty ∧ (eventOf? first).isSome) then
        onEach operands (setAction · none)
      else if rest.isEmpty then showUsage
      else onEach rest (setAction · (if first = ['-'] then none else some first))
where
  onEach (names : List Text) (task : Event → Eval Unit) : Eval Nat :=
    forEach names fun name => do
      match eventOf? name with
      | some event => do
        task event
        pure true
      | none => do
        warn (invalidSignal name)
        pure false

/-! ## Leaving loops, functions and the shell -/

/-- More arguments than there may be are an error that ends the commands of the line. -/
def noMore (args : List Text) : Eval Unit := do
  if !args.isEmpty then fail "too many arguments"

/-- Leaves loops, or goes on with their next rounds. -/
def skipLoops (skip : Nat → Skip) (args : List Text) : Eval Nat := do
  let loops := (← self).loops
  if loops = 0 then
    warn "only meaningful in a \x60for', \x60while', or \x60until' loop"
    return 0
  let args := if args.head? = some "--".toList then args.drop 1 else args
  match args with
  | [] => do
    modifySelf (fun p => { p with skip := some (skip 1) })
    pure 0
  | arg :: rest => do
    match Shell.number? 10 arg with
    | none => do
      warn (Text.toString arg ++ ": numeric argument required")
      let status := (← self).status ||| 128
      modifySelf (fun p => { p with savedStatus := some status })
      throw .exit
    | some n => do
      noMore rest
      if n ≤ 0 then
        warn (Text.toString arg ++ ": loop count out of range")
        modifySelf (fun p => { p with skip := some (.leave loops) })
        pure 1
      else
        modifySelf (fun p => { p with skip := some (skip (min n.toNat loops)) })
        pure 0

/-- The status that is asked for, or that of the last command. -/
def statusArg (args : List Text) : Eval Nat := do
  let args := if args.head? = some "--".toList then args.drop 1 else args
  match args with
  | [] => do
    let p ← self
    pure (p.savedStatus.getD p.status)
  | arg :: rest => do
    match Shell.number? 10 arg with
    | none => do
      warn (Text.toString arg ++ ": numeric argument required")
      pure 2
    | some n => do
      noMore rest
      pure (n % 256).toNat

def exitBuiltin (args : List Text) : Eval Nat := do
  let status ← statusArg args
  modifySelf (fun p => { p with savedStatus := some status })
  throw .exit

def returnBuiltin (args : List Text) : Eval Nat := do
  let status ← if args.isEmpty then pure (← self).status else statusArg args
  if (← context).calls.isEmpty then
    warn "can only \x60return' from a function or sourced script"
    return 2
  modifySelf (fun p => { p with skip := some (.return true) })
  pure status

def logoutBuiltin (args : List Text) : Eval Nat := do
  let _ ← plainArgs args
  refuse "not login shell: use \x60exit'"

def suspendBuiltin (args : List Text) : Eval Nat := do
  let _ ← readOptions "f" args
  refuse "cannot suspend: no job control"

def resumeBuiltin (_ : List Text) : Eval Nat := refuse "no job control"

/-- Tells from where the function was called. -/
def callerBuiltin (args : List Text) : Eval Nat := do
  let c ← context
  let p ← self
  let inFile := c.fromFile
  let lines := c.calls.map (fun call => naturalText call.line) ++ (if inFile then [['0']] else [])
  let sources := c.calls.map (·.source) ++ (if inFile then [p.name] else [])
  let names := c.calls.map (·.name) ++ (if inFile then ["main".toList] else [])
  match ← plainArgs args with
  | [] =>
    match lines.head? with
    | none => pure 1
    | some line => do
      printLine (line ++ ' ' :: (sources[1]?).getD "NULL".toList)
      pure 0
  | arg :: _ =>
    match Shell.number? 10 arg with
    | none => misused (Text.toString arg ++ ": invalid number")
    | some n =>
      match lines[n.toNat]?, names[n.toNat + 1]?, sources[n.toNat + 1]? with
      | some line, some name, some source => do
        printLine (line ++ ' ' :: name ++ ' ' :: source)
        pure 0
      | _, _, _ => pure 1

/-! ## Limits and times -/

def timesBuiltin (args : List Text) : Eval Nat := do
  let _ ← plainArgs args
  printLine "0m0.000s 0m0.000s".toList
  printLine "0m0.000s 0m0.000s".toList
  pure 0

/-- What is limited, as a list shows it. -/
def limitLabels : List (Char × String) := [
  ('c', "core file size              (blocks, -c) "), ('d', "data seg size               (kbytes, -d) "),
  ('f', "file size                   (blocks, -f) "), ('l', "max locked memory           (kbytes, -l) "),
  ('m', "max memory size             (kbytes, -m) "), ('n', "open files                          (-n) "),
  ('r', "real-time priority                  (-r) "), ('s', "stack size                  (kbytes, -s) "),
  ('t', "cpu time                   (seconds, -t) "), ('v', "virtual memory              (kbytes, -v) "),
  ('w', "file locks                          (-x) ")]

def ulimitBuiltin (args : List Text) : Eval Nat := do
  let (options, operands) ← readOptions "HSabcdefiklmnpqrstuvxPRT" args
  let letters := options.map (·.1)
  let kinds := letters.filter (fun c => c = 'H' || c = 'S')
  let isHard := kinds.getLast? = some 'H'
  let isSoft := kinds.getLast? = some 'S'
  let chosen := (letters.filter (fun c => c ≠ 'H' && c ≠ 'S' && c ≠ 'a')).getLast?.getD 'f'
  let p ← self
  let unitOf (s : Shell.Resource) : Nat := if s.letter = 'f' ∨ s.letter = 'c' then 1024 else s.unit
  let tell (s : Shell.Resource) : Text :=
    match if isHard then (p.limit s).hard else (p.limit s).soft with
    | some n => naturalText (n / unitOf s)
    | none => "unlimited".toList
  if letters.contains 'a' then
    limitLabels.forM fun (letter, label) => do
      if let some s := Shell.resources.find? (·.letter = letter) then
        printLine (label.toList ++ tell s)
    return 0
  let letter := if chosen = 'x' then 'w' else if chosen = 'u' then 'p' else chosen
  match operands, Shell.resources.find? (·.letter = letter) with
  | [], some s => do
    printLine (tell s)
    pure 0
  | text :: rest, some s => do
    if !rest.isEmpty then refuse "too many arguments"
    let old := p.limit s
    let value ← match String.ofList text with
      | "unlimited" => pure none
      | "hard" => pure old.hard
      | "soft" => pure old.soft
      | _ =>
        if text.all Char.isDigit then pure (some (Shell.valueOfDigits 10 text * unitOf s))
        else refuse (Text.toString text ++ ": invalid number")
    let new : Shell.Limit := ⟨if isHard then old.soft else value, if isSoft then old.hard else value⟩
    let label := ((limitLabels.lookup letter).getD "").toList.takeWhile (· ≠ '(')
    let name := Text.toString (label.reverse.dropWhile (· = ' ')).reverse
    if !Shell.isWithin new.soft new.hard then
      refuse (name ++ ": cannot modify limit: Invalid argument")
    if !Shell.isWithin new.hard old.hard then
      refuse (name ++ ": cannot modify limit: Operation not permitted")
    modifySelf (fun p => { p with limits := (s.letter, new) :: p.limits })
    pure 0
  | _, none => do
    printLine "unlimited".toList
    pure 0

/-! ## Scripts in the same shell -/

section

variable (r : Shell.Runner)

/-- Runs the arguments as commands. -/
def evalBuiltin (flags : Shell.Flags) (args : List Text) : Eval Nat := do
  let args ← plainArgs args
  if args.isEmpty then pure 0
  else
    modifySelf (fun p => { p with builtin := none })
    r.script (List.intercalate [' '] args) { tested := flags.tested }

/-- The file of a script that is to be run in this shell. -/
def scriptPlace (name : Text) : Eval Text := do
  if name.contains '/' then pure name
  else
    let m := (← get).machine
    let isFile (place : Text) : Bool :=
      m.files.satisfies m.directory (Shell.pathOf place) Node.isRegular
    pure (((Shell.placesOf (← searchPath) name).find? isFile).getD name)

/-- Runs the script in a file, with arguments of its own if there are any. -/
def sourceBuiltin (flags : Shell.Flags) (args : List Text) : Eval Nat := do
  match ← plainArgs args with
  | [] => misused "filename argument required"
  | name :: args => do
    let builtin := Text.toString ((← self).builtin.getD [])
    modifySelf (fun p => { p with builtin := none })
    let place ← scriptPlace name
    match ← Shell.contentOf place with
    | .error .isDirectory => refuse (builtin ++ ": " ++ Text.toString name ++ ": is a directory")
    | .error e => refuse (Text.toString name ++ ": " ++ Shell.errorText e)
    | .ok bytes => do
      let before ← self
      if !args.isEmpty then modifySelf (fun p => { p with args })
      let calls := (← context).calls
      modifyContext (fun c => { c with
        calls := { name := "source".toList, source := place, line := before.line } :: c.calls })
      Shell.ensuring (r.script (Text.ofBytes bytes) { fromFile := true, tested := flags.tested })
        (do
          modifyContext (fun c => { c with calls })
          modifySelf (fun p => { p with
            args := if args.isEmpty then p.args else before.args
            line := before.line
            skip := p.skip.filter (fun skip => match skip with
              | .return _ => false
              | _ => true) }))

end

end Slipway.Rich
