import Slipway.Shell.Builtin.Options
import Slipway.Shell.Condition
import Slipway.Shell.Format

/-!
# Builtins for processes and control

Traps, signals and processes in the background; leaving loops, functions and the shell.
-/

namespace Slipway.Shell

/-! ## Signals -/

/-- The number of a signal that is given by its number or its name in any case. -/
def signalOf? (least : Nat) (text : Text) : Option Nat :=
  if !text.isEmpty ∧ text.all isDigitChar then
    let n := valueOfDigits 10 text
    if n ≤ 64 then some n else none
  else
    let name := String.ofList (text.map Char.toUpper)
    if least = 0 ∧ name = "EXIT" then some 0
    else (signalNames.idxOf? name).map (· + 1)

/-- The names of all signals by their numbers, from 0 on. -/
def signalName (n : Nat) : String :=
  if n = 0 then "EXIT"
  else if n = 34 then "RTMIN"
  else if n = 64 then "RTMAX"
  else if 34 < n ∧ n < 50 then "RTMIN+" ++ toString (n - 34)
  else if 50 ≤ n ∧ n < 64 then "RTMAX-" ++ toString (64 - n)
  else if n = 16 then "16"
  else signalNames.getD (n - 1) (toString n)

def killUsage {α : Type} : Eval α :=
  fail "Usage: kill [-s sigspec | -signum | -sigspec] [pid | job]... or\nkill -l [exitstatus]"

/-- The job that a text names. -/
def jobOf (text : Text) : Eval JobEntry := do
  let jobs := (← self).jobs
  let isCurrent := ["%", "%%", "%+"].contains (String.ofList text)
  let isPrevious := text = "%-".toList
  let found := if isCurrent then jobs.head? else if isPrevious then jobs[1]? else
    match text with
    | '%' :: digits =>
      if digits.isEmpty || !digits.all isDigitChar then none
      else jobs.find? (·.index = valueOfDigits 10 digits)
    | _ => none
  match found with
  | some job => pure job
  | none => fail (if isCurrent then "No current job" else if isPrevious then "No previous job"
      else "No such job: " ++ text.toString)

/-- Lists the names of the signals, or tells the one behind a number or a status. -/
def listSignals : List Text → Eval Nat
  | [] => do
    printLine ['0']
    (List.range 64).forM fun n => printLine (signalName (n + 1)).toList
    pure 0
  | text :: _ => do
    let n ← smallNumber text
    let signal := if 128 < n then n - 128 else n
    if 0 < signal ∧ signal ≤ 64 then printLine (signalName signal).toList
    else fail ("invalid signal number or exit status: " ++ text.toString)
    pure 0

def killBuiltin (args : List Text) : Eval Nat := do
  if args.isEmpty then killUsage
  let (lists, signal, targets) ← match args with
    | ('-' :: name) :: rest =>
      match signalOf? 1 name with
      | some n => pure (false, some n, rest)
      | none => do
        let (options, rest) ← readOptions "ls:" args
        let signal ← options.foldlM (fun signal option => do
          if option.1 = 'l' then pure signal
          else
            match signalOf? 1 option.2 with
            | some n => pure (some n)
            | none => fail ("invalid signal number or name: " ++ option.2.toString)) none
        pure (options.any (·.1 = 'l'), signal, rest)
    | _ => pure (false, none, args)
  if lists then
    if signal.isSome then killUsage else listSignals targets
  else if targets.isEmpty then killUsage
  else
    targets.foldlM (fun status target => do
      let isReached ← match target with
        | '%' :: _ => do
          let _ ← jobOf target
          pure false
        | '-' :: number => do
          let _ ← smallNumber number
          pure false
        | number => do send (← smallNumber number) (signal.getD 15)
      if isReached then pure status
      else
        warn "No such process\n"
        pure 1) 0

def trapBuiltin (args : List Text) : Eval Nat := do
  match ← plainArgs args with
  | [] => do
    ((← self).traps.mergeSort (fun a b => a.1 ≤ b.1)).forM fun (signal, action) =>
      printLine ("trap -- ".toList ++ quotedText action ++ ' ' :: (signalName signal).toList)
    pure 0
  | first :: rest =>
    let isSignal := !first.isEmpty && first.all isDigitChar && (signalOf? 0 first).isSome
    let (action, signals) := if rest.isEmpty || isSignal then (none, first :: rest)
      else (if first = ['-'] then none else some first, rest)
    setTraps action signals
where
  setTraps (action : Option Text) : List Text → Eval Nat
    | [] => pure 0
    | name :: rest => do
      match signalOf? 0 name with
      | none => do
        complain ("trap: " ++ name.toString ++ ": bad trap\n")
        pure 1
      | some signal => do
        modifySelf (fun p => { p with traps :=
          (action.toList.map (signal, ·)) ++ p.traps.filter (·.1 ≠ signal) })
        setTraps action rest

/-! ## Processes in the background -/

/-- Waits for processes; the status is that of the last one. -/
def waitBuiltin (r : Runner) (args : List Text) : Eval Nat := do
  match ← plainArgs args with
  | [] => do
    r.catchUp
    let s ← get
    markWaited (fun job => s.hasEnded job.number)
    pure 0
  | targets =>
    targets.foldlM (fun _ target => do
      let number ← match target with
        | '%' :: _ => do pure (← jobOf target).number
        | target => smallNumber target
      r.catchUp
      if !(← self).jobs.any (·.number = number) then pure 127
      else
        match (← get).jobs.lookup number with
        | some (.ended ending) => do
          announce ending
          markWaited (·.number = number)
          pure ending.status
        | _ => pure 127) 127
where
  markWaited (test : JobEntry → Bool) : Eval Unit :=
    modifySelf (fun p => { p with
      jobs := p.jobs.map (fun job => if test job then { job with waited := true } else job) })

/-- What has become of a job. -/
def jobText (job : Option Job) : String :=
  match job with
  | some (.ended (.code 0)) => "Done"
  | some (.ended (.code n)) => "Done(" ++ toString n ++ ")"
  | some (.ended (.signal n)) => signalTexts.getD (n - 1) ("Unknown signal " ++ toString n)
  | _ => "Running"

/-- A text that is filled up to a column, with one blank at least. -/
def upToColumn (column : Nat) (text : String) : String :=
  text ++ "".pushn ' ' (max 1 (column - text.length))

/-- Shows a job. Who was told of its end need not be told again. -/
def showJob (option : Option Char) (job : JobEntry) : Eval Unit := do
  let s ← get
  let jobs := s.self.jobs
  if option = some 'p' then printLine (naturalText job.number)
  else
    let sign := if (jobs[0]?.map (·.index)) = some job.index then "+"
      else if (jobs[1]?.map (·.index)) = some job.index then "-" else " "
    let start := "[" ++ toString job.index ++ "] " ++ sign ++ " "
    let text := jobText (s.jobs.lookup job.number)
    if option = some 'l' then
      print (upToColumn 33 (start ++ toString job.number ++ " " ++ text)).toList
      (List.range (job.stages - 1)).forM fun i =>
        print (" |\n" ++ upToColumn 33 ("".pushn ' ' start.length ++ toString (job.number + i + 1)
          ++ " ")).toList
      printLine []
    else
      printLine (upToColumn 33 (start ++ text)
        ++ String.join (List.replicate (job.stages - 1) " | ")).toList
    if s.hasEnded job.number then
      modifySelf (fun p => { p with jobs := p.jobs.filter (·.index ≠ job.index) })

def jobsBuiltin (args : List Text) : Eval Nat := do
  let (options, names) ← readOptions "lp" args
  let option := options.getLast?.map (·.1)
  if names.isEmpty then (← self).jobs.forM (showJob option)
  else names.forM (fun name => do showJob option (← jobOf name))
  pure 0

/-- Jobs can only be resumed by a shell that controls them. -/
def resumeBuiltin (args : List Text) : Eval Nat := do
  let names ← plainArgs args
  let name := names.headD "%".toList
  let _ ← jobOf name
  fail ("job " ++ (if names.isEmpty then "(null)" else name.toString)
    ++ " not created under job control")

/-! ## Control -/

/-- Leaves loops, or goes on with their next rounds. -/
def skipLoops (skip : Nat → Skip) (args : List Text) : Eval Nat := do
  let n ← match args with
    | [] => pure 1
    | arg :: _ => do
      let n ← smallNumber arg
      if n = 0 then badNumber arg
      pure n
  let loops := (← self).loops
  if 0 < loops then modifySelf (fun p => { p with skip := some (skip (min n loops)) })
  pure 0

def returnBuiltin (args : List Text) : Eval Nat := do
  match args with
  | [] => do
    let p ← self
    modifySelf (fun p => { p with skip := some (.return false) })
    pure p.status
  | arg :: _ => do
    let n ← smallNumber arg
    modifySelf (fun p => { p with skip := some (.return true) })
    pure n

def exitBuiltin (args : List Text) : Eval Nat := do
  match args with
  | [] => pure ()
  | arg :: _ => do
    let n ← smallNumber arg
    modifySelf (fun p => { p with savedStatus := some n })
  throw .exit

/-! ## Limits and times -/

/-- Something of which a process may use so much only. -/
structure Resource where
  letter : Char
  label : String
  /-- The unit that it is counted in. -/
  unit : Nat := 1
  usual : Limit := ⟨none, none⟩

def resources : List Resource := [
  ⟨'t', "time(seconds)", 1, ⟨none, none⟩⟩, ⟨'f', "file(blocks)", 512, ⟨none, none⟩⟩,
  ⟨'d', "data(kbytes)", 1024, ⟨none, none⟩⟩,
  ⟨'s', "stack(kbytes)", 1024, ⟨some (8192 * 1024), none⟩⟩,
  ⟨'c', "coredump(blocks)", 512, ⟨some 0, none⟩⟩, ⟨'m', "memory(kbytes)", 1024, ⟨none, none⟩⟩,
  ⟨'l', "locked memory(kbytes)", 1024, ⟨some (8192 * 1024), some (8192 * 1024)⟩⟩,
  ⟨'p', "process", 1, ⟨none, none⟩⟩, ⟨'n', "nofiles", 1, ⟨some 1048576, some 1048576⟩⟩,
  ⟨'v', "vmemory(kbytes)", 1024, ⟨none, none⟩⟩, ⟨'w', "locks", 1, ⟨none, none⟩⟩,
  ⟨'r', "rtprio", 1, ⟨some 0, some 0⟩⟩]

def Process.limit (p : Process) (r : Resource) : Limit := (p.limits.lookup r.letter).getD r.usual

def isWithin (a b : Option Nat) : Bool :=
  match a, b with
  | _, none => true
  | none, some _ => false
  | some a, some b => a ≤ b

def ulimitBuiltin (args : List Text) : Eval Nat := do
  let (options, operands) ← readOptions "HSatfdscmlpnvwr" args
  let letters := options.map (·.1)
  let isHard := (letters.filter (fun c => c = 'H' || c = 'S')).getLast? = some 'H'
  let isSoft := (letters.filter (fun c => c = 'H' || c = 'S')).getLast? = some 'S'
  let chosen := (letters.filter (fun c => c ≠ 'H' && c ≠ 'S' && c ≠ 'a')).getLast?.getD 'f'
  let p ← self
  let tell (r : Resource) : Text :=
    let limit := p.limit r
    match if isHard then limit.hard else limit.soft with
    | some n => naturalText (n / r.unit)
    | none => "unlimited".toList
  match operands, resources.find? (·.letter = chosen) with
  | [], some r =>
    if letters.contains 'a' then
      resources.forM fun r => printLine
        (r.label.toList ++ List.replicate (20 - r.label.length) ' ' ++ ' ' :: tell r)
    else printLine (tell r)
    pure 0
  | [text], some r =>
    if letters.contains 'a' then fail "too many arguments"
    let value ← if text = "unlimited".toList then pure none
      else if text.all isDigitChar then pure (some (valueOfDigits 10 text * r.unit))
      else fail "bad number"
    let old := p.limit r
    let new : Limit := ⟨if isHard then old.soft else value, if isSoft then old.hard else value⟩
    if !isWithin new.soft new.hard then fail "error setting limit (Invalid argument)"
    if !isWithin new.hard old.hard then fail "error setting limit (Operation not permitted)"
    modifySelf (fun p => { p with limits := (r.letter, new) :: p.limits })
    pure 0
  | _, _ => fail "too many arguments"

def timesBuiltin (_ : List Text) : Eval Nat := do
  printLine "0m0.000000s 0m0.000000s".toList
  printLine "0m0.000000s 0m0.000000s".toList
  pure 0

/-! ## Texts -/

def echoBuiltin (args : List Text) : Eval Nat := do
  print (echoText args)
  pure 0

def printfBuiltin (args : List Text) : Eval Nat := do
  match ← plainArgs args with
  | [] => fail "usage: printf format [arg ...]"
  | template :: args => do
    let f := format template args
    print f.text
    f.problems.reverse.forM fun (arg, problem) =>
      warn (arg.toString ++ ": " ++ match problem with
        | .none => "expected numeric value"
        | .partly => "not completely converted"
        | .range => "Numerical result out of range")
    match f.failure with
    | some text => fail text
    | none => pure (if f.problems.isEmpty then 0 else 1)

def testBuiltin (args : List Text) : Eval Nat := do
  pure (if ← condition args then 0 else 1)

/-- The condition in brackets has to end in one. -/
def bracketBuiltin (args : List Text) : Eval Nat := do
  if args.getLast? ≠ some [']'] then fail "missing ]"
  testBuiltin args.dropLast

end Slipway.Shell
