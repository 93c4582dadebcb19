import Slipway.Machine.Executable
import Slipway.Shell.Bindings
import Slipway.Shell.Fields

/-!
# Processes that start others

Signals, processes of which the shell waits for the end, and processes in the background. A process
in the background runs when it is waited for, or when the shell that started it is at its end.
Commands are carried out by a runner; everything here and in what builds on it takes one.
-/

namespace Slipway.Shell

/-- How a command is carried out. -/
structure Flags where
  /-- Nothing comes behind it in its process. -/
  last : Bool := false
  /-- Its failure is asked about, so it ends nothing. -/
  tested : Bool := false
  /-- It is read from a file, so its lines may be shown as they are read. -/
  fromFile : Bool := false
  /-- It is one of several that are joined by pipes. -/
  isStage : Bool := false

/-- How the parts of a word are expanded. -/
structure Mode where
  /-- It is going to be split into fields. -/
  full : Bool := false
  /-- A tilde at its start is a directory. -/
  tilde : Bool := false
  /-- It is the value of a variable, with tildes behind colons. -/
  value : Bool := false
  quoted : Bool := false
  /-- Its own characters are split as well. -/
  splits : Bool := false

structure Runner where
  /-- Carries out a command and gives its status. -/
  run : Command → Flags → Eval Nat
  parts : Mode → List Part → Eval (List Atom)
  /-- Runs the commands in a text, in the language of the process, and gives the last status. -/
  script : Text → Flags → Eval Nat
  /-- Becomes a program of the system, with an environment. -/
  become : Image → List (Text × Text) → Eval Unit
  /-- Carries out a command of a rich script. -/
  runRich : Rich.Command → Flags → Eval Nat
  /-- What becomes of the parts of a word of a rich script. -/
  atoms : Mode → List Rich.Part → Eval (List Rich.Atom)

/-! ## Signals -/

/-- The names of the signals, from 1 on. -/
def signalNames : List String := [
  "HUP", "INT", "QUIT", "ILL", "TRAP", "ABRT", "BUS", "FPE", "KILL", "USR1", "SEGV", "USR2", "PIPE",
  "ALRM", "TERM", "STKFLT", "CHLD", "CONT", "STOP", "TSTP", "TTIN", "TTOU", "URG", "XCPU", "XFSZ",
  "VTALRM", "PROF", "WINCH", "IO", "PWR", "SYS"]

/-- What is told of a process that a signal ended, from 1 on. -/
def signalTexts : List String := [
  "Hangup", "Interrupt", "Quit", "Illegal instruction", "Trace/breakpoint trap", "Aborted",
  "Bus error", "Floating point exception", "Killed", "User defined signal 1", "Segmentation fault",
  "User defined signal 2", "Broken pipe", "Alarm clock", "Terminated", "Stack fault",
  "Child exited", "Continued", "Stopped (signal)", "Stopped", "Stopped (tty input)",
  "Stopped (tty output)", "Urgent I/O condition", "CPU time limit exceeded",
  "File size limit exceeded", "Virtual timer expired", "Profiling timer expired",
  "Window changed", "I/O possible", "Power failure", "Bad system call"]

/-- Signals that nothing happens on unless there is a trap. -/
def harmlessSignals : List Nat := [17, 18, 19, 20, 21, 22, 23, 28]

/-- A signal arrives at the process that runs. -/
def receive (signal : Nat) : Eval Unit := do
  if signal = 0 then return
  if signal = 9 then throw (.signal 9)
  match (← self).traps.lookup signal with
  | some [] => pure ()
  | some _ =>
    modifySelf (fun p => { p with caught := p.caught.filter (· ≠ signal) ++ [signal] })
  | none => if !harmlessSignals.contains signal then throw (.signal signal)

/-- Receives the signals that came while other processes ran. -/
def receivePending : Eval Unit := do
  let s ← get
  let signals := (s.pending.filter (·.1 = s.self.number)).map (·.2)
  set { s with pending := s.pending.filter (·.1 ≠ s.self.number) }
  signals.forM receive

/-- Sends a signal to a process, and tells whether there is one of that number. -/
def send (target signal : Nat) : Eval Bool := do
  let s ← get
  if target = s.self.number then
    receive signal
    pure true
  else if s.ancestors.any (·.number = target) then
    set { s with pending := s.pending ++ [(target, signal)] }
    pure true
  else
    match s.jobs.lookup target with
    | none => pure false
    | some (.ended _) => pure true
    | some (.waiting process _ _) =>
      if signal = 0 ∨ process.ignores signal ∨ harmlessSignals.contains signal then pure true
      else
        set { s with jobs := (target, .ended (.signal signal)) :: s.jobs.filter (·.1 ≠ target) }
        pure true

/-! ## Child processes -/

/-- What a copy of a process starts with: traps are gone, ignored signals stay ignored. -/
def Process.copy (p : Process) (number : Nat) : Process :=
  { p with
    number
    parent := p.number
    traps := p.traps.filter (·.2.isEmpty)
    caught := []
    jobs := []
    background := []
    unwritten := []
    copies := p.copies + 1 }

/-- How a process ended whose commands stopped like this. -/
def endingOf (result : Except Stop Unit) (status : Nat) : Ending :=
  match result with
  | .error (.signal n) => .signal n
  | _ => .code (status % 256)

/-- Runs a process from its start to its end, in the place of the one that runs. -/
def runProcess (start : Process) (directory : Option Location) (body : Eval Unit) :
    Eval Ending := do
  let before := (← get).self
  modify (fun s => { s with
    self := start
    machine := let m := s.machine.enter
      { m with directory := directory.getD m.directory }
    ancestors := before :: s.ancestors })
  let result ← attempt body
  let ending := endingOf result (← self).status
  modify (fun s => { s with
    self := before
    machine := s.machine.leave
    ancestors := s.ancestors.drop 1 })
  pure ending

def newNumber : Eval Nat := do
  let s ← get
  set { s with nextProcess := s.nextProcess + 1 }
  pure s.nextProcess

/-- The first number that is free for a job, or gets free because its job was waited for. -/
def freeIndex : (fuel : Nat) → (index : Nat) → Eval Nat
  | 0, index => pure index
  | fuel + 1, index => do
    let s ← get
    match s.self.jobs.find? (·.index = index) with
    | none => pure index
    | some job =>
      if job.waited ∧ s.hasEnded job.number then
        modifySelf (fun p => { p with jobs := p.jobs.filter (·.index ≠ index) })
        pure index
      else freeIndex fuel (index + 1)

/-- Whatever is started takes the first free number, if only as long as it runs. -/
def makeRoom : Eval Nat := do freeIndex ((← self).jobs.length + 1) 1

/-- Runs something in a copy of the process, to its end. -/
def inChild (body : Eval Unit) : Eval Ending := do
  let number ← newNumber
  let ending ← runProcess ((← self).copy number) none body
  receivePending
  pure ending

/-- Tells of a child that a signal ended. -/
def announce (ending : Ending) : Eval Unit :=
  match ending with
  | .signal n =>
    if n = 2 ∨ n = 13 then pure ()
    else complain (signalTexts.getD (n - 1) ("Unknown signal " ++ toString n) ++ "\n")
  | .code _ => pure ()

/-- Runs something in a copy of the process, and gives the status of its end. -/
def waitForChild (body : Eval Unit) : Eval Nat := do
  let ending ← inChild body
  announce ending
  pure ending.status

/-! ## The end of a shell -/

/-- Takes over the status that was asked for, and skips no more. -/
def settle (isExit : Bool) : Eval Unit :=
  modifySelf fun p => { p with
    status := if isExit then p.savedStatus.getD p.status else p.status
    savedStatus := none
    skip := none
    loops := 0 }

namespace Runner

variable (r : Runner)

/-- Runs the trap for the end of the shell. -/
def runExitTrap : Eval Unit := do
  match (← self).traps.lookup 0 with
  | none => pure ()
  | some [] => pure ()
  | some action => do
    modifySelf (fun p => { p with
      traps := p.traps.filter (·.1 ≠ 0), savedStatus := some p.status, skip := none, line := 1 })
    match ← attempt (r.script action {}) with
    | .ok _ => settle true
    | .error .exit => settle true
    | .error .error => settle false
    | .error .discard => settle false
    | .error .finished => settle false
    | .error stop => throw stop

/-- Runs something as the last of a process, and the trap for its end. Only a signal is let
through. -/
def runFinal (body : Eval Unit) : Eval Unit := do
  let final : Eval Unit := do
    match ← attempt body with
    | .ok () => settle false
    | .error .exit => settle true
    | .error .error => settle false
    | .error .discard => settle false
    | .error .finished => settle false
    | .error (.signal n) => do
      -- A rich shell still has time for what it was to do at its end.
      if (← self).rich.isSome ∧ n ≠ 9 then
        let _ ← attempt r.runExitTrap
      throw (.signal n)
    | .error stop => throw stop
    r.runExitTrap
  match ← attempt final with
  | .error (.signal n) => throw (.signal n)
  | _ => pure ()

/-- Runs a command as the last of its process. -/
def runTask (task : Task) : Eval Unit := do
  let _ ← match task with
    | .plain command => r.run command { last := true }
    | .rich command => r.runRich command { last := true }

/-- Runs the processes in the background that were not run, each with those that it leaves, to some
depth. -/
def runLeft : (depth : Nat) → Eval Unit
  | 0 => pure ()
  | depth + 1 => do
    for number in (← self).background do
      match (← get).jobs.lookup number with
      | some (.waiting process task directory) => do
        modify (fun s => { s with jobs := s.jobs.filter (·.1 ≠ number) })
        let ending ← runProcess process (some directory) (do
          let result ← attempt (r.runFinal (r.runTask task))
          runLeft depth
          match result with
          | .error stop => throw stop
          | .ok () => pure ())
        modify (fun s => { s with jobs := (number, .ended ending) :: s.jobs })
      | _ => pure ()

/-- Processes in the background that start each other. -/
def maxJobDepth : Nat := 1000

/-- Runs something as the last of a process, with the trap for its end and with all that it left in
the background. -/
def toEnd (body : Eval Unit) : Eval Unit := do
  let result ← attempt (r.runFinal body)
  r.runLeft maxJobDepth
  match result with
  | .error stop => throw stop
  | .ok () => throw .gone

/-- Runs all processes in the background that have not been run. -/
def catchUp : Eval Unit := do
  r.runLeft maxJobDepth
  receivePending

end Runner

end Slipway.Shell
