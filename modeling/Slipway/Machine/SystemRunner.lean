import Slipway.Release.Locate
import Slipway.Rich.Start
import Slipway.Tool.Table

/-!
# Real processes on a machine

The runner that starts programs on the machine: scripts run in its shell, and everything else is a
program of the system.
-/

namespace Slipway

open Shell

/-! ## Running to some depth -/

/-- The names of the plain shell. -/
def shellNames : List String := ["sh", "dash"]

/-- The names of the shell for rich scripts. -/
def richShellNames : List String := ["bash", "rbash"]

/-- Becomes a program, which has the runner for the ones that it starts. -/
def Shell.Runner.becomeImage (r : Shell.Runner) (image : Image)
    (environment : List (Text × Text)) : Eval Unit := do
  match image.args.map Text.ofBytes with
  | [] => throw .gone
  | name :: args =>
    let file := Text.ofString image.file
    if shellNames.contains image.tool then r.becomeShell environment file name args
    else if richShellNames.contains image.tool then Rich.becomeShell r environment file name args
    else
      match Tool.programs.lookup image.tool with
      | some program => Tool.becomeProgram r program environment file name args
      | none => do
        setStatus 127
        throw .gone

/-- Commands that are this deep in each other find no room on the stack. -/
def Shell.Runner.exhausted : Shell.Runner where
  run _ _ := throw (.signal 11)
  parts _ _ := throw (.signal 11)
  script _ _ := throw (.signal 11)
  become _ _ := throw (.signal 11)
  runRich _ _ := throw (.signal 11)
  atoms _ _ := throw (.signal 11)

/-- The runner for commands that are at most so deep in each other. -/
def Shell.Runner.ofDepth : (depth : Nat) → Shell.Runner
  | 0 => .exhausted
  | depth + 1 =>
    { run := fun command flags => (ofDepth depth).runCommand command flags
      parts := fun mode parts => (ofDepth depth).expandParts mode true parts
      script := fun text flags => do
        if (← self).rich.isSome then
          Rich.runScript (ofDepth depth) (if flags.fromFile then none else some "eval") text flags
        else (ofDepth depth).runScript text flags
      become := fun image environment => (ofDepth depth).becomeImage image environment
      runRich := fun command flags => Rich.runCommand (ofDepth depth) command flags
      atoms := fun mode parts => Rich.expandParts (ofDepth depth) mode true parts }

/-- Deep enough for scripts that end at all. -/
def maxCommandDepth : Nat := 100000

/-! ## Starting a process -/

/-- The state before a process starts: its input is there, and its outputs take everything. -/
def Shell.State.ofInput (m : Machine) (input : Bytes) : Shell.State where
  machine := m
  channels := [(0, .pipe input [] none), (1, .pipe [] [] none), (2, .pipe [] [] none)]
  nextChannel := 3
  nextProcess := 4712
  self := { number := 4711, parent := 4710, shell := 4711, name := [],
            descriptors := [(0, 0), (1, 1), (2, 2)] }

/-- What processes wrote to a channel. -/
def Shell.State.output (s : Shell.State) (id : Nat) : Bytes :=
  match s.channels.lookup id with
  | some (.pipe front behind _) => front ++ behind.reverse.flatten
  | _ => []

/-- Nothing is left of files that were removed while they were open. -/
def FileSystem.withoutRemoved (fs : FileSystem) : FileSystem :=
  { fs with entries := fs.entries.filter (fun entry => entry.1.head? ≠ some "") }

/-- Runs a program that was found, from its start to its end. -/
def runImage (m : Machine) (env : Environment) (image : Image) (input : Bytes) :
    ProcessOutput × Machine :=
  let environment := env.map (fun (name, value) => (Text.ofString name, Text.ofString value))
  let body := (Shell.Runner.ofDepth maxCommandDepth).become image environment
  let (result, s) := body.run.run (.ofInput m.enter input)
  let code : Option Int := match endingOf result s.self.status with
    | .code n => some n
    | .signal _ => none
  let m := s.machine.leave
  (⟨code, s.output 1, s.output 2⟩, { m with files := m.files.withoutRemoved })

/-- Starts programs for real, with the given environment. -/
def systemRunner (env : Environment) (i : Invocation) (m : Machine) :
    Except SystemError ProcessOutput × Machine :=
  let texts := i.program.text :: i.args
  if texts.any (fun text => text.toList.contains '\x00') then (.error .nulInArgument, m)
  else
    match m.start (env.get? "PATH") i.program.text (texts.map Utf8.encode) with
    | .error e => (.error e, m)
    | .ok image =>
      let (output, m) := runImage m env image (i.input.getD [])
      (.ok output, m)

end Slipway
