import Slipway.Machine.System
import Slipway.Rich.Variables

/-!
# Processes

What a process that runs a script has of its own, and what the processes of a machine share: its
files and the channels that descriptors lead to. Processes run one after the other, so whoever
reads from a pipe starts when everything has been written to it.
-/

namespace Slipway.Shell

/-! ## Channels -/

/-- What an open file was opened for. -/
structure Access where
  reads : Bool := false
  writes : Bool := false
  appends : Bool := false

/-- What a descriptor leads to. Descriptors that lead to one channel share its position. -/
inductive Channel
  /-- What was written and not read yet: the next bytes to be read, and the pieces behind them, the
  latest first. A pipe has room for so many bytes, unless it has room for all. -/
  | pipe (front : Bytes) (behind : List Bytes) (room : Option Nat)
  | file (file : Handle) (offset : Nat) (access : Access)

/-! ## Variables -/

/-- A variable may be marked without having a value. -/
structure Variable where
  value : Option Text := none
  exported : Bool := false
  readonly : Bool := false

/-- What a function call puts back at its end. -/
structure Frame where
  /-- The variables that were made local, as they were before, the latest first. -/
  saved : List (Text × Option Variable) := []
  options : Option (List String) := none

structure Function where
  line : Nat
  body : Command

/-! ## Control -/

/-- What commands are being skipped for. -/
inductive Skip
  /-- The end of so many loops. -/
  | leave (loops : Nat)
  /-- The next round of the last of so many loops. -/
  | again (loops : Nat)
  /-- The end of a function, with a status of its own or with that of the last command. -/
  | return (explicit : Bool)
  deriving DecidableEq

/-- Why a process does not go on as written. -/
inductive Stop
  /-- The script asked for its end. -/
  | exit
  /-- The last command was run, or no program could be started in place of the shell. -/
  | finished
  /-- There was an error. -/
  | error
  /-- There was an error, and the rest of the line is not run. -/
  | discard
  /-- The process is at its end, nothing of it is left to be done. -/
  | gone
  | signal (number : Nat)
  deriving DecidableEq

/-- How a process ended. -/
inductive Ending
  | code (code : Nat)
  | signal (number : Nat)
  deriving DecidableEq

/-- The status that a shell sees for the end of a process. -/
def Ending.status : Ending → Nat
  | code n => n % 256
  | signal n => 128 + n

/-! ## The process -/

/-- A place in the arguments of a script that `getopts` has come to. -/
structure OptionPlace where
  index : Nat := 1
  /-- How many letters of the argument were read, if any of them were. -/
  offset : Option Nat := none

/-- A process in the background as its shell knows it. -/
structure JobEntry where
  /-- The number of the job. -/
  index : Nat
  /-- The number of its process. -/
  number : Nat
  /-- How many commands are joined by pipes in it. -/
  stages : Nat := 1
  /-- The command, as it is shown. -/
  text : Text := []
  /-- Whether its end was waited for. -/
  waited : Bool := false

/-- How much of something a process may use, and how far it may raise that; all without a bound. -/
structure Limit where
  soft : Option Nat
  hard : Option Nat

structure Process where
  number : Nat
  parent : Nat
  /-- The number of the shell that the process is a copy of. -/
  shell : Nat
  name : Text
  /-- The file that was started, and all that it was started with. -/
  file : Text := []
  command : List Text := []
  args : List Text := []
  bindings : List (Text × Variable) := []
  /-- Those of the function calls that are going on, the latest first. -/
  frames : List Frame := []
  functions : List (Text × Function) := []
  aliases : List (Text × Text) := []
  /-- The programs that were found, each with the number of the directory it was found in. -/
  found : List (Text × Nat) := []
  /-- The names of the options that are on. -/
  options : List String := []
  /-- What is done on signals; 0 stands for the end of the shell. Nothing is done for an empty
  text. -/
  traps : List (Nat × Text) := []
  /-- The signals that arrived and have a trap. -/
  caught : List Nat := []
  /-- The channel of each open descriptor. -/
  descriptors : List (Nat × Nat) := []
  /-- Output that was not written yet, the latest piece first. -/
  unwritten : List Bytes := []
  status : Nat := 0
  /-- The status of the last command whose output was expanded. -/
  outputStatus : Nat := 0
  /-- The status to end with that was asked for, or that a trap found. -/
  savedStatus : Option Nat := none
  line : Nat := 1
  /-- The line of the function that runs, or 0. -/
  functionLine : Nat := 0
  /-- The builtin that runs. -/
  builtin : Option Text := none
  skip : Option Skip := none
  loops : Nat := 0
  calls : Nat := 0
  /-- The modes that new files do not get. -/
  mask : Nat := 0o022
  /-- The current directory as it was reached, if it is known. -/
  directory : Option Text := none
  optionPlace : OptionPlace := {}
  /-- The processes in the background that the shell knows, the latest first. -/
  jobs : List JobEntry := []
  /-- The numbers of all processes that were put into the background. -/
  background : List Nat := []
  /-- The process that was put into the background last, or 0. -/
  lastJob : Nat := 0
  /-- The limits that were set, by their letters. -/
  limits : List (Char × Limit) := []
  /-- How deep the shell is in shells that it is a copy of. -/
  copies : Nat := 0
  /-- What a rich shell keeps besides. -/
  rich : Option Rich.Context := none

/-- A command in one of the languages of the shells. -/
inductive Task
  | plain (command : Command)
  | rich (command : Rich.Command)

/-- A process in the background that has not been run yet, or its end. -/
inductive Job
  | waiting (process : Process) (task : Task) (directory : Location)
  | ended (ending : Ending)

structure State where
  machine : Machine
  channels : List (Nat × Channel) := []
  nextChannel : Nat := 0
  nextProcess : Nat
  /-- The processes that wait for the one that runs. -/
  ancestors : List Process := []
  jobs : List (Nat × Job) := []
  /-- Signals for processes that do not run now. -/
  pending : List (Nat × Nat) := []
  self : Process

/-- Whether a process in the background has come to its end. -/
def State.hasEnded (s : State) (number : Nat) : Bool :=
  match s.jobs.lookup number with
  | some (.ended _) => true
  | _ => false

abbrev Eval (α : Type) := ExceptT Stop (StateM State) α

/-! ## Reading and changing the process -/

def self : Eval Process := return (← get).self

def modifySelf (f : Process → Process) : Eval Unit := modify (fun s => { s with self := f s.self })

def setStatus (status : Nat) : Eval Unit := modifySelf (fun p => { p with status })

def Process.has (p : Process) (option : String) : Bool := p.options.contains option

def Process.setOption (p : Process) (option : String) (on : Bool) : Process :=
  let others := p.options.filter (· ≠ option)
  { p with options := if on then option :: others else others }

/-- Does something, and tells whether it was stopped. -/
def attempt {α : Type} (body : Eval α) : Eval (Except Stop α) := ExceptT.lift body.run

/-- Does something, and then something else even if the first was stopped. -/
def ensuring {α : Type} (body : Eval α) (after : Eval Unit) : Eval α := do
  let result ← attempt body
  after
  match result with
  | .ok a => pure a
  | .error stop => throw stop

/-! ## Values -/

def Process.get? (p : Process) (name : Text) : Option Text :=
  (p.bindings.lookup name).bind (·.value)

def Process.getText? (p : Process) (name : String) : Option Text := p.get? name.toList

/-- Changes a variable, or adds it behind the others. -/
def Process.bind (p : Process) (name : Text) (f : Variable → Variable) : Process :=
  if (p.bindings.lookup name).isSome then
    { p with bindings := p.bindings.map (fun b => if b.1 = name then (name, f b.2) else b) }
  else { p with bindings := p.bindings ++ [(name, f {})] }

def Process.unbind (p : Process) (name : Text) : Process :=
  { p with bindings := p.bindings.filter (·.1 ≠ name) }

/-- The place of a name among so many in the order in which names are listed. -/
def bucketOf (buckets : Nat) (name : Text) : Nat :=
  let codes := name.map Char.toNat
  (codes.headD 0 * 16 + codes.foldl (· + ·) 0) % buckets

/-- Things with names, in the order in which they are listed. -/
def inBuckets {α : Type} (buckets : Nat) (named : List (Text × α)) : List (Text × α) :=
  named.mergeSort (fun a b => bucketOf buckets a.1 ≤ bucketOf buckets b.1)

/-- What a started program sees of the variables. -/
def Process.environment (p : Process) : List (Text × Text) :=
  inBuckets 39 (p.bindings.filterMap fun (name, v) =>
    if v.exported then v.value.map (name, ·) else none)

end Slipway.Shell
