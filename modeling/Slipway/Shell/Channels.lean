import Slipway.Shell.Process

/-!
# Channels

Reading and writing through descriptors, opening files, and the messages of a process.
-/

namespace Slipway.Shell

/-! ## Errors of the system -/

def badDescriptor : SystemError := .numbered 9
def brokenPipe : SystemError := .numbered 32

/-- The text of an error without its number. -/
def errorText : SystemError → String
  | .numbered n => SystemError.textOfNumber n
  | e => e.message

def pathOf (text : Text) : Path := ⟨text.toString⟩

/-! ## Files that change while they are open -/

/-- Where the data of a file stay that was removed while it is open: below no directory. -/
def removedPlace (serial : Nat) : Location := ["", toString serial]

/-- Where an open file is to be found after the files changed, and the files with it. -/
def followFile (before after : FileSystem) (file : Handle) : FileSystem × Handle :=
  match before.openNode? file with
  | some (.file data) =>
    if (after.openNode? file).isSome then (after, file)
    else
      match after.entries.find? (fun entry => FileSystem.serialOf entry.2 = data.serial) with
      | some (place, _) => (after, { file with place })
      | none =>
        let place := removedPlace data.serial
        (after.put place (.file data), { file with place })
  | _ => (after, file)

/-- Puts another machine in place, with the open files kept. -/
def State.withMachine (s : State) (machine : Machine) : State :=
  let (files, channels) := s.channels.foldr (fun (id, channel) (files, channels) =>
    match channel with
    | .file file offset access =>
      let (files, file) := followFile s.machine.files files file
      (files, (id, .file file offset access) :: channels)
    | channel => (files, (id, channel) :: channels)) (machine.files, [])
  { s with machine := { machine with files }, channels }

/-- A step of working with files. -/
def act (action : FileAction) : Eval action.Reply := do
  let s ← get
  let (reply, machine) := s.machine.reply action
  set (s.withMachine machine)
  pure reply

/-- A change of the files that can fail. -/
def change (f : Machine → Except SystemError FileSystem) : Eval (Except SystemError Unit) := do
  let s ← get
  let (reply, machine) := s.machine.change (f s.machine)
  set (s.withMachine machine)
  pure reply

/-- What a path leads to. -/
def findNode (path : Path) (followLast : Bool := true) :
    Eval (Except SystemError (Location × Node)) := do
  let m := (← get).machine
  pure (m.files.findNode m.directory path followLast)

/-! ## Channels -/

def State.channel? (s : State) (descriptor : Nat) : Option Nat :=
  s.self.descriptors.lookup descriptor

/-- What a descriptor of the process leads to. -/
def State.channelOf? (s : State) (descriptor : Nat) : Option Channel :=
  (s.channel? descriptor).bind (fun id => s.channels.lookup id)

def State.setChannel (s : State) (id : Nat) (channel : Channel) : State :=
  { s with channels := (id, channel) :: s.channels.filter (·.1 ≠ id) }

def newChannel (channel : Channel) : Eval Nat := do
  let s ← get
  set { s with
    channels := (s.nextChannel, channel) :: s.channels
    nextChannel := s.nextChannel + 1 }
  pure s.nextChannel

/-- As many bytes as are written to a pipe before someone has to read them. -/
def pipeRoom : Nat := 1048576

/-- A pipe between two processes. -/
def newPipe : Eval Nat := newChannel (.pipe [] [] (some pipeRoom))

/-- An input with something in it. -/
def newInput (bytes : Bytes) : Eval Nat := newChannel (.pipe bytes [] none)

/-- Has a descriptor lead to a channel, or to none. -/
def Process.connect (p : Process) (descriptor : Nat) (channel : Option Nat) : Process :=
  let others := p.descriptors.filter (·.1 ≠ descriptor)
  { p with descriptors := match channel with
      | some id => (descriptor, id) :: others
      | none => others }

/-- Takes all that was written to a pipe and not read. -/
def drain (id : Nat) : Eval Bytes := do
  let s ← get
  match s.channels.lookup id with
  | some (.pipe front behind room) =>
    set (s.setChannel id (.pipe [] [] room))
    pure (front ++ behind.reverse.flatten)
  | _ => pure []

/-! ## Writing -/

/-- Whether a signal does nothing to the process. -/
def Process.ignores (p : Process) (signal : Nat) : Bool := p.traps.lookup signal = some []

/-- How many of so many bytes can be written at an offset. -/
def Process.roomInFile (p : Process) (node : Option Node) (offset count : Nat) : Nat :=
  match node, (p.limits.lookup 'f').bind (·.soft) with
  | some (.file _), some limit => min count (limit - offset)
  | _, _ => count

/-- Writes to a channel. Nobody reads from a full pipe any more. -/
def writeTo (id : Nat) (bytes : Bytes) : Eval (Except SystemError Unit) := do
  let s ← get
  match s.channels.lookup id with
  | some (.pipe front behind room) =>
    match room with
    | none => do
      set (s.setChannel id (.pipe front (bytes :: behind) none))
      pure (.ok ())
    | some room =>
      if bytes.length ≤ room then do
        set (s.setChannel id (.pipe front (bytes :: behind) (some (room - bytes.length))))
        pure (.ok ())
      else if s.self.ignores 13 then pure (.error brokenPipe)
      else throw (.signal 13)
  | some (.file file offset access) =>
    if !access.writes then pure (.error badDescriptor)
    else
      let node := s.machine.files.openNode? file
      let offset := if access.appends then (node.map Node.size).getD offset else offset
      let allowed := bytes.take (s.self.roomInFile node offset bytes.length)
      match s.machine.files.write file offset allowed s.machine.now with
      | .ok files => do
        let s := s.setChannel id (.file file (offset + allowed.length) access)
        set { s with machine := { s.machine with files := files.spread file.place } }
        if allowed.length = bytes.length then pure (.ok ())
        else if s.self.ignores 25 then pure (.error .fileTooLarge)
        else throw (.signal 25)
      | .error e => pure (.error e)
  | none => pure (.error badDescriptor)

/-- Writes to a descriptor. -/
def emit (descriptor : Nat) (bytes : Bytes) : Eval (Except SystemError Unit) := do
  match (← get).channel? descriptor with
  | some id => writeTo id bytes
  | none => pure (.error badDescriptor)

/-- Collects output that is written later. -/
def print (text : Text) : Eval Unit :=
  modifySelf (fun p => { p with unwritten := text.toBytes :: p.unwritten })

def printLine (text : Text) : Eval Unit := print (text ++ ['\n'])

/-- Writes the collected output. -/
def flush : Eval (Except SystemError Unit) := do
  let pieces := (← self).unwritten
  modifySelf (fun p => { p with unwritten := [] })
  let bytes := pieces.reverse.flatten
  if bytes.isEmpty then pure (.ok ()) else emit 1 bytes

/-! ## Reading -/

/-- Reads at most `count` bytes from a channel; none are left at its end. -/
def readFrom (id count : Nat) : Eval (Except SystemError Bytes) := do
  let s ← get
  match s.channels.lookup id with
  | some (.pipe front behind room) =>
    let (front, behind) := if front.isEmpty then (behind.reverse.flatten, []) else (front, behind)
    set (s.setChannel id (.pipe (front.drop count) behind room))
    pure (.ok (front.take count))
  | some (.file file offset access) =>
    if !access.reads then pure (.error badDescriptor)
    else
      match s.machine.files.read file offset count with
      | .ok bytes => do
        set (s.setChannel id (.file file (offset + bytes.length) access))
        pure (.ok bytes)
      | .error e => pure (.error e)
  | none => pure (.error badDescriptor)

/-- Bytes that are read at once. -/
def blockSize : Nat := 65536

/-- Reads a channel to its end, as far as the fuel goes. The pieces found come latest first. -/
def readRest (id : Nat) : (fuel : Nat) → (found : List Bytes) → Eval (Except SystemError Bytes)
  | 0, found => pure (.ok found.reverse.flatten)
  | fuel + 1, found => do
    match ← readFrom id blockSize with
    | .ok [] => pure (.ok found.reverse.flatten)
    | .ok bytes => readRest id fuel (bytes :: found)
    | .error e => pure (.error e)

/-- More blocks than are ever read from something with an end. -/
def maxBlocks : Nat := 1024

def readAll (id : Nat) : Eval (Except SystemError Bytes) := readRest id maxBlocks []

/-- Goes back or forward in a file; a pipe cannot. -/
def seekTo (id offset : Nat) : Eval Unit := do
  let s ← get
  match s.channels.lookup id with
  | some (.file file _ access) => set (s.setChannel id (.file file offset access))
  | _ => pure ()

/-! ## Opening -/

inductive Opening
  | read
  | write
  | append
  | both
  /-- Only if there is no such file. -/
  | fresh
  deriving DecidableEq

def Opening.access : Opening → Access
  | read => { reads := true }
  | write => { writes := true }
  | append => { writes := true, appends := true }
  | both => { reads := true, writes := true }
  | fresh => { writes := true }

/-- The descriptor of the process that a path names. -/
def descriptorPath? (path : Text) : Option Nat :=
  match String.ofList path with
  | "/dev/stdin" => some 0
  | "/dev/stdout" => some 1
  | "/dev/stderr" => some 2
  | text =>
    let number := ((afterBeginning? "/dev/fd/" text).orElse
      (fun _ => afterBeginning? "/proc/self/fd/" text)).bind String.toNat?
    number

/-- What the system tells of a process in a file. -/
def processFile? (s : State) (path : Text) : Option Text := do
  let rest ← afterBeginning? "/proc/" path.toString
  let name := rest.toList.takeWhile (· ≠ '/')
  let process ← if name = "self".toList then some s.self
    else (s.self :: s.ancestors).find? (fun p => toString p.number = String.ofList name)
  match String.ofList (rest.toList.drop (name.length + 1)) with
  | "comm" => some (process.file.take 15 ++ ['\n'])
  | "cmdline" => some (process.command.flatMap (· ++ ['\x00']))
  | _ => none

/-- A file that was just made has the mode that the process allows. -/
def applyMask (path : Path) : Eval Unit := do
  let s ← get
  match s.machine.files.findNode s.machine.directory path with
  | .ok (place, .file data) =>
    let mode := 0o666 &&& (0o777 ^^^ s.self.mask)
    set { s with machine := { s.machine with
      files := s.machine.files.put place (.file { data with mode }) } }
  | _ => pure ()

/-- Opens a file for a new channel. -/
def openFile (opening : Opening) (name : Text) : Eval (Except SystemError Nat) := do
  match descriptorPath? name with
  | some descriptor =>
    match (← get).channel? descriptor with
    | some id => pure (.ok id)
    | none => pure (.error .noEntry)
  | none =>
    if let some text := processFile? (← get) name then
      return .ok (← newInput text.toBytes)
    let path := pathOf name
    let m := (← get).machine
    let isNew := !m.files.exists? m.directory path
    let result ← match opening with
      | .read => act (.openRead path)
      | .write => act (.openWrite .emptied path)
      | .fresh => act (.openWrite .fresh path)
      | _ =>
        match m.files.openAny m.directory path m.now false with
        | .ok (files, file) =>
          modify (fun s => { s with machine := { m with files } })
          pure (.ok file)
        | .error e => pure (.error e)
    match result with
    | .error e => pure (.error e)
    | .ok file => do
      if isNew ∧ opening ≠ .read then applyMask path
      if opening = .write then
        modify (fun s => { s with
          machine := { s.machine with files := s.machine.files.spread file.place } })
      return .ok (← newChannel (.file file 0 opening.access))

/-- The whole content of a file, or of the standard input for `-`. -/
def contentOf (name : Text) : Eval (Except SystemError Bytes) := do
  if name = ['-'] then
    match (← get).channel? 0 with
    | some id => readAll id
    | none => pure (.error badDescriptor)
  else
    match ← openFile .read name with
    | .ok id => readAll id
    | .error e => pure (.error e)

/-! ## Messages -/

/-- Text for the standard error output. -/
def complain (text : String) : Eval Unit := do
  let _ ← emit 2 (Utf8.encode text)

/-- A message of the shell names the script, the line and the builtin. -/
def warn (text : String) : Eval Unit := do
  let p ← self
  let builtin := match p.builtin with
    | some name => name.toString ++ ": "
    | none => ""
  complain (p.name.toString ++ ": " ++ toString p.line ++ ": " ++ builtin ++ text ++ "\n")

/-- An error with a message. -/
def fail {α : Type} (text : String) (status : Nat := 2) : Eval α := do
  setStatus status
  warn text
  let _ ← flush
  throw .error

/-- The text of an error about a file, where `missing` tells that there is none. -/
def fileErrorText (missing : String) (e : SystemError) : String :=
  if e = .noEntry ∨ e = .notDirectory then missing else errorText e

end Slipway.Shell
