import Slipway.Console.Command

/-!
# The executable

Performs the actions of a command on the files and streams of the operating system. It starts no
programs: a start is answered with the system's error for what it does not support, so a release
ends where its build would begin.
-/

namespace Slipway

/-! ## Errors -/

def notSupported : SystemError := .numbered 95

/-- The system's number for an error, where it has one. -/
def errorNumber? : IO.Error → Option UInt32
  | .noFileOrDirectory _ number _ => some number
  | .permissionDenied _ number _ => some number
  | .alreadyExists _ number _ => some number
  | .inappropriateType _ number _ => some number
  | .invalidArgument _ number _ => some number
  | .resourceBusy number _ => some number
  | .resourceExhausted _ number _ => some number
  | .unsatisfiedConstraints number _ => some number
  | .otherError number _ => some number
  | _ => none

def SystemError.ofIO (e : IO.Error) : SystemError :=
  match errorNumber? e with
  | some number => .numbered (number.toNat : Int)
  | none => .described .other (toString e)

/-- The result of an action of the system, or its error. -/
def tried {α : Type} (action : IO α) : IO (Except SystemError α) := do
  match ← action.toBaseIO with
  | .ok a => pure (.ok a)
  | .error e => pure (.error (.ofIO e))

/-! ## Files -/

def succeeds {α : Type} (action : IO α) : IO Bool := do
  pure (← tried action).isOk

def pathThere (path : Path) : IO Bool := succeeds (IO.FS.realPath path.text)

/-- Only a directory has a `.` in it. -/
def directoryThere (path : Path) : IO Bool := succeeds (IO.FS.realPath (path.text ++ "/."))

def regularFileThere (path : Path) : IO Bool := do
  pure ((← pathThere path) && !(← directoryThere path))

/-- The path that an open file was opened by. -/
def Handle.path (file : Handle) : Path := ⟨String.join file.place⟩

def openAs (path : Path) (mode : IO.FS.Mode) : IO Handle := do
  let _ ← IO.FS.Handle.mk path.text mode
  pure ⟨[path.text], 0⟩

def readPart (file : Handle) (offset count : Nat) : IO Bytes := do
  let content ← IO.FS.readBinFile file.path.text
  pure (content.extract offset (offset + count)).toList

/-- Appends, since files are only written from their beginning to their end. -/
def writePart (file : Handle) (bytes : Bytes) : IO Unit := do
  let opened ← IO.FS.Handle.mk file.path.text .append
  opened.write bytes.toByteArray

/-- What is known of a file. Its time and its owner are not, and stand as zero. -/
def statusOf (path : Path) : IO FileStatus := do
  if ← directoryThere path then
    pure { kind := .directory, size := 0, modified := 0, owner := 0, group := 0 }
  else
    let content ← IO.FS.readBinFile path.text
    pure { kind := .regular, size := content.size, modified := 0, owner := 0, group := 0 }

def performFile : (action : FileAction) → IO action.Reply
  | .currentDirectory => tried (do pure ⟨(← IO.currentDir).toString⟩)
  | .canonicalize path => tried (do pure ⟨(← IO.FS.realPath path.text).toString⟩)
  | .pathExists path => pathThere path
  | .isRegularFile path => regularFileThere path
  | .isDirectory path => directoryThere path
  | .isExecutable path => regularFileThere path
  | .makeDirectory path => tried (IO.FS.createDir path.text)
  | .openRead path => tried (openAs path .read)
  | .openWrite .fresh path => tried (openAs path .writeNew)
  | .openWrite .emptied path => tried (openAs path .write)
  | .read file offset count => tried (readPart file offset count)
  | .write file _ bytes => tried (writePart file bytes)
  | .describeOpen file => tried (statusOf file.path)
  | .describe path => tried (statusOf path)
  | .remove path => tried (IO.FS.removeFile path.text)
  | .rename origin destination => tried (IO.FS.rename origin.text destination.text)

/-! ## The run -/

def performAction : (action : Action) → IO action.Reply
  | .file action => performFile action
  | .start _ => pure (.error notSupported)
  | .note event => IO.eprintln event.line
  | .print line => IO.println line
  | .complain line => IO.eprintln line
  | .clock => IO.monoNanosNow

/-- The variables that a run can depend on. -/
def variableNames : List String :=
  [rootVariable, toolchainVariable, "PATH", "HOME", "RUST_LOG"] ++ Environment.colourVariables

def currentEnvironment : IO Environment :=
  variableNames.filterMapM (fun name => do
    pure ((← IO.getEnv name).map (fun value => (name, value))))

end Slipway

def main (arguments : List String) : IO UInt32 := do
  let env ← Slipway.currentEnvironment
  let status ← (Slipway.command env (Slipway.Host.ofTarget "linux") arguments).run
    Slipway.performAction
  pure status.code.toUInt32
