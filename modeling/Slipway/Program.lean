import Slipway.Release.Event
import Slipway.SystemError

/-!
# Programs

A program is a tree: it asks for one action, and goes on depending on the reply. The actions are
the single steps that a file system performs as a whole, so programs that run at the same time can
be interleaved between any two of them. What an action does is up to whoever performs it: a model
of a machine, or the operating system.
-/

namespace Slipway

/-! ## Actions -/

/-- An open file. The serial number tells it from later files at the same place. -/
structure Handle where
  place : List String
  serial : Nat
  deriving DecidableEq

/-- How a file is opened for writing. -/
inductive Creation
  /-- There must be nothing at the path. -/
  | fresh
  /-- A file at the path is emptied. -/
  | emptied
  deriving DecidableEq

inductive FileKind
  | regular
  | directory
  | device
  deriving DecidableEq

structure FileStatus where
  kind : FileKind
  size : Nat
  /-- Seconds since the epoch. -/
  modified : Int
  owner : Nat
  group : Nat

/-- The steps of working with files. -/
inductive FileAction
  | currentDirectory
  | canonicalize (path : Path)
  | pathExists (path : Path)
  | isRegularFile (path : Path)
  | isDirectory (path : Path)
  /-- Whether the path is a regular file that may be executed. -/
  | isExecutable (path : Path)
  | makeDirectory (path : Path)
  | openRead (path : Path)
  | openWrite (creation : Creation) (path : Path)
  /-- At most `count` bytes from `offset` on; none means the end. -/
  | read (file : Handle) (offset count : Nat)
  | write (file : Handle) (offset : Nat) (bytes : Bytes)
  | describeOpen (file : Handle)
  | describe (path : Path)
  | remove (path : Path)
  | rename (origin destination : Path)

abbrev FileAction.Reply : FileAction → Type
  | .currentDirectory => Except SystemError Path
  | .canonicalize _ => Except SystemError Path
  | .pathExists _ => Bool
  | .isRegularFile _ => Bool
  | .isDirectory _ => Bool
  | .isExecutable _ => Bool
  | .makeDirectory _ => Except SystemError Unit
  | .openRead _ => Except SystemError Handle
  | .openWrite _ _ => Except SystemError Handle
  | .read _ _ _ => Except SystemError Bytes
  | .write _ _ _ => Except SystemError Unit
  | .describeOpen _ => Except SystemError FileStatus
  | .describe _ => Except SystemError FileStatus
  | .remove _ => Except SystemError Unit
  | .rename _ _ => Except SystemError Unit

inductive Action
  | file (action : FileAction)
  /-- Runs a process to its end. -/
  | start (invocation : Invocation)
  | note (event : Event)
  /-- A line for the user. -/
  | print (line : String)
  /-- A line about a problem. -/
  | complain (line : String)
  /-- Nanoseconds on a clock that never goes back. -/
  | clock

/-- The type of the reply to an action. -/
abbrev Action.Reply : Action → Type
  | .file action => action.Reply
  | .start _ => Except SystemError ProcessOutput
  | .note _ => Unit
  | .print _ => Unit
  | .complain _ => Unit
  | .clock => Nat

/-! ## Programs -/

inductive Program (α : Type) where
  | done (a : α)
  | ask (action : Action) (next : action.Reply → Program α)

namespace Program

protected def bind {α β : Type} : Program α → (α → Program β) → Program β
  | done a, f => f a
  | ask action next, f => ask action (fun reply => (next reply).bind f)

instance : Monad Program where
  pure := done
  bind := Program.bind

/-- The program of one action. -/
def perform (action : Action) : Program action.Reply := ask action done

def file (action : FileAction) : Program action.Reply := perform (.file action)

/-- Runs a program with a given way to perform its actions. -/
def run {m : Type → Type} [Monad m] {α : Type} (act : (action : Action) → m action.Reply) :
    Program α → m α
  | done a => pure a
  | ask action next => act action >>= fun reply => (next reply).run act

end Program

/-! ## Stages -/

/-- A program that can fail with an `ε`. -/
abbrev Stage (ε α : Type) := ExceptT ε Program α

namespace Stage

/-- An action that can fail, as a stage that fails with it. -/
def attempt {α : Type} (p : Program (Except SystemError α)) : Stage SystemError α :=
  ExceptT.mk p

/-- The same stage with its error seen from outside. -/
def orElse {ε δ α : Type} (s : Stage ε α) (wrap : ε → δ) : Stage δ α :=
  ExceptT.mk (do
    match ← s.run with
    | .ok a => pure (.ok a)
    | .error e => pure (.error (wrap e)))

def ofExcept {ε α : Type} (r : Except ε α) : Stage ε α := ExceptT.mk (pure r)

def note {ε : Type} (event : Event) : Stage ε Unit :=
  ExceptT.lift (Program.perform (.note event))

end Stage

end Slipway
