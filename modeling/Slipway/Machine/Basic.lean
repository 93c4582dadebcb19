import Slipway.FileSystem.Access

/-!
# A machine

Files, a current directory and a clock, and how the steps of working with files act on them.
-/

namespace Slipway

structure Machine where
  files : FileSystem := {}
  /-- The current directory. -/
  directory : Location := []
  /-- The current directories of the processes that wait for the running one, the latest first. -/
  waiting : List Location := []
  /-- Seconds since the epoch. -/
  now : Int := 0

namespace Machine

/-- Says where the directories are that processes are in. -/
def relocate (m : Machine) (f : Location → Location) : Machine :=
  { m with directory := f m.directory, waiting := m.waiting.map f }

/-- After everything from `place` on is gone. -/
def forget (m : Machine) (place : Location) : Machine :=
  m.relocate (FileSystem.orphaned place)

/-- A process begins, in the directory of the one that starts it. -/
def enter (m : Machine) : Machine := { m with waiting := m.directory :: m.waiting }

/-- The process that began last ends, and the one that started it goes on. -/
def leave (m : Machine) : Machine :=
  { m with directory := m.waiting.headD m.directory, waiting := m.waiting.drop 1 }

/-- A change of the files that can fail, as a reply. -/
def change (m : Machine) (r : Except SystemError FileSystem) : Except SystemError Unit × Machine :=
  match r with
  | .ok files => (.ok (), { m with files })
  | .error e => (.error e, m)

/-- An open that can change the files, as a reply. -/
def opened (m : Machine) (r : Except SystemError (FileSystem × Handle)) :
    Except SystemError Handle × Machine :=
  match r with
  | .ok (files, file) => (.ok file, { m with files })
  | .error e => (.error e, m)

/-- A rename takes along those that are in what was moved, and leaves behind those that were in
what was replaced. -/
def renamed (m : Machine) (r : Except SystemError (FileSystem × Location × Location)) :
    Except SystemError Unit × Machine :=
  match r with
  | .ok (files, origin, destination) =>
    if origin = destination then (.ok (), m)
    else
      (.ok (), { (m.forget destination).relocate (FileSystem.rebase origin destination) with files })
  | .error e => (.error e, m)

def currentDirectory (m : Machine) : Except SystemError Path :=
  if m.directory.contains "" then .error .noEntry else .ok (FileSystem.pathOf m.directory)

/-- What a step of working with files does. -/
def reply (m : Machine) : (action : FileAction) → action.Reply × Machine
  | .currentDirectory => (m.currentDirectory, m)
  | .canonicalize path => (m.files.canonicalize m.directory path, m)
  | .pathExists path => (m.files.exists? m.directory path, m)
  | .isRegularFile path => (m.files.satisfies m.directory path Node.isRegular, m)
  | .isDirectory path => (m.files.satisfies m.directory path Node.isDirectory, m)
  | .isExecutable path => (m.files.satisfies m.directory path FileSystem.isExecutableNode, m)
  | .makeDirectory path => m.change (m.files.makeDirectory m.directory path)
  | .openRead path => (m.files.openRead m.directory path, m)
  | .openWrite creation path => m.opened (m.files.openWrite m.directory creation path m.now)
  | .read file offset count => (m.files.read file offset count, m)
  | .write file offset bytes => m.change (m.files.write file offset bytes m.now)
  | .describeOpen file => (m.files.describeOpen file m.now, m)
  | .describe path => (m.files.describe m.directory path m.now, m)
  | .remove path => m.change (m.files.remove m.directory path)
  | .rename origin destination => m.renamed (m.files.renameWith m.directory origin destination)

end Machine

end Slipway
