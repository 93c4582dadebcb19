import Slipway.Machine.World
import Slipway.Release.Files

/-!
# Edits

Changes that someone else makes to a machine: writing files with all that is above them, moving
and removing things, going elsewhere. An edit that cannot be made has no result.
-/

namespace Slipway

inductive Edit
  /-- Writes a file, with its mode if one is given, and its time. -/
  | write (path : Path) (content : Bytes) (mode : Option Nat) (modified : Int)
  | directory (path : Path)
  | link (path : Path) (target : String)
  | rename (origin destination : Path)
  /-- Removes a file, a link or a whole directory; there may be none. -/
  | remove (path : Path)
  | enter (path : Path)

namespace Machine

/-- Runs a program that starts no process. -/
def runQuiet {α : Type} (m : Machine) (p : Program α) : α × Machine :=
  let refuse : Runner Unit := fun _ m s => (.error (.plain .other), m, s)
  let (a, w) := World.run refuse { machine := m, runner := () } p
  (a, w.machine)

/-- Runs a stage that starts no process and has to succeed. -/
def runQuiet? {α : Type} (m : Machine) (s : Stage SystemError α) : Option Machine :=
  match m.runQuiet s.run with
  | (.ok _, m) => some m
  | (.error _, _) => none

def makeAbove? (m : Machine) (path : Path) : Option Machine :=
  match path.parent? with
  | some dir => m.runQuiet? (makeDirectories dir)
  | none => some m

/-- Sets the time of a file, which has to be open for writing. -/
def setModified? (m : Machine) (path : Path) (modified : Int) : Option Machine :=
  match m.files.openAny m.directory path m.now false with
  | .error _ => none
  | .ok (files, file) =>
    some { m with files := files.updateOpen file (fun data => { data with modified }) }

def setMode? (m : Machine) (path : Path) (mode : Nat) : Option Machine :=
  match m.files.findNode m.directory path with
  | .ok (place, .file data) =>
    some { m with files := m.files.put place (.file { data with mode }) }
  | .ok (place, .directory _) => some { m with files := m.files.put place (.directory mode) }
  | .ok _ => some m
  | .error _ => none

def writeFile? (m : Machine) (path : Path) (content : Bytes) : Option Machine :=
  m.runQuiet? (do
    let file ← Stage.attempt (Program.file (.openWrite .emptied path))
    writeAll file content)

/-- Removes what the path names, a directory with all that is below it. -/
def removeTree (m : Machine) (path : Path) : Machine :=
  match m.files.findNode m.directory path false with
  | .ok (place, node) =>
    if node.isDirectory then forget { m with files := m.files.eraseTree place } place
    else { m with files := m.files.erase place }
  | .error _ => m

def enter? (m : Machine) (path : Path) : Option Machine :=
  match m.files.findNode m.directory path with
  | .ok (place, .directory mode) =>
    if ownerExecutes mode then some { m with directory := place } else none
  | _ => none

end Machine

def Edit.apply? (m : Machine) : Edit → Option Machine
  | write path content mode modified => do
    let m ← m.makeAbove? path
    let m ← m.writeFile? path content
    let m ← match mode with
      | some mode => m.setMode? path mode
      | none => some m
    m.setModified? path modified
  | directory path => m.runQuiet? (makeDirectories path)
  | link path target => do
    let m ← m.makeAbove? path
    match m.files.makeLink m.directory target path with
    | .ok files => some { m with files }
    | .error _ => none
  | rename origin destination =>
    m.runQuiet? (Stage.attempt (Program.file (.rename origin destination)))
  | remove path => some (m.removeTree path)
  | enter path => m.enter? path

/-- The edits one after the other, as long as they can be made. -/
def Machine.edit? (m : Machine) (edits : List Edit) : Option Machine :=
  edits.foldlM Edit.apply? m

end Slipway
