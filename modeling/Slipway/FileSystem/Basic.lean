import Slipway.Program

/-!
# File systems

A file system has a node at each location in use. A location is a list of names from the root on;
the root itself is always a directory. No name is empty: an empty one stands for a directory that
was removed. Whoever is in it can still see that it is a directory, and leave it upwards.
-/

namespace Slipway

abbrev Location := List String

inductive Device
  | null
  | zero
  | full
  | random
  /-- The terminal of a process that has none. -/
  | terminal
  deriving DecidableEq

structure FileData where
  /-- No two files ever have the same number. -/
  serial : Nat
  content : Bytes
  mode : Nat
  modified : Int
  deriving DecidableEq

inductive Node
  | directory (mode : Nat)
  | file (data : FileData)
  | link (target : String)
  | device (device : Device)
  /-- A program of the system; what is in it does not matter. -/
  | tool (name : String)
  deriving DecidableEq

structure FileSystem where
  entries : List (Location × Node) := []
  nextSerial : Nat := 1

/-! ## Modes -/

def ownerReads (mode : Nat) : Bool := mode / 0o400 % 2 = 1
def ownerWrites (mode : Nat) : Bool := mode / 0o200 % 2 = 1
def ownerExecutes (mode : Nat) : Bool := mode / 0o100 % 2 = 1

def newFileMode : Nat := 0o644
def newDirectoryMode : Nat := 0o755

namespace Node

def isDirectory : Node → Bool
  | directory _ => true
  | _ => false

/-- Whether the node is a file, seen without following a link. -/
def isRegular : Node → Bool
  | file _ => true
  | tool _ => true
  | _ => false

def mode : Node → Nat
  | directory mode => mode
  | file data => data.mode
  | link _ => 0o777
  | device _ => 0o666
  | tool _ => 0o755

def size : Node → Nat
  | file data => data.content.length
  | directory _ => 4096
  | link target => target.utf8ByteSize
  | _ => 0

end Node

namespace FileSystem

/-! ## Looking up -/

/-- Whether a location is that of a directory that was removed. -/
def isGone (place : Location) : Bool := place.getLast? = some ""

def node? (fs : FileSystem) (place : Location) : Option Node :=
  if place = [] ∨ isGone place then some (.directory newDirectoryMode) else fs.entries.lookup place

/-- The locations directly below a directory, with their nodes. -/
def children (fs : FileSystem) (place : Location) : List (Location × Node) :=
  fs.entries.filter (fun entry => entry.1 ≠ [] ∧ entry.1.dropLast = place)

/-- The locations below a directory, at any depth. -/
def descendants (fs : FileSystem) (place : Location) : List (Location × Node) :=
  fs.entries.filter (fun entry => place.isPrefixOf entry.1 ∧ entry.1 ≠ place)

/-! ## Changing -/

def put (fs : FileSystem) (place : Location) (node : Node) : FileSystem :=
  { fs with entries := (place, node) :: fs.entries.filter (fun entry => entry.1 ≠ place) }

def erase (fs : FileSystem) (place : Location) : FileSystem :=
  { fs with entries := fs.entries.filter (fun entry => entry.1 ≠ place) }

def eraseTree (fs : FileSystem) (place : Location) : FileSystem :=
  { fs with entries := fs.entries.filter (fun entry => !place.isPrefixOf entry.1) }

/-- A location below `origin`, carried over to `destination`. -/
def rebase (origin destination place : Location) : Location :=
  match origin.isPrefixOf? place with
  | some rest => destination ++ rest
  | none => place

/-- The location that `place` becomes when everything from `removed` on is removed. -/
def orphaned (removed place : Location) : Location :=
  match removed.isPrefixOf? place with
  | some rest => removed.dropLast ++ List.replicate (rest.length + 1) ""
  | none => place

/-- Moves a node with all that is below it. What was at the destination is gone. -/
def moveTree (fs : FileSystem) (origin destination : Location) : FileSystem :=
  let kept := fs.entries.filter (fun entry => !destination.isPrefixOf entry.1)
  { fs with entries := kept.map (fun entry => (rebase origin destination entry.1, entry.2)) }

/-- A new empty file. -/
def createFile (fs : FileSystem) (place : Location) (mode : Nat) (now : Int) :
    FileSystem × Handle :=
  let data : FileData := { serial := fs.nextSerial, content := [], mode, modified := now }
  ({ fs.put place (.file data) with nextSerial := fs.nextSerial + 1 }, ⟨place, fs.nextSerial⟩)

/-- Changes an open file, unless it was removed or replaced since it was opened. -/
def updateOpen (fs : FileSystem) (file : Handle) (f : FileData → FileData) : FileSystem :=
  match fs.node? file.place with
  | some (.file data) => if data.serial = file.serial then fs.put file.place (.file (f data)) else fs
  | _ => fs

/-- `bytes` laid over `content` from `offset` on, with zeros in a gap before them. -/
def overwriteAt (content : Bytes) (offset : Nat) (bytes : Bytes) : Bytes :=
  let before := content.take offset
  before ++ List.replicate (offset - before.length) 0 ++ bytes
    ++ content.drop (offset + bytes.length)

end FileSystem

end Slipway
