import Slipway.FileSystem.Walk

/-!
# Operations on files

What the actions on files do. Each either changes the file system as a whole or fails and leaves it
as it was. Paths are relative to the directory `here`.
-/

namespace Slipway.FileSystem

/-! ## Asking -/

def exists? (fs : FileSystem) (here : Location) (path : Path) : Bool :=
  (fs.findNode here path).isOk

/-- Whether the node that the path leads to has a property. -/
def satisfies (fs : FileSystem) (here : Location) (path : Path) (p : Node → Bool) : Bool :=
  match fs.findNode here path with
  | .ok (_, node) => p node
  | .error _ => false

def isExecutableNode (node : Node) : Bool := node.isRegular && ownerExecutes node.mode

def kindOf : Node → FileKind
  | .directory _ => .directory
  | .device _ => .device
  | _ => .regular

/-- Everything belongs to the user with number 0, and what is no file has just been modified. -/
def statusOf (now : Int) (node : Node) : FileStatus where
  kind := kindOf node
  size := node.size
  modified := match node with
    | .file data => data.modified
    | _ => now
  owner := 0
  group := 0

def describe (fs : FileSystem) (here : Location) (path : Path) (now : Int) :
    Except SystemError FileStatus :=
  (fs.findNode here path).map (fun found => statusOf now found.2)

/-! ## Open files -/

def serialOf : Node → Nat
  | .file data => data.serial
  | _ => 0

/-- The node behind an open file, unless it was removed or replaced. -/
def openNode? (fs : FileSystem) (file : Handle) : Option Node :=
  (fs.node? file.place).filter (fun node => serialOf node = file.serial)

def openRead (fs : FileSystem) (here : Location) (path : Path) : Except SystemError Handle :=
  match fs.findNode here path with
  | .error e => .error e
  | .ok (place, node) =>
    if node = .device .terminal then .error .noDevice
    else if ownerReads node.mode then .ok ⟨place, serialOf node⟩ else .error .noAccess

/-- Opens what is at a place for writing, and empties a file. -/
def openExisting (fs : FileSystem) (place : Location) (node : Node) (now : Int)
    (emptied : Bool) : Except SystemError (FileSystem × Handle) :=
  match node with
  | .directory _ => .error .isDirectory
  | .file data =>
    if !ownerWrites data.mode then .error .noAccess
    else
      let content := if emptied then [] else data.content
      let modified := if emptied then now else data.modified
      .ok (fs.put place (.file { data with content, modified }), ⟨place, data.serial⟩)
  | .device .terminal => .error .noDevice
  | .device _ => .ok (fs, ⟨place, 0⟩)
  | .tool _ => .error .textBusy
  | .link _ => .error .tooManyLinks

/-- Creates a file where nothing is. The directory has to allow it. -/
def createAt (fs : FileSystem) (place : Location) (mode : Nat) (now : Int) :
    Except SystemError (FileSystem × Handle) :=
  match fs.node? place.dropLast with
  | some (.directory dirMode) =>
    if isGone place.dropLast then .error .noEntry
    else if ownerWrites dirMode then .ok (fs.createFile place mode now)
    else .error .noAccess
  | _ => .error .noEntry

/-- Opens a file for writing, following links, and creates it if there is none. -/
def openAny (fs : FileSystem) (here : Location) (path : Path) (now : Int) (emptied : Bool) :
    Except SystemError (FileSystem × Handle) :=
  if path.endsInSeparator then
    match fs.findLast here path with
    | .error e => .error e
    | .ok _ => .error .isDirectory
  else
    match fs.find here path with
    | .error e => .error e
    | .ok ⟨place, some node⟩ => fs.openExisting place node now emptied
    | .ok ⟨place, none⟩ => fs.createAt place newFileMode now

/-- Opens a file that must not exist yet; a link counts as existing, wherever it leads. -/
def openFresh (fs : FileSystem) (here : Location) (path : Path) (now : Int) :
    Except SystemError (FileSystem × Handle) :=
  match fs.findLast here path with
  | .error e => .error e
  | .ok last =>
    match last.name with
    | none => .error .alreadyThere
    | some name =>
      if last.slash then .error .isDirectory
      else
        match last.lookup fs name with
        | .error e => .error e
        | .ok (some _) => .error .alreadyThere
        | .ok none => fs.createAt (last.parent ++ [name]) newFileMode now

def openWrite (fs : FileSystem) (here : Location) (creation : Creation) (path : Path)
    (now : Int) : Except SystemError (FileSystem × Handle) :=
  match creation with
  | .fresh => fs.openFresh here path now
  | .emptied => fs.openAny here path now true

/-- A byte that is as good as any other. -/
def noiseAt (i : Nat) : UInt8 :=
  let n := (i + 12345) * 2654435761 % 4294967296
  UInt8.ofNat ((n * (n / 65536 + i) / 4096) % 256)

def read (fs : FileSystem) (file : Handle) (offset count : Nat) : Except SystemError Bytes :=
  match fs.openNode? file with
  | some (.file data) => .ok ((data.content.drop offset).take count)
  | some (.directory _) => .error .isDirectory
  | some (.device .null) => .ok []
  | some (.device .random) => .ok ((List.range count).map (fun i => noiseAt (offset + i)))
  | some (.device _) => .ok (List.replicate count 0)
  | _ => .ok []

def write (fs : FileSystem) (file : Handle) (offset : Nat) (bytes : Bytes) (now : Int) :
    Except SystemError FileSystem :=
  match fs.openNode? file with
  | some (.device .full) => if bytes.isEmpty then .ok fs else .error .noSpace
  | some (.file _) =>
    .ok (fs.updateOpen file (fun data =>
      { data with content := overwriteAt data.content offset bytes, modified := now }))
  | _ => .ok fs

def describeOpen (fs : FileSystem) (file : Handle) (now : Int) : Except SystemError FileStatus :=
  match fs.openNode? file with
  | some node => .ok (statusOf now node)
  | none => .ok { kind := .regular, size := 0, modified := 0, owner := 0, group := 0 }

/-- Gives a file that has several names the data that it has under one of them. -/
def spread (fs : FileSystem) (place : Location) : FileSystem :=
  match fs.node? place with
  | some (.file data) =>
    let agree (node : Node) : Node :=
      if 0 < data.serial ∧ serialOf node = data.serial then .file data else node
    { fs with entries := fs.entries.map (fun entry => (entry.1, agree entry.2)) }
  | _ => fs

/-! ## Changing directories -/

def makeDirectory (fs : FileSystem) (here : Location) (path : Path) :
    Except SystemError FileSystem :=
  match fs.findLast here path with
  | .error e => .error e
  | .ok last =>
    match last.name with
    | none => .error .alreadyThere
    | some name =>
      match last.lookup fs name with
      | .error e => .error e
      | .ok (some _) => .error .alreadyThere
      | .ok none =>
        if !last.mayChange then .error .noAccess
        else .ok (fs.put (last.parent ++ [name]) (.directory newDirectoryMode))

/-- Removes a file or a link, but no directory. -/
def remove (fs : FileSystem) (here : Location) (path : Path) : Except SystemError FileSystem :=
  match fs.findLast here path with
  | .error e => .error e
  | .ok last =>
    match last.name with
    | none => .error .isDirectory
    | some name =>
      match last.lookup fs name with
      | .error e => .error e
      | .ok none => .error .noEntry
      | .ok (some node) =>
        if last.slash then .error (if node.isDirectory then .isDirectory else .notDirectory)
        else if !last.mayChange then .error .noAccess
        else if node.isDirectory then .error .isDirectory
        else .ok (fs.erase (last.parent ++ [name]))

def removeDirectory (fs : FileSystem) (here : Location) (path : Path) :
    Except SystemError FileSystem :=
  match fs.findLast here path with
  | .error e => .error e
  | .ok last =>
    match last.name with
    | none => .error (if (stepsOf path).getLast? = some "." then .invalidArgument else .notEmpty)
    | some name =>
      match last.lookup fs name with
      | .error e => .error e
      | .ok none => .error .noEntry
      | .ok (some node) =>
        let place := last.parent ++ [name]
        if !last.mayChange then .error .noAccess
        else if !node.isDirectory then .error .notDirectory
        else if !(fs.children place).isEmpty then .error .notEmpty
        else .ok (fs.erase place)

/-- Makes a symbolic link; its target is not looked at. -/
def makeLink (fs : FileSystem) (here : Location) (target : String) (path : Path) :
    Except SystemError FileSystem :=
  match fs.findLast here path with
  | .error e => .error e
  | .ok last =>
    match last.name with
    | none => .error .alreadyThere
    | some name =>
      match last.lookup fs name with
      | .error e => .error e
      | .ok (some _) => .error .alreadyThere
      | .ok none =>
        if target.isEmpty ∨ last.slash then .error .noEntry
        else if !last.mayChange then .error .noAccess
        else .ok (fs.put (last.parent ++ [name]) (.link target))

/-! ## Renaming -/

/-- The checks on two nodes of which one is to take the place of the other. -/
def mayReplace (fs : FileSystem) (node : Node) (target : Location) (replaced : Node) :
    Option SystemError :=
  if node.isDirectory then
    if !replaced.isDirectory then some .notDirectory
    else if !(fs.children target).isEmpty then some .notEmpty
    else none
  else if replaced.isDirectory then some .isDirectory
  else none

/-- Moves a node to a new name. What is at the new name is replaced if it may be. -/
def renameNode (fs : FileSystem) (origin destination : LastName) (name newName : String)
    (node : Node) (replaced : Option Node) : Except SystemError FileSystem :=
  let source := origin.parent ++ [name]
  let target := destination.parent ++ [newName]
  if !node.isDirectory && (origin.slash || destination.slash) then .error .notDirectory
  else if node.isDirectory && source.isPrefixOf destination.parent then .error .invalidArgument
  else if target.isPrefixOf origin.parent then .error .notEmpty
  else if source = target then .ok fs
  else if !origin.mayChange || !destination.mayChange then .error .noAccess
  else
    match replaced.bind (fs.mayReplace node target) with
    | some e => .error e
    | none => .ok (fs.moveTree source target)

/-- The old and the new location of a renamed node, when the rename is possible. -/
def renameWith (fs : FileSystem) (here : Location) (origin destination : Path) :
    Except SystemError (FileSystem × Location × Location) :=
  match fs.findLast here origin with
  | .error e => .error e
  | .ok old =>
    match fs.findLast here destination with
    | .error e => .error e
    | .ok new =>
      match old.name, new.name with
      | some name, some newName =>
        match old.lookup fs name with
        | .error e => .error e
        | .ok none => .error .noEntry
        | .ok (some node) =>
          match new.lookup fs newName with
          | .error e => .error e
          | .ok replaced =>
            (fs.renameNode old new name newName node replaced).map
              (fun after => (after, old.parent ++ [name], new.parent ++ [newName]))
      | _, _ => .error .busy

end Slipway.FileSystem
