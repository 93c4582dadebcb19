import Slipway.FileSystem.Basic

/-!
# Where a path leads

Walking a path from a directory, name by name, through `..` and through links. No more than forty
links are followed on one way.
-/

namespace Slipway

/-- A place that a path leads to, and what is there. -/
structure Spot where
  place : Location
  node : Option Node

def maxLinks : Nat := 40
def maxNameBytes : Nat := 255
def maxPathBytes : Nat := 4096

/-! ## The steps of a path -/

/-- The names of a path, `.` and `..` among them. -/
def stepsOf (path : Path) : List String :=
  ((Path.split path.text.toList).filter (· ≠ [])).map String.ofList

/-- The names of a path, and an empty one for a separator at the end, which asks for a directory. -/
def walkSteps (path : Path) : List String :=
  if path.endsInSeparator then stepsOf path ++ [""] else stepsOf path

namespace FileSystem

/-- Takes the steps one by one from the directory `here`. `onLink` goes on from a link's directory
with the link's target and the steps behind it. -/
def takeSteps (fs : FileSystem) (onLink : Location → Path → List String → Except SystemError Spot)
    (followLast : Bool) : (here : Location) → List String → Except SystemError Spot
  | here, [] => .ok ⟨here, fs.node? here⟩
  | here, name :: rest =>
    match fs.node? here with
    | none => .error .noEntry
    | some (.directory mode) =>
      if name = "" then takeSteps fs onLink followLast here rest
      else if !ownerExecutes mode then .error .noAccess
      else if name = "." then takeSteps fs onLink followLast here rest
      else if name = ".." then takeSteps fs onLink followLast here.dropLast rest
      else if maxNameBytes < name.utf8ByteSize then .error .nameTooLong
      else
        let next := here ++ [name]
        match fs.node? next with
        | none => if rest.isEmpty then .ok ⟨next, none⟩ else .error .noEntry
        | some (.link target) =>
          if rest.isEmpty && !followLast then .ok ⟨next, some (.link target)⟩
          else onLink here ⟨target⟩ rest
        | some _ => takeSteps fs onLink followLast next rest
    | some _ => .error .notDirectory

/-- Where a walk along `path` starts that is relative to `here`. -/
def startOf (here : Location) (path : Path) : Location :=
  if path.isAbsolute then [] else here

/-- Takes the steps and follows at most `links` links. -/
def walk (fs : FileSystem) (followLast : Bool) :
    (links : Nat) → (here : Location) → List String → Except SystemError Spot
  | 0 => takeSteps fs (fun _ _ _ => .error .tooManyLinks) followLast
  | links + 1 =>
    takeSteps fs
      (fun here target rest =>
        walk fs followLast links (startOf here target) (walkSteps target ++ rest))
      followLast

/-- A path that no walk is needed for to refuse it. -/
def refuse? (path : Path) : Option SystemError :=
  if path.text.toList.contains '\x00' then some .nulInPath
  else if path.text.isEmpty then some .noEntry
  else if maxPathBytes ≤ path.text.utf8ByteSize then some .nameTooLong
  else none

/-- What `path` leads to from the directory `here`. -/
def find (fs : FileSystem) (here : Location) (path : Path) (followLast : Bool := true) :
    Except SystemError Spot :=
  match refuse? path with
  | some e => .error e
  | none => fs.walk followLast maxLinks (startOf here path) (walkSteps path)

/-- The node that `path` leads to, and its place. -/
def findNode (fs : FileSystem) (here : Location) (path : Path) (followLast : Bool := true) :
    Except SystemError (Location × Node) :=
  match fs.find here path followLast with
  | .error e => .error e
  | .ok ⟨_, none⟩ => .error .noEntry
  | .ok ⟨place, some node⟩ => .ok (place, node)

/-! ## The resolved form of a path -/

def pathOf (place : Location) : Path :=
  ⟨"/" ++ String.intercalate "/" place⟩

/-- Whether the steps behind a name ask for a directory at that name before another name comes. -/
def askForDirectory : List String → Bool
  | [] => false
  | name :: rest =>
    name = "" || name = ".." || (name = "." && (rest.isEmpty || askForDirectory rest))

/-- Takes the steps one by one from the location `here`, none of whose names is a link. Each name
is looked at from the root on; `.` and `..` are not looked at. `onLink` goes on from a link's
directory. -/
def resolveSteps (fs : FileSystem)
    (onLink : Location → Path → List String → Except SystemError Location) :
    (here : Location) → List String → Except SystemError Location
  | here, [] => .ok here
  | here, name :: rest =>
    if name = "" ∨ name = "." then resolveSteps fs onLink here rest
    else if name = ".." then resolveSteps fs onLink here.dropLast rest
    else
      let next := here ++ [name]
      match fs.findNode [] (pathOf next) false with
      | .error e => .error e
      | .ok (_, .link target) => onLink here ⟨target⟩ rest
      | .ok (_, node) =>
        if askForDirectory rest && !node.isDirectory then .error .notDirectory
        else resolveSteps fs onLink next rest

/-- Takes the steps and replaces at most `links` links. -/
def resolve (fs : FileSystem) :
    (links : Nat) → (here : Location) → List String → Except SystemError Location
  | 0 => resolveSteps fs (fun _ _ _ => .error .tooManyLinks)
  | links + 1 =>
    resolveSteps fs (fun here target rest =>
      resolve fs links (startOf here target) (walkSteps target ++ rest))

/-- The absolute path without links, `.` and `..` that leads to the same place. The length of the
path does not matter, only that of what it is replaced by. -/
def canonicalize (fs : FileSystem) (here : Location) (path : Path) : Except SystemError Path :=
  if path.text.toList.contains '\x00' then .error .nulInPath
  else if path.text.isEmpty then .error .noEntry
  else if !path.isAbsolute ∧ here.contains "" then .error .noEntry
  else (fs.resolve maxLinks (startOf here path) (walkSteps path)).map pathOf

/-! ## The last name of a path -/

/-- A path taken apart for a change in the directory that its last name is in. -/
structure LastName where
  /-- The directory. -/
  parent : Location
  mode : Nat
  /-- The last name, or none when the path is the root or ends in `.` or `..`. -/
  name : Option String
  /-- Whether a separator follows the name. -/
  slash : Bool

/-- Walks to the directory of the last name; the last name itself need not exist. -/
def findLast (fs : FileSystem) (here : Location) (path : Path) : Except SystemError LastName :=
  match refuse? path with
  | some e => .error e
  | none =>
    let steps := stepsOf path
    let last := steps.getLast?.filter (fun name => name ≠ "." ∧ name ≠ "..")
    match fs.walk true maxLinks (startOf here path) (steps.dropLast ++ ["."]) with
    | .error e => .error e
    | .ok ⟨parent, some (.directory mode)⟩ => .ok ⟨parent, mode, last, path.endsInSeparator⟩
    | .ok ⟨_, some _⟩ => .error .notDirectory
    | .ok ⟨_, none⟩ => .error .noEntry

/-- What is at the last name; a link is not followed. -/
def LastName.lookup (fs : FileSystem) (l : LastName) (name : String) :
    Except SystemError (Option Node) :=
  if maxNameBytes < name.utf8ByteSize then .error .nameTooLong
  else if isGone l.parent then .error .noEntry
  else .ok (fs.node? (l.parent ++ [name]))

/-- Names may only be added to a directory or taken from it when it can be written. -/
def LastName.mayChange (l : LastName) : Bool := ownerWrites l.mode && ownerExecutes l.mode

end FileSystem

end Slipway
