import Slipway.Shell.Builtin.Directories
import Slipway.Tool.Lines

/-!
# Programs about names of files

Taking paths apart, and finding out where they lead.
-/

namespace Slipway.Tool

open Shell

/-! ## Taking paths apart -/

/-- A path without the separators at its end. -/
def dropSlashes (path : Text) : Text :=
  let kept := (path.reverse.dropWhile (· = '/')).reverse
  if kept.isEmpty ∧ !path.isEmpty then ['/'] else kept

/-- The last name of a path; that of the root is a separator. -/
def lastName (path : Text) : Text :=
  let path := dropSlashes path
  if path = ['/'] then path else (path.reverse.takeWhile (· ≠ '/')).reverse

/-- The path of the directory that the last name is in. -/
def directoryName (path : Text) : Text :=
  let path := dropSlashes path
  if path = ['/'] then path
  else
    let before := path.take (path.length - (lastName path).length)
    if before.isEmpty then ['.'] else dropSlashes before

def joinName (directory name : Text) : Text :=
  if directory.isEmpty ∨ directory.getLast? = some '/' then directory ++ name
  else directory ++ '/' :: name

/-- The end of an output item. -/
def ending (a : Arguments) : Text := if a.has "zero" then ['\x00'] else ['\n']

def basename (args : List Text) : Eval Nat :=
  withArguments [flag 'a' "multiple", setting 's' "suffix", flag 'z' "zero"] args (fun a => do
    let strip (suffix name : Text) : Text :=
      if suffix.length < name.length ∧ name.drop (name.length - suffix.length) = suffix then
        name.take (name.length - suffix.length)
      else name
    let tell (suffix path : Text) : Eval Unit := print (strip suffix (lastName path) ++ ending a)
    if a.has "multiple" ∨ a.has "suffix" then
      if a.operands.isEmpty then missingOperand
      else
        a.operands.forM (tell ((a.value? "suffix").getD []))
        pure 0
    else
      match a.operands with
      | [] => missingOperand
      | [path] => do
        tell [] path
        pure 0
      | [path, suffix] => do
        tell suffix path
        pure 0
      | _ :: _ :: extra :: _ => extraOperand extra) false

def dirname (args : List Text) : Eval Nat :=
  withArguments [flag 'z' "zero"] args fun a => do
    if a.operands.isEmpty then missingOperand
    else
      a.operands.forM (fun path => print (directoryName path ++ ending a))
      pure 0

/-! ## Where paths lead -/

def pwd (args : List Text) : Eval Nat :=
  withArguments [flag 'L' "logical", flag 'P' "physical"] args fun a => do
    let s ← get
    let known := (s.self.getText? "PWD").filter fun path =>
      path.head? = some '/' && !(path.splitOn '/').any (fun n => n = ['.'] ∨ n = ['.', '.'])
        && (match s.machine.files.findNode s.machine.directory (pathOf path) with
          | .ok (place, _) => place = s.machine.directory
          | .error _ => false)
    match if a.lastOf ["logical", "physical"] = some "logical" then known else none with
    | some path => do
      printLine path
      pure 0
    | none =>
      match s.machine.currentDirectory with
      | .ok path => do
        printLine (Text.ofString path.text)
        pure 0
      | .error e => do
        say ("couldn't find directory entry in '..' with matching i-node" ++
          (if e = .noEntry then "" else ": " ++ errorText e))
        pure 1

/-- How much of a path has to be there. -/
inductive Presence
  | all
  | allButLast
  | nothing
  deriving DecidableEq

/-- The absolute path without links that a path leads to. Where names may be missing, they are
taken as they are. -/
def realPath? (m : Machine) (presence : Presence) (path : Text) : Except SystemError Text :=
  let full := fun (path : Text) =>
    (m.files.canonicalize m.directory (pathOf path)).map (fun p => Text.ofString p.text)
  if path.isEmpty then .error .noEntry
  else
    match full path with
    | .ok found => .ok found
    | .error e =>
      match presence with
      | .all => .error e
      | .allButLast =>
        match m.files.find m.directory (pathOf (dropSlashes path)) with
        | .error e => .error e
        | .ok spot =>
          match spot.node with
          | none => .ok (Text.ofString (FileSystem.pathOf spot.place).text)
          | some _ => .error e
      | .nothing => .ok (climb full (path.length + 1) path [])
where
  /-- Puts the names that are missing behind the part of a path that is there. -/
  climb (full : Text → Except SystemError Text) : (fuel : Nat) → Text → List Text → Text
    | 0, path, _ => path
    | fuel + 1, path, missing =>
      match full path with
      | .ok found => missing.foldl addName found
      | .error _ =>
        let parent := directoryName path
        if parent = path then missing.foldl addName path
        else climb full fuel parent (lastName path :: missing)
  addName (path name : Text) : Text :=
    if name = ['.'] then path
    else if name = ['.', '.'] then directoryName path
    else joinName path name

def pathFlags : List Flag := [
  flag 'f' "canonicalize", flag 'e' "canonicalize-existing", flag 'm' "canonicalize-missing",
  flag 'n' "no-newline", flag 'q' "quiet", flag 's' "silent", flag 'v' "verbose", flag 'z' "zero"]

def presenceOf (a : Arguments) (usual : Presence) : Presence :=
  match a.lastOf ["canonicalize", "canonicalize-existing", "canonicalize-missing"] with
  | some "canonicalize" => .allButLast
  | some "canonicalize-existing" => .all
  | some _ => .nothing
  | none => usual

def readlink (args : List Text) : Eval Nat :=
  withArguments pathFlags args fun a => do
    let resolves := a.options.any (fun o => startsWith o.1 "canonicalize")
    if a.operands.isEmpty then missingOperand
    else
      let isLast := a.has "no-newline" ∧ a.operands.length = 1
      forEach a.operands fun path => do
        let m := (← get).machine
        let found : Except SystemError Text :=
          if resolves then realPath? m (presenceOf a .all) path
          else
            match m.files.findNode m.directory (pathOf path) false with
            | .ok (_, .link target) => .ok (Text.ofString target)
            | .ok _ => .error .invalidArgument
            | .error e => .error e
        match found with
        | .ok target => do
          print (target ++ if isLast then [] else ending a)
          pure true
        | .error e =>
          if a.has "verbose" then blame (shown path ++ ": " ++ errorText e) else pure false

/-- The way from one directory to another, both without links. -/
def wayBetween (origin destination : List Text) : Text :=
  match origin, destination with
  | x :: xs, y :: ys =>
    if x = y then wayBetween xs ys
    else List.intercalate ['/'] ((x :: xs).map (fun _ => ['.', '.']) ++ y :: ys)
  | xs, ys =>
    let names := xs.map (fun _ => ['.', '.']) ++ ys
    if names.isEmpty then ['.'] else List.intercalate ['/'] names

/-- The names of an absolute path. -/
def namesOf (path : Text) : List Text := (path.splitOn '/').filter (!·.isEmpty)

def realpath (args : List Text) : Eval Nat :=
  withArguments (pathFlags.filter (fun f => f.word ≠ "silent" ∧ f.word ≠ "canonicalize") ++ [
      flag 's' "no-symlinks", flag 'L' "logical", flag 'P' "physical",
      longFlag "relative-to" .value, longFlag "relative-base" .value]) args fun a => do
    if a.operands.isEmpty then missingOperand
    else
      let m := (← get).machine
      let presence := presenceOf a .allButLast
      let base := (a.value? "relative-to").bind fun base => (realPath? m presence base).toOption
      forEach a.operands fun path => do
        match realPath? m presence path with
        | .ok found => do
          let shownPath := match base with
            | some base => wayBetween (namesOf base) (namesOf found)
            | none => found
          print (shownPath ++ ending a)
          pure true
        | .error e =>
          if a.has "quiet" then pure false else blame (shown path ++ ": " ++ errorText e)

end Slipway.Tool
