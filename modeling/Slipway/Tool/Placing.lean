import Slipway.Tool.Moving

/-!
# Programs that put files in place

Copies with a mode of their own in directories that are made for them, names for files, and owners.
-/

namespace Slipway.Tool

open Shell

/-! ## install -/

def installFlags : List Flag := [
  flag 'b', longFlag "backup" .optional, flag 'c', flag 'C' "compare", flag 'd' "directory", flag 'D',
  setting 'g' "group", setting 'm' "mode", setting 'o' "owner", flag 'p' "preserve-timestamps",
  flag 's' "strip", longFlag "strip-program" .value, setting 'S' "suffix",
  setting 't' "target-directory", flag 'T' "no-target-directory", flag 'v' "verbose",
  flag 'Z' "context"]

/-- Tells that a directory was made. -/
def tellDirectory (a : Arguments) (path : Text) : Eval Unit := do
  if a.has "verbose" then
    let name := (← self).name.toString
    printLine (Text.ofString (name ++ ": creating directory " ++ quoted path))

/-- Makes a directory with all that are above it; only the last one gets the mode. -/
def installDirectory (a : Arguments) (mode : Nat) (path : Text) : Eval Bool := do
  match ← nodeAt? path true with
  | .ok (.directory _) => do
    setMode path mode
    pure true
  | _ => makeWay path (some mode) (tellDirectory a)

/-- Puts a copy of a file in place, with a mode. -/
def installFile (a : Arguments) (mode : Nat) (source target : Text) : Eval Bool := do
  match ← nodeAt? source true with
  | .error e => blame ("cannot stat " ++ quoted source ++ ": " ++ errorText e)
  | .ok (.directory _) => blame ("omitting directory " ++ quoted source)
  | .ok node => do
    let old := (← nodeAt? target).toOption
    if (← leadsToDirectory target) then
      return ← blame ("cannot overwrite directory " ++ quoted target ++ " with non-directory")
    if ← isSameFile source target then
      return ← blame (quoted source ++ " and " ++ quoted target ++ " are the same file")
    let backup := a.has "b" || a.has "backup"
    if old.isSome then
      let kept := target ++ (a.value? "suffix").getD ['~']
      if backup then
        let _ ← act (.rename (pathOf target) (pathOf kept))
      else
        let _ ← act (.remove (pathOf target))
        if a.has "verbose" then printLine (Text.ofString ("removed " ++ quoted target))
    match ← readText source, ← openFile .write target with
    | .error e, _ => blame ("cannot open " ++ quoted source ++ " for reading: " ++ errorText e)
    | _, .error e => blame ("cannot create regular file " ++ quoted target ++ ": " ++ errorText e)
    | .ok text, .ok id => do
      let _ ← writeTo id text.toBytes
      setMode target mode
      if a.has "preserve-timestamps" then
        setModified target (FileSystem.statusOf (← get).machine.now node).modified
      if a.has "verbose" then printLine (Text.ofString (quoted source ++ " -> " ++ quoted target))
      pure true

def install (args : List Text) : Eval Nat :=
  withArguments installFlags args fun a => do
    let modeTextGiven := a.value? "mode"
    let modeFor (isDirectory : Bool) : Option Nat :=
      match modeTextGiven with
      | none => some 0o755
      | some text => Mode.change? 0 isDirectory 0 text
    match modeFor false with
    | none => do
      say ("invalid mode " ++ emphasized (modeTextGiven.getD []))
      pure 1
    | some mode =>
      if a.has "directory" then
        if a.operands.isEmpty then misuse "missing file operand"
        else forEach a.operands (installDirectory a ((modeFor true).getD 0o755))
      else do
        let wanted : Option Text :=
          if !a.has "D" then none
          else match a.value? "target-directory" with
            | some directory => some directory
            | none =>
              if 1 < a.operands.length then some (directoryName (a.operands.getLastD [])) else none
        if let some directory := wanted then
          if !(← leadsToDirectory directory) then
            let _ ← makeWay directory none (tellDirectory a)
        match ← targetsOf a with
        | .error code => pure code
        | .ok targets =>
          forEach targets.sources fun source =>
            installFile a mode source (targets.pathFor (dropSlashes source))

/-! ## Names of files -/

def link (args : List Text) : Eval Nat :=
  withArguments [] args fun a => do
    match a.operands with
    | [] => missingOperand
    | [only] => misuse ("missing operand after " ++ emphasized only)
    | [source, target] =>
      match ← giveName source target false with
      | .ok () => pure 0
      | .error e => do
        say ("cannot create link " ++ quoted target ++ " to " ++ quoted source ++ ": " ++ errorText e)
        pure 1
    | _ :: _ :: extra :: _ => extraOperand extra

def unlink (args : List Text) : Eval Nat :=
  withArguments [] args fun a => do
    match a.operands with
    | [] => missingOperand
    | [path] =>
      match ← act (.remove (pathOf path)) with
      | .ok () => pure 0
      | .error e => do
        say ("cannot unlink " ++ quoted path ++ ": " ++ errorText e)
        pure 1
    | _ :: extra :: _ => extraOperand extra

/-! ## Owners -/

def ownerFlags : List Flag := [
  flag 'c' "changes", flag 'f' "silent", longFlag "quiet", flag 'v' "verbose", longFlag "dereference",
  flag 'h' "no-dereference", longFlag "from" .value, longFlag "reference" .value, flag 'R' "recursive",
  flag 'H', flag 'L', flag 'P', longFlag "preserve-root", longFlag "no-preserve-root"]

/-- The names at the start of lines. -/
def knownNames (lines : List String) : List Text :=
  lines.map (fun line => line.toList.takeWhile (· ≠ ':'))

/-- Whether a name or a number stands for someone. -/
def isKnown (lines : List String) (name : Text) : Bool :=
  name.isEmpty || (decimal? name).isSome || (knownNames lines).contains name

/-- Nothing is told of owners, so they only have to be known, and the files to be there. -/
def changeOwners (a : Arguments) (owner : Text) (paths : List Text) : Eval Nat :=
  forEach paths fun path => do
    match ← nodeAt? path (!a.has "no-dereference") with
    | .ok _ => do
      if a.has "verbose" then
        let kind := if owner.contains ':' then "ownership of " else "ownership of "
        printLine (Text.ofString (kind ++ quoted path ++ " retained as " ++ owner.toString))
      pure true
    | .error e =>
      if a.has "silent" || a.has "quiet" then pure false
      else
        match ← nodeAt? path with
        | .ok _ => blame ("cannot dereference " ++ quoted path ++ ": " ++ errorText e)
        | .error e => blame ("cannot access " ++ quoted path ++ ": " ++ errorText e)

def chown (args : List Text) : Eval Nat :=
  withArguments ownerFlags args fun a => do
    match a.value? "reference", a.operands with
    | some _, paths => changeOwners a "root".toList paths
    | none, [] => missingOperand
    | none, [only] => misuse ("missing operand after " ++ emphasized only)
    | none, owner :: paths =>
      let user := owner.takeWhile (· ≠ ':')
      let group := owner.drop (user.length + 1)
      if !isKnown userLines user then do
        say ("invalid user: " ++ emphasized owner)
        pure 1
      else if !isKnown groupLines group then do
        say ("invalid group: " ++ emphasized owner)
        pure 1
      else changeOwners a owner paths

def chgrp (args : List Text) : Eval Nat :=
  withArguments ownerFlags args fun a => do
    match a.value? "reference", a.operands with
    | some _, paths => changeOwners a "root".toList paths
    | none, [] => missingOperand
    | none, [only] => misuse ("missing operand after " ++ emphasized only)
    | none, group :: paths =>
      if !isKnown groupLines group then do
        say ("invalid group: " ++ emphasized group)
        pure 1
      else changeOwners a group paths

end Slipway.Tool
