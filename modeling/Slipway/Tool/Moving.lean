import Slipway.Tool.Making

/-!
# Programs that move, copy and remove files
-/

namespace Slipway.Tool

open Shell

/-- The names in a directory in order. -/
def sortedNames (path : Text) : Eval (List Text) :=
  return (namesIn (← get).machine path).mergeSort textLe

/-! ## rm -/

def removeFlags : List Flag := [
  flag 'f' "force", flag 'r' "recursive", flag 'R', flag 'd' "dir", flag 'v' "verbose", flag 'i',
  flag 'I', longFlag "interactive" .optional, longFlag "one-file-system",
  longFlag "preserve-root" .optional, longFlag "no-preserve-root"]

def blameRemoval (path : Text) (e : SystemError) : Eval Bool :=
  blame ("cannot remove " ++ quoted path ++ ": " ++ errorText e)

/-- Removes a directory that is empty by now. -/
def dropDirectory (verbose : Bool) (path : Text) : Eval Bool := do
  match ← removeDirectory path with
  | .ok () => do
    if verbose then printLine (Text.ofString ("removed directory " ++ quoted path))
    pure true
  | .error e => blameRemoval path e

/-- Removes what is at a path, with all that is below it if that is wanted. -/
def removeAt (a : Arguments) : (fuel : Nat) → Text → Eval Bool
  | 0, _ => pure false
  | fuel + 1, path => do
    let recursive := a.has "recursive" || a.has "R"
    match ← nodeAt? path with
    | .error e =>
      if a.has "force" ∧ (e = .noEntry ∨ e = .notDirectory) then pure true else blameRemoval path e
    | .ok (.directory _) =>
      if recursive then do
        let names ← sortedNames path
        let ok ← names.foldlM (fun ok name => do
          pure ((← removeAt a fuel (joinName path name)) && ok)) true
        if ok then dropDirectory (a.has "verbose") path else pure false
      else if a.has "dir" then dropDirectory (a.has "verbose") path
      else blameRemoval path .isDirectory
    | .ok _ =>
      match ← act (.remove (pathOf path)) with
      | .ok () => do
        if a.has "verbose" then printLine (Text.ofString ("removed " ++ quoted path))
        pure true
      | .error e => blameRemoval path e

def rm (args : List Text) : Eval Nat :=
  withArguments removeFlags args fun a => do
    if a.operands.isEmpty then (if a.has "force" then pure 0 else missingOperand)
    else
      forEach a.operands fun path => do
        let last := lastName path
        let recursive := a.has "recursive" || a.has "R"
        if recursive ∧ (last = ['.'] ∨ last = ['.', '.']) then
          blame ("refusing to remove '.' or '..' directory: skipping " ++ quoted path)
        else if recursive ∧ last = ['/'] ∧ !a.has "no-preserve-root" then do
          say "it is dangerous to operate recursively on '/'"
          say "use --no-preserve-root to override this failsafe"
          pure false
        else removeAt a maxDepth path

/-! ## cp -/

def copyFlags : List Flag := [
  flag 'a' "archive", flag 'r' "recursive", flag 'R', flag 'f' "force", flag 'n' "no-clobber",
  flag 'p', longFlag "preserve" .optional, longFlag "no-preserve" .value, flag 'v' "verbose",
  flag 'd', flag 'P' "no-dereference", flag 'L' "dereference", flag 'H', flag 'l' "link",
  flag 's' "symbolic-link", flag 'T' "no-target-directory", setting 't' "target-directory",
  { letter := some 'u', word := "update", takes := .optional }, flag 'i' "interactive", flag 'x',
  longFlag "parents", flag 'b', longFlag "backup" .optional, setting 'S' "suffix",
  longFlag "remove-destination", longFlag "attributes-only", longFlag "reflink" .optional,
  longFlag "sparse" .value]

/-- Whether a copy is recursive. -/
def copiesTrees (a : Arguments) : Bool := a.has "recursive" || a.has "R" || a.has "archive"

/-- Whether links are copied as links. -/
def keepsLinks (a : Arguments) (isNamed : Bool) : Bool :=
  match a.lastOf ["archive", "d", "no-dereference", "dereference", "H"] with
  | some "dereference" => false
  | some "H" => !isNamed
  | some _ => true
  | none => copiesTrees a

def keepsTimes (a : Arguments) : Bool :=
  a.has "archive" || a.has "p" || a.has "preserve"

def announceCopy (a : Arguments) (source target : Text) : Eval Unit := do
  if a.has "verbose" then printLine (Text.ofString (quoted source ++ " -> " ++ quoted target))

/-- Whether two paths lead to one file. -/
def isSameFile (source target : Text) : Eval Bool := do
  match ← findNode (pathOf source), ← findNode (pathOf target) with
  | .ok (p, .file x), .ok (q, .file y) => pure (p = q || x.serial = y.serial)
  | .ok (p, _), .ok (q, _) => pure (p = q)
  | _, _ => pure false

/-- Puts a new node at a path where nothing is. -/
def putNew (path : Text) (node : Node) : Eval (Except SystemError Unit) :=
  change fun m =>
    match m.files.findLast m.directory (pathOf path) with
    | .error e => .error e
    | .ok last =>
      match last.name with
      | none => .error .alreadyThere
      | some name => .ok (m.files.put (last.parent ++ [name]) node)

/-- Copies the data of a file. A new file gets its mode. -/
def copyData (a : Arguments) (source target : Text) (data : FileData) : Eval Bool := do
  let isNew := !(← nodeAt? target true).isOk
  match ← openFile .read source with
  | .error e => blame ("cannot open " ++ quoted source ++ " for reading: " ++ errorText e)
  | .ok input => do
    let content ← readAll input
    if isNew ∧ target.getLast? = some '/' then
      return ← blame ("cannot create regular file " ++ quoted target ++ ": "
        ++ errorText .notDirectory)
    let opened ← openFile .write target
    let opened ← match opened with
      | .error e =>
        if a.has "force" ∧ !isNew then
          let _ ← act (.remove (pathOf target))
          openFile .write target
        else pure (.error e)
      | .ok id => pure (.ok id)
    match opened, content with
    | .error e, _ => blame ("cannot create regular file " ++ quoted target ++ ": " ++ errorText e)
    | _, .error e => blame ("error reading " ++ quoted source ++ ": " ++ errorText e)
    | .ok id, .ok bytes =>
      match ← writeTo id bytes with
      | .error e => blame ("error writing " ++ quoted target ++ ": " ++ errorText e)
      | .ok () => do
        if keepsTimes a then
          setMode target data.mode
          setModified target data.modified
        else if isNew then setMode target (← newMode data.mode)
        pure true

/-- What the copy of one named source knows on its way. -/
structure CopyTrip where
  /-- The named source. -/
  source : Text
  /-- The path that it goes to. -/
  target : Text
  /-- The first directory that was made. Meeting it as a source is copying a tree into itself. -/
  made : Option Text := none
  /-- Whether the first directory was met. -/
  met : Bool := false

abbrev CopyEval := StateT CopyTrip Eval

mutual

/-- Copies what is at a path to another path. -/
def copyAt (a : Arguments) :
    (fuel : Nat) → (isNamed : Bool) → (source target : Text) → CopyEval Bool
  | 0, _, _, _ => pure false
  | fuel + 1, isNamed, source, target => do
    match ← nodeAt? source (!keepsLinks a isNamed) with
    | .error e => blame ("cannot stat " ++ quoted source ++ ": " ++ errorText e)
    | .ok (.directory mode) =>
      if !copiesTrees a then blame ("-r not specified; omitting directory " ++ quoted source)
      else copyTree a fuel source target mode
    | .ok node => do
      let old ← nodeAt? target true
      let isLink := match node with
        | .link _ => true
        | _ => false
      if (old.toOption.map Node.isDirectory).getD false then
        return ← blame ("cannot overwrite directory " ++ quoted target ++ " with non-directory")
      if old.isOk ∧ a.has "no-clobber" then return true
      if !isLink ∧ (← isSameFile source target) then
        if a.has "link" then return true
        return ← blame (quoted source ++ " and " ++ quoted target ++ " are the same file")
      if a.has "update" ∧ old.isOk then
        let now := (← getThe State).machine.now
        let time := fun (node : Node) => (FileSystem.statusOf now node).modified
        if old.toOption.any (fun old => time node ≤ time old) then return true
      if a.has "remove-destination" ∨ (isLink ∧ (← nodeAt? target).isOk) then
        let _ ← act (.remove (pathOf target))
      let refuse (kind : String) (e : SystemError) : Eval Bool :=
        blame ("cannot create " ++ kind ++ " " ++ quoted target ++ ": " ++ errorText e)
      let made ← match node with
        | .link text => do
          match ← change (fun m => m.files.makeLink m.directory text (pathOf target)) with
          | .ok () => pure true
          | .error e => refuse "symbolic link" e
        | .file data =>
          if a.has "link" then do
            match ← giveName source target true with
            | .ok () => pure true
            | .error e => refuse "hard link" e
          else if a.has "symbolic-link" then do
            let made ← change fun m =>
              m.files.makeLink m.directory source.toString (pathOf target)
            match made with
            | .ok () => pure true
            | .error e => refuse "symbolic link" e
          else copyData a source target data
        | node => do
          match old, ← putNew target node with
          | .error _, .ok () => pure true
          | .error _, .error e => refuse "regular file" e
          | .ok _, _ => pure true
      if made then announceCopy a source target
      pure made

/-- Copies a directory with all that is in it. -/
def copyTree (a : Arguments) :
    (fuel : Nat) → (source target : Text) → (mode : Nat) → CopyEval Bool
  | 0, _, _, _ => pure false
  | fuel + 1, source, target, mode => do
    let names ← sortedNames source
    let trip ← getThe CopyTrip
    if ← trip.made.toList.anyM (isSameFile source ·) then
      modifyThe CopyTrip fun trip => { trip with met := true }
      return ← blame ("cannot copy a directory, " ++ quoted trip.source ++ ", into itself, "
        ++ quoted trip.target)
    let old ← nodeAt? target true
    match old with
    | .ok (.directory _) =>
      if ← isSameFile source target then
        return ← blame (quoted source ++ " and " ++ quoted target ++ " are the same file")
    | .ok _ =>
      return ← blame ("cannot overwrite non-directory " ++ quoted target ++ " with directory "
        ++ quoted source)
    | .error _ =>
      match ← makeDirectory target none with
      | .ok () => do
        announceCopy a source target
        modifyThe CopyTrip fun trip => { trip with made := trip.made <|> some target }
      | .error e =>
        return ← blame ("cannot create directory " ++ quoted target ++ ": " ++ errorText e)
    let ok ← names.foldlM (fun ok name => do
      if (← getThe CopyTrip).met then pure false
      else pure ((← copyAt a fuel false (joinName source name) (joinName target name)) && ok)) true
    if !old.isOk then
      setMode target (← if keepsTimes a then pure mode else newMode mode)
    pure ok

end

def cp (args : List Text) : Eval Nat :=
  withArguments copyFlags args fun a => do
    match ← targetsOf a with
    | .error code => pure code
    | .ok targets => do
      forEach targets.sources fun source => do
        let target := if a.has "parents" then joinName targets.target source
          else targets.pathFor (dropSlashes source)
        if a.has "parents" then
          let _ ← makeWay (directoryName target) none (fun _ => pure ())
        (copyAt a maxDepth true source target).run' { source, target }

/-! ## mv -/

def moveFlags : List Flag := [
  flag 'f' "force", flag 'i' "interactive", flag 'n' "no-clobber", flag 'v' "verbose",
  flag 'T' "no-target-directory", setting 't' "target-directory", flag 'b',
  longFlag "backup" .optional, setting 'S' "suffix", longFlag "strip-trailing-slashes",
  { letter := some 'u', word := "update", takes := .optional }, flag 'Z']

/-- Moves what is at a path to another path. -/
def moveAt (a : Arguments) (source target : Text) : Eval Bool := do
  match ← nodeAt? source with
  | .error e => blame ("cannot stat " ++ quoted source ++ ": " ++ errorText e)
  | .ok node =>
    let old := (← nodeAt? target).toOption
    if old.isSome ∧ a.has "no-clobber" then return true
    if old.isSome ∧ (← findNode (pathOf source) false).toOption.map (·.1)
        = (← findNode (pathOf target) false).toOption.map (·.1) then
      return ← blame (quoted source ++ " and " ++ quoted target ++ " are the same file")
    if old.any Node.isDirectory ∧ !node.isDirectory then
      return ← blame ("cannot overwrite directory " ++ quoted target ++ " with non-directory")
    if old.any (fun old => !old.isDirectory) ∧ node.isDirectory then
      return ← blame ("cannot overwrite non-directory " ++ quoted target ++ " with directory "
        ++ quoted source)
    match ← act (.rename (pathOf (dropSlashes source)) (pathOf target)) with
    | .ok () => do
      if a.has "verbose" then
        printLine (Text.ofString ("renamed " ++ quoted source ++ " -> " ++ quoted target))
      pure true
    | .error .invalidArgument =>
      blame ("cannot move " ++ quoted source ++ " to a subdirectory of itself, " ++ quoted target)
    | .error .notEmpty =>
      blame ("cannot overwrite " ++ quoted target ++ ": " ++ errorText .notEmpty)
    | .error e =>
      blame ("cannot move " ++ quoted source ++ " to " ++ quoted target ++ ": " ++ errorText e)

def mv (args : List Text) : Eval Nat :=
  withArguments moveFlags args fun a => do
    match ← targetsOf a with
    | .error code => pure code
    | .ok targets =>
      forEach targets.sources fun source =>
        moveAt a source (targets.pathFor (dropSlashes source))

end Slipway.Tool
