import Slipway.Tool.Archiving.Unpacking

/-!
# The archiver

A program that puts files into an archive, lists what is in one, takes it out again, and changes
archives that are there.
-/

namespace Slipway.Tool

open Shell

namespace Archiving

/-! ## Archives as files -/

/-- The data of an archive, unpacked, and what is wrong with its compression. -/
structure Source where
  bytes : Bytes
  isUnpacked : Bool := false
  problem : Option (String × Nat) := none

/-- Reads an archive; the result may be the code of a failure that ends the work. -/
def openArchive (p : Plan) : Eval (Except Nat Source) := do
  let isInput := p.archive = ['-']
  let found ← match ← openInput p.archive with
    | .ok id => readAll id
    | .error e => pure (.error e)
  match found with
  | .error e =>
    return .error (← giveUp (Text.toString (listedName p.archive) ++ ": Cannot "
      ++ (if e = .isDirectory then "read: " else "open: ") ++ errorText e))
  | .ok bytes =>
    let isPacked := bytes.take 2 = [0x1f, 0x8b]
    if isInput ∧ isPacked ∧ !p.isGzip then
      return .error (← giveUp "Archive is compressed. Use -z option")
    else if isPacked ∨ (p.isGzip ∧ !p.has "auto-compress") then
      let unpacked := unpack bytes
      pure (.ok { bytes := unpacked.content, isUnpacked := true, problem := unpacked.problem })
    else pure (.ok { bytes })

/-- The members of an archive that is changed; one that is not there has none. -/
def oldMembers (p : Plan) : Eval (Except Nat (List Tar.Stored)) := do
  if p.archive = ['-'] then
    return .error (← refuseUsage "Options '-Aru' are incompatible with '-f -'")
  match ← contentOf p.archive with
  | .error .noEntry =>
    if p.operation = .append ∨ p.operation = .update then pure (.ok [])
    else
      return .error (← giveUp (Text.toString (listedName p.archive) ++ ": Cannot open: "
        ++ errorText .noEntry))
  | .error e =>
    return .error (← giveUp (Text.toString (listedName p.archive) ++ ": Cannot open: "
      ++ errorText e))
  | .ok bytes =>
    if bytes.take 2 = [0x1f, 0x8b] then
      return .error (← giveUp "Cannot update compressed archives")
    else
      let (stored, flaws) := Tar.readArchive (p.has "ignore-zeros") bytes
      if flaws.contains .noArchive then
        return .error (← giveUp "This does not look like a tar archive")
      else pure (.ok stored)

/-- Opens an archive to be written anew. -/
def openTarget (p : Plan) : Eval (Except Nat Nat) := do
  if p.archive = ['-'] then
    match (← get).channel? 1 with
    | some id => pure (.ok id)
    | none => return .error (← giveUp ("-: Cannot open: " ++ errorText badDescriptor))
  else
    match ← openFile .write p.archive with
    | .ok id => pure (.ok id)
    | .error e =>
      return .error (← giveUp (Text.toString (listedName p.archive) ++ ": Cannot open: "
        ++ errorText e))

/-- The number of the file behind a channel. -/
def serialBehind (id : Nat) : Eval (Option Nat) := do
  let s ← get
  return match s.channels.lookup id with
    | some (.file file _ _) =>
      match s.machine.files.openNode? file with
      | some (.file data) => some data.serial
      | _ => none
    | _ => none

/-- Writes an archive of members, given by their bytes. -/
def putArchive (p : Plan) (id : Nat) (members : Bytes) : Eval (Option Nat) := do
  let bytes := Tar.closeArchive members
  let bytes := if p.isGzip then packMember 6 none 0 bytes else bytes
  match ← writeTo id bytes with
  | .ok () => pure none
  | .error e =>
    return some (← giveUp (Text.toString (listedName p.archive) ++ ": Cannot write: "
      ++ errorText e))

/-! ## Operations -/

/-- Puts what is named behind old members. -/
def write (p : Plan) (old : List Tar.Stored) : Eval Nat := do
  match ← openTarget p with
  | .error code => pure code
  | .ok id => do
    let own ← serialBehind id
    let start := old.flatMap (·.bytes)
    match ← packAll p own old (p.archive = ['-']) with
    | .error code => do
      if !old.isEmpty then let _ ← putArchive p id start
      pure code
    | .ok s => do
      match ← putArchive p id (start ++ s.written.reverse.flatten) with
      | some code => pure code
      | none => do
        let ok ← if p.has "remove-files" then removePacked s else pure true
        conclude (s.ok && ok)

def create (p : Plan) : Eval Nat := do
  if p.steps.any isName then write p []
  else refuseUsage "Cowardly refusing to create an empty archive"

def addTo (p : Plan) : Eval Nat := do
  match ← oldMembers p with
  | .error code => pure code
  | .ok old => write p old

/-- Puts the members of other archives behind those of one. -/
def joinArchives (p : Plan) : Eval Nat := do
  match ← oldMembers p with
  | .error code => pure code
  | .ok old => do
    let mut members := old
    for name in p.values operandKey do
      match ← oldMembers { p with archive := name } with
      | .error code => return code
      | .ok more => members := members ++ more
    match ← openTarget p with
    | .error code => pure code
    | .ok id => return (← putArchive p id (members.flatMap (·.bytes))).getD 0

/-- Takes members out of an archive. -/
def deleteMembers (p : Plan) : Eval Nat := do
  match ← oldMembers p, ← wantedNames p with
  | .error code, _ => pure code
  | _, .error code => pure code
  | .ok old, .ok wanted => do
    let fits (stored : Tar.Stored) (w : Wanted) := w.fits p (Text.ofBytes stored.member.name)
    let kept := old.filter (fun stored => !wanted.any (fits stored))
    let wanted := wanted.map (fun w => { w with isFound := old.any (fits · w) })
    match ← openTarget p with
    | .error code => pure code
    | .ok id => do
      match ← putArchive p id (kept.flatMap (·.bytes)) with
      | some code => pure code
      | none => return ← conclude (← tellMissing p wanted)

/-- Tells of what is wrong with an archive; a code ends the work. -/
def tellFlaw (flaw : Tar.Flaw) : Eval (Option Nat) := do
  match flaw with
  | .noArchive => do
    say "This does not look like a tar archive"
    pure none
  | .skipped => do
    say "Skipping to next header"
    pure none
  | .loneBlock n => do
    say ("A lone zero block at " ++ toString n)
    pure none
  | .cut => return some (← giveUp "Unexpected EOF in archive")

/-- Goes through the members of an archive. -/
def visit (p : Plan) (work : Tar.Stored → Unpacking → Eval Unpacking) : Eval Nat := do
  match ← openArchive p with
  | .error code => pure code
  | .ok source => do
    let (stored, flaws) := if source.bytes.length < Tar.blockSize then
        ([], if source.isUnpacked then [] else [.noArchive])
      else Tar.readArchive (p.has "ignore-zeros") source.bytes
    let (early, late) := flaws.partition (· = .noArchive)
    match ← wantedNames p with
    | .error code => pure code
    | .ok wanted => do
      early.forM fun flaw => do
        let _ ← tellFlaw flaw
      let patterns := (← p.steps.mapM (patternsOf p)).flatten
      let u ← forMembers p work patterns stored { wanted }
      let code ← late.foldlM (fun code flaw => do
        if code.isSome then pure code else tellFlaw flaw) none
      if let some code := code then return code
      if let some (text, 1) := source.problem then
        let _ ← tellProblem "stdin" (some (text, 1))
        say "Child returned status 1"
        say "Error is not recoverable: exiting now"
        return 2
      let found ← tellMissing p u.wanted
      let isWhole := flaws.all (fun flaw =>
        match flaw with
        | .loneBlock _ => true
        | _ => false)
      if p.operation = .compare ∧ isWhole ∧ found then pure (if u.ok then 0 else 1)
      else conclude (u.ok && found && isWhole)

/-- The end of a work that needs a program which is not there. -/
def missProgram (program : Text) : Eval Nat := do
  complain ("/bin/sh: 1: " ++ Text.toString (program.takeWhile (· ≠ ' ')) ++ ": not found\n")
  say "Child returned status 127"
  say "Error is not recoverable: exiting now"
  pure 2

def carryOutPlan (p : Plan) : Eval Nat := do
  if let some program := p.absentProgram? then return ← missProgram program
  match p.operation with
  | .create => create p
  | .append | .update => addTo p
  | .concatenate => joinArchives p
  | .delete => deleteMembers p
  | .list => visit p (listMember p)
  | .extract => visit p (extractMember p)
  | .compare => visit p (compareMember p)
  | .label => visit p (fun _ u => pure u)

/-! ## The plan -/

def formats : List String := ["gnu", "oldgnu", "pax", "posix", "ustar", "v7"]

/-- The plan that options make, or what is wrong with it and whether that is a matter of usage. -/
def planOf (steps : List (String × Text)) : Except (String × Bool) Plan := do
  let refuse {α : Type} (text : String) : Except (String × Bool) α := .error (text, true)
  let operations := steps.filterMap (fun step => operation? step.1)
  match operations with
  | [] => refuse "You must specify one of the '-Acdtrux', '--delete' or '--test-label' options"
  | operation :: others =>
    if others.any (· ≠ operation) then
      refuse "You may not specify more than one '-Acdtrux', '--delete' or  '--test-label' option"
    else
      let archives := (steps.filter (·.1 = "file")).map (·.2)
      if 1 < archives.length then refuse "Multiple archive files require '-M' option"
      else
        let expressions := (steps.filter
          (fun step => step.1 = "transform" || step.1 = "xform")).map (·.2)
        match expressions.mapM (fun text => readTransforms? (text.length + 1) text) with
        | none => refuse "Invalid transform expression"
        | some transforms =>
          let strip := ((steps.reverse.lookup "strip-components").getD ['0'])
          match decimal? strip, (steps.filter (·.1 = "format")).find? (fun step =>
              !formats.contains step.2.toString) with
          | none, _ => refuse (Text.toString strip ++ ": Invalid number of elements")
          | _, some (_, format) => refuse (Text.toString format ++ ": Invalid archive format")
          | some strip, none =>
            let p : Plan := { steps, operation, archive := archives.headD ['-'],
                              transforms := transforms.flatten, strip }
            if (p.value? "mode").any (fun text => (Mode.change? 0 false 0 text).isNone) then
              .error ("Invalid mode given on option", false)
            else .ok p

end Archiving

open Archiving in
def tar (args : List Text) : Eval Nat := do
  match readCommandLine args with
  | .error (.refused text) => refuseUsage text
  | .error (.unreadable text) => do
    say text
    let name := Text.toString (lastName (← self).name)
    complain ("Try '" ++ name ++ " --help' or '" ++ name ++ " --usage' for more information.\n")
    pure 64
  | .ok steps =>
    if steps.any (·.1 = "version") then
      printLine "tar (GNU tar) 1.34".toList
      pure 0
    else
      match planOf steps with
      | .error (text, true) => refuseUsage text
      | .error (text, false) => giveUp text
      | .ok p => carryOutPlan p

end Slipway.Tool
