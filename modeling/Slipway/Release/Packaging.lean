import Slipway.Archive.Gzip
import Slipway.Archive.Tar
import Slipway.Release.Error
import Slipway.Release.Files
import Slipway.Settings

/-!
# Packaging

A package is a compressed archive with one entry, the verified binary under its canonical name. A
failure after the package was opened removes it again, so no part of a package stays behind.
-/

namespace Slipway

/-! ## Where packages are -/

def packagePath (settings : Settings) (request : BuildRequest) : Path :=
  settings.packagesDir.join (request.platform.packageName settings.product)

/-- The checksum file stands next to its package. -/
def checksumPath (package : Path) : Path :=
  package.withFileName (checksumName (package.fileName?.getD ""))

/-- The paths that packaging a request writes to. -/
def packageTargets (settings : Settings) (request : BuildRequest) : List Path :=
  let package := packagePath settings request
  if settings.checksum then [package, checksumPath package] else [package]

/-- The first of the paths at which something exists. -/
def firstExisting : List Path → Program (Option Path)
  | [] => pure none
  | path :: rest => do
    if ← Program.file (.pathExists path) then pure (some path) else firstExisting rest

/-- Fails before any work is done if packaging the request would collide. -/
def ensureAvailable (settings : Settings) (request : BuildRequest) : Stage PackagingError Unit :=
  match settings.collision with
  | .overwrite => pure ()
  | .fail => do
    match ← ExceptT.lift (firstExisting (packageTargets settings request)) with
    | some path => throw (.packageExists path)
    | none => pure ()

/-- How the policy has files opened for writing. -/
def CollisionPolicy.creation : CollisionPolicy → Creation
  | .fail => .fresh
  | .overwrite => .emptied

def createFile (settings : Settings) (path : Path) : Stage PackagingError Handle :=
  (Stage.attempt (Program.file (.openWrite settings.collision.creation path))).orElse
    (fun e => if e.kind = .alreadyExists then .packageExists path else .write path e)

/-! ## The archive -/

/-- The type of the entry for a file. -/
def entryType : FileKind → Tar.EntryType
  | .regular => .regular
  | .directory => .directory
  | .device => .device

/-- The header of a file's entry. Its mode is that of an executable, whatever the file's own. -/
def entryHeader (name : Bytes) (status : FileStatus) : Tar.Header where
  name := name
  mode := 0o755
  owner := status.owner
  group := status.group
  size := if status.kind = .directory then 0 else status.size
  modified := (status.modified % Nat.pow 2 64).toNat
  type := entryType status.kind
  deviceNumbers := true

/-- The archive's records for the open binary, without the end of the archive. When something
fails, the records so far come with the error. -/
def collectRecords (binary : Handle) (name : String) : Program (Bytes × Except SystemError Unit) := do
  match ← Program.file (.describeOpen binary) with
  | .error e => pure ([], .error e)
  | .ok status =>
    match Tar.place name with
    | .error e => pure ([], .error e)
    | .ok (before, field) =>
      let (pieces, result) ←
        readPieces binary (fun pieces piece => piece :: pieces) (status.size + 1) 0 []
      let content := pieces.reverse.flatten
      let header := (entryHeader field status).toBytes
      match result with
      | .error e => pure (before ++ header ++ content, .error e)
      | .ok () => pure (before ++ header ++ Tar.padded content, .ok ())

/-- Writes the archive into an open file. An archive that fails is ended and written all the same;
the error is the one that came first. -/
def writeArchive (file binary : Handle) (name : String) : Stage SystemError Unit := do
  let (records, collected) ← ExceptT.lift (collectRecords binary name)
  let written ← ExceptT.lift (writeAll file (Gzip.compress (records ++ Tar.terminator))).run
  match collected with
  | .error e => throw e
  | .ok () => Stage.ofExcept written

/-! ## The checksum file -/

/-- Writes the checksum file of a package and removes it again when that fails. -/
def writeChecksum (settings : Settings) (package : Path) (name : String) :
    Stage PackagingError (ContentHash × Path) := do
  let hash ← (hashFile package).orElse (PackagingError.write package)
  let sidecar := checksumPath package
  let file ← createFile settings sidecar
  match ← ExceptT.lift (writeAll file (Utf8.encode (hash.checksumLine name))).run with
  | .error e =>
    let _ ← ExceptT.lift (Program.file (.remove sidecar))
    throw (.write sidecar e)
  | .ok () =>
    Stage.note (.checksumWritten sidecar hash)
    pure (hash, sidecar)

/-! ## The package -/

/-- What is done with the package once it is open: its size, and its hash and checksum file when
they are asked for. -/
def fillPackage (settings : Settings) (file binary : Handle) (artifact package : Path)
    (name entryName : String) : Stage PackagingError (Nat × Option (ContentHash × Path)) := do
  (writeArchive file binary entryName).orElse (PackagingError.archive artifact package)
  let status ← (Stage.attempt (Program.file (.describe package))).orElse
    (PackagingError.write package)
  if settings.checksum then
    let written ← writeChecksum settings package name
    pure (status.size, some written)
  else pure (status.size, none)

/-- Archives the verified binary. -/
def package (settings : Settings) (verified : VerifiedArtifact) :
    Stage PackagingError Package := do
  let artifact := verified.artifact
  let request := artifact.request
  Stage.note (.packaging request.platform)
  (makeDirectories settings.packagesDir).orElse (PackagingError.createDir settings.packagesDir)
  let name := request.platform.packageName settings.product
  let path := packagePath settings request
  let replaced ← ExceptT.lift (Program.file (.pathExists path))
  if replaced then Stage.note (.overwritingPackage path)
  let binary ← (Stage.attempt (Program.file (.openRead artifact.path))).orElse
    (PackagingError.readBinary artifact.path)
  let file ← createFile settings path
  let filled ← ExceptT.lift (fillPackage settings file binary artifact.path path name
    (request.os.executable settings.product)).run
  match filled with
  | .error e =>
    let _ ← ExceptT.lift (Program.file (.remove path))
    Stage.note (.removedIncompletePackage path)
    throw e
  | .ok (size, written) =>
    Stage.note (.packageCreated path)
    pure {
      name, path, size, replaced
      sha256 := written.map (·.1)
      checksumPath := written.map (·.2) }

end Slipway
