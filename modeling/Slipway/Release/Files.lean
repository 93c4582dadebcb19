import Slipway.Program

/-!
# Files in pieces

Reading and writing whole files by steps of bounded size, hashing a file as it is read, and
creating a directory with the ones above it.
-/

namespace Slipway

/-- The most that one step reads or writes. -/
def pieceSize : Nat := 8192

/-! ## Reading -/

/-- Reads on until a read gives nothing, feeding each piece to `step`. No file gives more than
`fuel` pieces when it has fewer bytes than that. -/
def readPieces {σ : Type} (file : Handle) (step : σ → Bytes → σ) :
    (fuel offset : Nat) → (state : σ) → Program (σ × Except SystemError Unit)
  | 0, _, state => pure (state, .ok ())
  | fuel + 1, offset, state => do
    match ← Program.file (.read file offset pieceSize) with
    | .error e => pure (state, .error e)
    | .ok [] => pure (state, .ok ())
    | .ok piece => readPieces file step fuel (offset + piece.length) (step state piece)

/-- The digest of an open file, computed piece by piece. -/
def hashOpen (file : Handle) : Stage SystemError ContentHash := do
  let status ← Stage.attempt (Program.file (.describeOpen file))
  let (hasher, result) ← ExceptT.lift
    (readPieces file Sha256.Hasher.update (status.size + 1) 0 ({} : Sha256.Hasher))
  match result with
  | .error e => throw e
  | .ok () => pure (ContentHash.ofDigest hasher.finish)

def hashFile (path : Path) : Stage SystemError ContentHash := do
  hashOpen (← Stage.attempt (Program.file (.openRead path)))

/-! ## Writing -/

/-- The bytes in pieces of `pieceSize`, the last one shorter. -/
def piecesOf (bytes : Bytes) : List Bytes :=
  go bytes.length bytes
where
  go : (fuel : Nat) → Bytes → List Bytes
    | 0, _ => []
    | _, [] => []
    | fuel + 1, rest => rest.take pieceSize :: go fuel (rest.drop pieceSize)

/-- Writes the pieces one after the other and stops at the first that fails. -/
def writePieces (file : Handle) : (offset : Nat) → List Bytes → Stage SystemError Unit
  | _, [] => pure ()
  | offset, piece :: rest => do
    Stage.attempt (Program.file (.write file offset piece))
    writePieces file (offset + piece.length) rest

def writeAll (file : Handle) (bytes : Bytes) : Stage SystemError Unit :=
  writePieces file 0 (piecesOf bytes)

/-! ## Directories -/

/-- A path and the directories above it, the deepest first. -/
def lineage (path : Path) : List Path :=
  go (path.text.length + 1) path
where
  go : (fuel : Nat) → Path → List Path
    | 0, p => [p]
    | fuel + 1, p =>
      match p.parent? with
      | some up => p :: go fuel up
      | none => [p]

/-- Creates the first directory of the list, after the others when one of them is missing. -/
def makeLineage : List Path → Stage SystemError Unit
  | [] => throw (.described .other "failed to create whole tree")
  | path :: above => ExceptT.mk (do
    if path.text.isEmpty then return .ok ()
    match ← Program.file (.makeDirectory path) with
    | .ok () => return .ok ()
    | .error e =>
      if e.kind = .notFound then
        match ← (makeLineage above).run with
        | .error e => return .error e
        | .ok () =>
          match ← Program.file (.makeDirectory path) with
          | .ok () => return .ok ()
          | .error e =>
            if ← Program.file (.isDirectory path) then return .ok () else return .error e
      else if ← Program.file (.isDirectory path) then return .ok ()
      else return .error e)

/-- Creates a directory and what is missing above it. A directory that is there is fine. -/
def makeDirectories (path : Path) : Stage SystemError Unit :=
  makeLineage (lineage path)

end Slipway
