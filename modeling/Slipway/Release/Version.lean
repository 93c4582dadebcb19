import Slipway.Release.Error
import Slipway.Release.Files

/-!
# The version of a release

The version is the first line of a file, without its line end and otherwise as it stands.
-/

namespace Slipway

def lineFeed : UInt8 := 10

/-! ## Lines -/

/-- The bytes up to the first line feed, that one included. -/
def firstLine (content : Bytes) : Bytes :=
  let before := content.takeWhile (· ≠ lineFeed)
  if before.length < content.length then before ++ [lineFeed] else before

/-- A line without its line feed, and without the carriage return before that. -/
def dropLineEnd (line : List Char) : List Char :=
  match line.reverse with
  | '\n' :: '\r' :: rest => rest.reverse
  | '\n' :: rest => rest.reverse
  | _ => line

/-- Reads pieces until one has a line feed in it. -/
def readFirstLine (file : Handle) :
    (fuel offset : Nat) → (read : Bytes) → Program (Except SystemError Bytes)
  | 0, _, read => pure (.ok (firstLine read))
  | fuel + 1, offset, read => do
    match ← Program.file (.read file offset pieceSize) with
    | .error e => pure (.error e)
    | .ok [] => pure (.ok read)
    | .ok piece =>
      if piece.contains lineFeed then pure (.ok (firstLine (read ++ piece)))
      else readFirstLine file fuel (offset + piece.length) (read ++ piece)

/-! ## The version -/

/-- The version that a first line stands for. -/
def versionOfLine (path : Path) (line : Bytes) : Except SetupError String :=
  match Utf8.decode? line with
  | none => .error (.versionFileUnreadable path .invalidText)
  | some text =>
    match dropLineEnd text.toList with
    | [] => .error (.versionFileEmpty path)
    | version => .ok (String.ofList version)

/-- How a version file that does not open is reported. -/
def versionFileRefused (path : Path) (e : SystemError) : SetupError :=
  if e.kind = .notFound then .versionFileMissing path else .versionFileUnreadable path e

def resolveVersion (path : Path) : Stage SetupError String := do
  let file ← (Stage.attempt (Program.file (.openRead path))).orElse (versionFileRefused path)
  let unreadable := SetupError.versionFileUnreadable path
  let status ← (Stage.attempt (Program.file (.describeOpen file))).orElse unreadable
  let line ← (Stage.attempt (readFirstLine file (status.size + 1) 0 [])).orElse unreadable
  let version ← Stage.ofExcept (versionOfLine path line)
  Stage.note (.resolvedVersion path version)
  pure version

end Slipway
