import Slipway.Release.Artifact
import Slipway.SystemError

/-!
# Why a release fails

Each stage has its causes and their texts; `ReleaseError` names the stage. Every error is final.
The texts embed the texts of their causes, so the chain of causes usually shows as one message.
-/

namespace Slipway

/-- How a process ended. -/
def endingText : Option Int → String
  | some code => "exit code " ++ toString code
  | none => "termination by signal"

/-! ## Setting up -/

/-- The arguments, the environment or the project do not allow a release. -/
inductive SetupError
  | unsupportedArch (name : String)
  | unsupportedPlatform (name : String)
  | versionFileMissing (path : Path)
  | versionFileUnreadable (path : Path) (source : SystemError)
  | versionFileEmpty (path : Path)
  | invalidRoot (path : Path) (source : SystemError)
  | toolchainNotFound (program message : String)
  deriving DecidableEq

namespace SetupError

def message : SetupError → String
  | unsupportedArch name =>
    "unsupported architecture: " ++ name ++ " (expected one of: amd64, arm64)"
  | unsupportedPlatform name =>
    "unsupported host platform: " ++ name ++ " (expected one of: linux, darwin, windows)"
  | versionFileMissing path => "version file not found: " ++ path.text
  | versionFileUnreadable path source =>
    "failed to read version file " ++ path.text ++ ": " ++ source.message
  | versionFileEmpty path => "version file is empty: " ++ path.text
  | invalidRoot path source => "invalid project root " ++ path.text ++ ": " ++ source.message
  | toolchainNotFound program message =>
    "build toolchain `" ++ program ++ "` not found: " ++ message

def source? : SetupError → Option SystemError
  | versionFileUnreadable _ source => some source
  | invalidRoot _ source => some source
  | _ => none

end SetupError

/-! ## Building -/

/-- The toolchain produced no usable binary. -/
inductive BuildError
  | spawn (command : String) (source : SystemError)
  | failed (command : String) (code : Option Int) (stderr : String)
  | missingOutput (path : Path)
  | relocate (origin destination : Path) (source : SystemError)
  deriving DecidableEq

namespace BuildError

def message : BuildError → String
  | spawn command source => "failed to run `" ++ command ++ "`: " ++ source.message
  | failed command code stderr =>
    "`" ++ command ++ "` failed with " ++ endingText code ++ ": " ++ stderr
  | missingOutput path => "toolchain reported success but produced no binary at " ++ path.text
  | relocate origin destination source =>
    "failed to move " ++ origin.text ++ " to " ++ destination.text ++ ": " ++ source.message

def source? : BuildError → Option SystemError
  | spawn _ source => some source
  | relocate _ _ source => some source
  | _ => none

end BuildError

/-! ## Verifying -/

/-- A smoke test rejected the binary. -/
inductive VerificationError
  | spawn (test : SmokeTest) (binary : Path) (source : SystemError)
  | formatFailed (binary : Path) (code : Option Int) (stderr : String)
  | unexpectedOutput (binary : Path) (expected actual : String)
  | strictModeAccepted (binary : Path)
  deriving DecidableEq

namespace VerificationError

def message : VerificationError → String
  | spawn test binary source =>
    test.name ++ " check could not run " ++ binary.text ++ ": " ++ source.message
  | formatFailed binary code stderr =>
    "binary " ++ binary.text ++ " failed on valid input with " ++ endingText code ++ ": " ++ stderr
  | unexpectedOutput binary expected actual =>
    "binary " ++ binary.text ++ " did not produce correct output: got `" ++ actual
      ++ "`, expected `" ++ expected ++ "`"
  | strictModeAccepted binary =>
    "binary " ++ binary.text ++ " exited successfully on malformed input in strict mode"

def source? : VerificationError → Option SystemError
  | spawn _ _ source => some source
  | _ => none

end VerificationError

/-! ## Packaging -/

/-- The verified binary could not be put into its package. -/
inductive PackagingError
  | createDir (path : Path) (source : SystemError)
  | packageExists (path : Path)
  | readBinary (path : Path) (source : SystemError)
  | archive (binary package : Path) (source : SystemError)
  | write (path : Path) (source : SystemError)
  deriving DecidableEq

namespace PackagingError

def message : PackagingError → String
  | createDir path source =>
    "failed to create directory " ++ path.text ++ ": " ++ source.message
  | packageExists path =>
    "package already exists: " ++ path.text ++ " (use --force to overwrite)"
  | readBinary path source => "failed to read binary " ++ path.text ++ ": " ++ source.message
  | archive binary package source =>
    "failed to archive " ++ binary.text ++ " into " ++ package.text ++ ": " ++ source.message
  | write path source => "failed to write " ++ path.text ++ ": " ++ source.message

def source? : PackagingError → Option SystemError
  | createDir _ source => some source
  | packageExists _ => none
  | readBinary _ source => some source
  | archive _ _ source => some source
  | write _ source => some source

end PackagingError

/-! ## The whole release -/

inductive ReleaseError
  | setup (cause : SetupError)
  | build (cause : BuildError)
  | verification (cause : VerificationError)
  | packaging (cause : PackagingError)
  deriving DecidableEq

namespace ReleaseError

/-- The text of the stage's own error. -/
def stageMessage : ReleaseError → String
  | setup cause => cause.message
  | build cause => cause.message
  | verification cause => cause.message
  | packaging cause => cause.message

def stageName : ReleaseError → String
  | setup _ => "configuration"
  | build _ => "build"
  | verification _ => "verification"
  | packaging _ => "packaging"

def message (e : ReleaseError) : String := e.stageName ++ " error: " ++ e.stageMessage

def source? : ReleaseError → Option SystemError
  | setup cause => cause.source?
  | build cause => cause.source?
  | verification cause => cause.source?
  | packaging cause => cause.source?

/-- The messages of the error and its causes, outermost first. -/
def causes (e : ReleaseError) : List String :=
  [e.message, e.stageMessage] ++ (e.source?.map SystemError.message).toList

end ReleaseError

end Slipway
