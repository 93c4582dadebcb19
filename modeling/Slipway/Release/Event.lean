import Slipway.Release.Artifact

/-!
# Events

What a release tells about its progress. Each event has a level, a message and named values.
-/

namespace Slipway

/-- The severities, the gravest first. -/
inductive Level
  | error
  | warn
  | info
  | debug
  | trace
  deriving DecidableEq

namespace Level

def rank : Level → Nat
  | error => 1
  | warn => 2
  | info => 3
  | debug => 4
  | trace => 5

def name : Level → String
  | error => "ERROR"
  | warn => "WARN"
  | info => "INFO"
  | debug => "DEBUG"
  | trace => "TRACE"

end Level

inductive Event
  | resolvedConfiguration (root toolchain : Path)
  | resolvedVersion (path : Path) (version : String)
  | startingRelease (version : String) (arch : Arch) (platform : Os)
  | building (arch : Arch) (version : String)
  | invokingToolchain (command : String)
  | spawningProcess (command : String)
  | processExited (command : String) (code : Option Int)
  | processStderr (stderr : String)
  | buildComplete (path : Path)
  | testing (binary : Path)
  | runningSmokeTest (test : SmokeTest)
  | strictModeRejected (code : Option Int)
  | smokeTestsPassed (passed : Nat)
  | packaging (platform : Platform)
  | overwritingPackage (path : Path)
  | checksumWritten (path : Path) (sha256 : ContentHash)
  | packageCreated (path : Path)
  | removedIncompletePackage (path : Path)
  | releaseComplete (package : Path)

namespace Event

def level : Event → Level
  | resolvedVersion .. | invokingToolchain .. | spawningProcess .. | processExited ..
  | processStderr .. | strictModeRejected .. | checksumWritten .. => .debug
  | overwritingPackage .. | removedIncompletePackage .. => .warn
  | _ => .info

def message : Event → String
  | resolvedConfiguration .. => "resolved configuration"
  | resolvedVersion .. => "resolved version"
  | startingRelease .. => "starting release"
  | building .. => "building"
  | invokingToolchain .. => "invoking toolchain"
  | spawningProcess .. => "spawning process"
  | processExited .. => "process exited"
  | processStderr .. => "process stderr"
  | buildComplete .. => "build complete"
  | testing .. => "testing"
  | runningSmokeTest .. => "running smoke test"
  | strictModeRejected .. => "strict mode rejected malformed input"
  | smokeTestsPassed .. => "all smoke tests passed"
  | packaging .. => "packaging"
  | overwritingPackage .. => "overwriting existing package"
  | checksumWritten .. => "checksum written"
  | packageCreated .. => "package created"
  | removedIncompletePackage .. => "removed incomplete package"
  | releaseComplete .. => "release complete"

/-- The part of the program that tells of the event. -/
def source : Event → String
  | resolvedConfiguration .. => "fxrelease::cmd::release"
  | resolvedVersion .. => "fxrelease_lib::version"
  | startingRelease .. | releaseComplete .. => "fxrelease_lib::pipeline"
  | building .. | invokingToolchain .. | buildComplete .. => "fxrelease_lib::toolchain"
  | spawningProcess .. | processExited .. | processStderr .. => "fxrelease_lib::process"
  | testing .. | runningSmokeTest .. | strictModeRejected .. | smokeTestsPassed .. =>
    "fxrelease_lib::smoke"
  | packaging .. | overwritingPackage .. | checksumWritten .. | packageCreated ..
  | removedIncompletePackage .. => "fxrelease_lib::package"

/-- A code, or its absence, in a log line. -/
def codeText : Option Int → String
  | some code => "Some(" ++ toString code ++ ")"
  | none => "None"

/-- The named values of an event, in the order in which they are shown. -/
def fields : Event → List (String × String)
  | resolvedConfiguration root toolchain => [("root", root.text), ("toolchain", toolchain.text)]
  | resolvedVersion path version => [("path", path.text), ("version", version)]
  | startingRelease version arch platform =>
    [("version", version), ("arch", arch.name), ("platform", platform.name)]
  | building arch version => [("arch", arch.name), ("version", version)]
  | invokingToolchain command => [("command", command)]
  | spawningProcess command => [("command", command)]
  | processExited command code => [("command", command), ("code", codeText code)]
  | processStderr stderr => [("stderr", stderr)]
  | buildComplete path => [("path", path.text)]
  | testing binary => [("binary", binary.text)]
  | runningSmokeTest test => [("test", test.name)]
  | strictModeRejected code => [("code", codeText code)]
  | smokeTestsPassed passed => [("passed", toString passed)]
  | packaging platform => [("platform", platform.qualifier)]
  | overwritingPackage path => [("path", path.text)]
  | checksumWritten path sha256 => [("path", path.text), ("sha256", sha256.digits)]
  | packageCreated path => [("path", path.text)]
  | removedIncompletePackage path => [("path", path.text)]
  | releaseComplete package => [("package", package.text)]

end Event

end Slipway
