import Slipway.Platform
import Slipway.Invocation
import Slipway.Digest.Sha256

/-!
# What passes between the stages

A request becomes an artifact, a verified artifact, and a package; the report lists them all.
-/

namespace Slipway

structure BuildRequest where
  arch : Arch
  version : String
  os : Os
  deriving DecidableEq

def BuildRequest.platform (r : BuildRequest) : Platform := ⟨r.os, r.arch⟩

/-- The executable that a build left at its canonical path. -/
structure Artifact where
  path : Path
  request : BuildRequest
  deriving DecidableEq

inductive SmokeTest
  /-- Valid input has to come out in its normal form. -/
  | format
  /-- Malformed input in strict mode must not end in success. -/
  | strictExitCode
  deriving DecidableEq

def SmokeTest.name : SmokeTest → String
  | .format => "format"
  | .strictExitCode => "strict-exit-code"

structure SmokeTestOutcome where
  test : SmokeTest
  passed : Bool
  exitCode : Option Int
  stdout : String
  stderr : String
  deriving DecidableEq

/-- An artifact that passed every smoke test, with what the tests saw. -/
structure VerifiedArtifact where
  artifact : Artifact
  outcomes : List SmokeTestOutcome
  deriving DecidableEq

structure Package where
  name : String
  path : Path
  size : Nat
  /-- Present when a checksum file was asked for, as is its path. -/
  sha256 : Option ContentHash
  checksumPath : Option Path
  /-- Whether something stood at the package's path before. -/
  replaced : Bool
  deriving DecidableEq

structure Report where
  version : String
  arch : Arch
  platform : Os
  artifact : Path
  package : Package
  smokeTests : List SmokeTestOutcome
  deriving DecidableEq

end Slipway
