import Slipway.Path

/-!
# Settings of a release

Where a project keeps its files, what its product is called, and how packages are written.
-/

namespace Slipway

/-- What to do when the package about to be written is already there. -/
inductive CollisionPolicy
  | fail
  | overwrite
  deriving DecidableEq

def CollisionPolicy.name : CollisionPolicy → String
  | .fail => "fail"
  | .overwrite => "overwrite"

structure Settings where
  root : Path
  /-- Only the first line of this file is read. -/
  versionFile : Path
  projectDir : Path
  /-- What the toolchain writes goes here; it is never cleaned. -/
  buildDir : Path
  packagesDir : Path
  /-- The name of the binary in its package, and the first part of the package's name. -/
  product : String
  /-- The name under which the toolchain leaves the binary. -/
  toolchainOutput : String
  collision : CollisionPolicy
  /-- Whether a checksum file is written next to the package. -/
  checksum : Bool
  deriving DecidableEq

/-! ## Fixed names -/

def productName : String := "fxml"
def toolchainOutputName : String := "FormatXML"
def toolchainProgram : String := "dotnet"
def versionFileName : String := "src/version.txt"
def projectDirName : String := "src/FormatXML"
def buildDirName : String := "src/build"
def packagesDirName : String := "packages"
def rootVariable : String := "FXRELEASE_ROOT"
def toolchainVariable : String := "FXRELEASE_TOOLCHAIN"

/-- The usual layout below `root`, which is taken as it is written. -/
def Settings.below (root : Path) : Settings where
  root := root
  versionFile := root.join versionFileName
  projectDir := root.join projectDirName
  buildDir := root.join buildDirName
  packagesDir := root.join packagesDirName
  product := productName
  toolchainOutput := toolchainOutputName
  collision := .fail
  checksum := false

end Slipway
