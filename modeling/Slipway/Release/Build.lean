import Slipway.Program
import Slipway.Release.Error
import Slipway.Settings
import Slipway.Text.Basic

/-!
# Building

The toolchain publishes the binary under a name of its own; the build moves it to its canonical
name in the same directory. The build directory is never cleaned.
-/

namespace Slipway

/-- Runs a process and tells about its start and its end. -/
def launch (invocation : Invocation) : Stage SystemError ProcessOutput := do
  Stage.note (.spawningProcess invocation.commandLine)
  let output ← Stage.attempt (Program.perform (.start invocation))
  Stage.note (.processExited invocation.commandLine output.code)
  if output.stderr ≠ [] then Stage.note (.processStderr output.stderrText)
  pure output

/-! ## The publish command -/

def outputFlag : String := "--output="
def archFlag : String := "--arch="
def versionFlag : String := "/p:Version="

/-- The toolchain's command for a request. -/
def publishInvocation (toolchain : Path) (settings : Settings) (request : BuildRequest) :
    Invocation where
  program := toolchain
  args := [
    "publish",
    settings.projectDir.text,
    "--configuration=release",
    outputFlag ++ settings.buildDir.text,
    "--self-contained",
    "true",
    archFlag ++ request.arch.toolchainName,
    versionFlag ++ request.version]

/-! ## The build -/

/-- Where the toolchain leaves the binary. -/
def producedPath (settings : Settings) (os : Os) : Path :=
  settings.buildDir.join (os.executable settings.toolchainOutput)

/-- Where the binary belongs. -/
def canonicalPath (settings : Settings) (os : Os) : Path :=
  settings.buildDir.join (os.executable settings.product)

/-- Moves the published binary to its canonical name and tells where that is. A binary that stands
there from an earlier build is replaced. -/
def relocate (settings : Settings) (os : Os) : Stage BuildError Path := do
  let produced := producedPath settings os
  let canonical := canonicalPath settings os
  unless ← ExceptT.lift (Program.file (.isRegularFile produced)) do
    throw (.missingOutput produced)
  (Stage.attempt (Program.file (.rename produced canonical))).orElse
    (BuildError.relocate produced canonical)
  match ← ExceptT.lift (Program.file (.canonicalize canonical)) with
  | .ok path => pure path
  | .error _ => pure canonical

def build (toolchain : Path) (settings : Settings) (request : BuildRequest) :
    Stage BuildError Artifact := do
  Stage.note (.building request.arch request.version)
  let invocation := publishInvocation toolchain settings request
  let command := invocation.commandLine
  Stage.note (.invokingToolchain command)
  let output ← (launch invocation).orElse (BuildError.spawn command)
  unless output.success do
    throw (.failed command output.code (trimBlanks output.stderrText))
  let path ← relocate settings request.os
  Stage.note (.buildComplete path)
  pure ⟨path, request⟩

end Slipway
