import Slipway.Release.Locate
import Slipway.Release.Packaging
import Slipway.Release.SmokeTests
import Slipway.Release.Version

/-!
# The release of one architecture

Version, collision check, build, smoke tests and package, in this order; the first failure ends
the release. Nothing is retried and nothing is locked.
-/

namespace Slipway

/-- The host that a release runs on, or the name of one that is not supported. -/
abbrev Host := Except String Os

/-- The host as a compilation target names it. -/
def Host.ofTarget (target : String) : Host :=
  match Os.ofTarget? target with
  | some os => .ok os
  | none => .error target

def release (settings : Settings) (toolchain : Path) (host : Host) (arch : Arch) :
    Stage ReleaseError Report := do
  let os ← match host with
    | .ok os => pure os
    | .error name => throw (.setup (.unsupportedPlatform name))
  let version ← (resolveVersion settings.versionFile).orElse ReleaseError.setup
  let request : BuildRequest := ⟨arch, version, os⟩
  Stage.note (.startingRelease version arch os)
  (ensureAvailable settings request).orElse ReleaseError.packaging
  let artifact ← (build toolchain settings request).orElse ReleaseError.build
  let verified ← (verify artifact).orElse ReleaseError.verification
  let package ← (package settings verified).orElse ReleaseError.packaging
  Stage.note (.releaseComplete package.path)
  pure {
    version, arch, package
    platform := os
    artifact := artifact.path
    smokeTests := verified.outcomes }

end Slipway
