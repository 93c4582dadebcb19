import Slipway.Console.Json
import Slipway.Console.Style
import Slipway.Release.Artifact
import Slipway.Text.Binary64

/-!
# What a release shows at its end

The report as lines for a reader, or as JSON for a program. Readers see sizes in the largest unit
that fits, with one decimal, and durations cut off at the precision that their range is shown with.
-/

namespace Slipway

/-! ## Rounding -/

/-- `n` with at most 53 significant bits, a tie to the even neighbour. -/
def roundToPrecision (n : Nat) : Nat :=
  let surplus := Nat.log2 n + 1 - 53
  roundQuotient n (Nat.pow 2 surplus) * Nat.pow 2 surplus

/-! ## Sizes -/

/-- The units above bytes, the largest first. -/
def sizeUnits : List (Nat × String) := 
  [(1024 * 1024 * 1024, "GB"), (1024 * 1024, "MB"), (1024, "KB")]

/-- The tenths of a unit that are shown for a size. -/
def sizeTenths (bytes unit : Nat) : Nat := roundQuotient (10 * roundToPrecision bytes) unit

def formatTenths (tenths : Nat) : String :=
  toString (tenths / 10) ++ "." ++ toString (tenths % 10)

def formatSize (bytes : Nat) : String :=
  match sizeUnits.find? (fun unit => unit.1 ≤ bytes) with
  | some (unit, name) => formatTenths (sizeTenths bytes unit) ++ " " ++ name
  | none => toString bytes ++ " B"

/-! ## Durations -/

def twoDigits (n : Nat) : String := if n < 10 then "0" ++ toString n else toString n

/-- A duration of `seconds` and less than a second of `nanos`. -/
def formatDuration (seconds nanos : Nat) : String :=
  let millis := nanos / 1000000
  if 60 ≤ seconds then toString (seconds / 60) ++ "m " ++ toString (seconds % 60) ++ "s"
  else if 0 < seconds then toString seconds ++ "." ++ twoDigits (millis / 10) ++ "s"
  else toString millis ++ "ms"

/-! ## For a reader -/

def nanosPerSecond : Nat := 1000000000

/-- A warning when the package took the place of another. -/
def Package.warnings (p : Package) (palette : Palette) : List String :=
  if p.replaced then [palette.warning ("Replaced existing package " ++ p.path.text)] else []

/-- The checksum and where it is, when one was written. -/
def Package.checksumLines (p : Package) (palette : Palette) : List String :=
  match p.sha256, p.checksumPath with
  | some sha256, some path =>
    [palette.stat "SHA-256" (sha256.short?.getD sha256.digits), palette.stat "Checksum" path.text]
  | _, _ => []

/-- The lines about a release that took `elapsed` nanoseconds. -/
def Report.summary (r : Report) (palette : Palette) (elapsed : Nat) : List String :=
  r.smokeTests.map (fun outcome => palette.info ("Smoke test passed: " ++ outcome.test.name))
    ++ [palette.success ("Released fxml " ++ r.version ++ " for "
          ++ (Platform.mk r.platform r.arch).qualifier),
        palette.stat "Binary" r.artifact.text,
        palette.stat "Package" r.package.path.text,
        palette.stat "Size" (formatSize r.package.size)]
    ++ r.package.checksumLines palette
    ++ [palette.stat "Elapsed"
          (formatDuration (elapsed / nanosPerSecond) (elapsed % nanosPerSecond))]

/-! ## For a program -/

def JsonValue.ofOption {α : Type} (f : α → JsonValue) : Option α → JsonValue
  | none => .null
  | some a => f a

def Package.toJson (p : Package) : JsonValue :=
  .members [
    ("name", .text p.name),
    ("path", .text p.path.text),
    ("size", .int p.size),
    ("sha256", .ofOption (.text ·.digits) p.sha256),
    ("checksum_path", .ofOption (.text ·.text) p.checksumPath),
    ("replaced", .bool p.replaced)]

def SmokeTestOutcome.toJson (o : SmokeTestOutcome) : JsonValue :=
  .members [
    ("test", .text o.test.name),
    ("passed", .bool o.passed),
    ("exit_code", .ofOption .int o.exitCode),
    ("stdout", .text o.stdout),
    ("stderr", .text o.stderr)]

def Report.toJson (r : Report) : JsonValue :=
  .members [
    ("version", .text r.version),
    ("arch", .text r.arch.name),
    ("platform", .text r.platform.name),
    ("artifact", .text r.artifact.text),
    ("package", r.package.toJson),
    ("smoke_tests", .list (r.smokeTests.map SmokeTestOutcome.toJson))]

end Slipway
