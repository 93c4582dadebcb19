import Slipway.Console.Arguments
import Slipway.Console.Log
import Slipway.Console.Summary
import Slipway.Release.Pipeline
import Slipway.Text.Basic

/-!
# The command

One run of the program: arguments and environment in, lines and an exit status out. The
architecture is checked first, so that a wrong one fails before anything is looked for.
-/

namespace Slipway

/-! ## Chains of causes

An error and its causes on one line. Most errors embed their cause's text at their end, so a
message that the one before it ends with is left out.
-/

/-- The messages that are shown, the latest first. -/
def keepMessage (kept : List String) (message : String) : List String :=
  match kept with
  | [] => [message]
  | last :: _ => if endsWith last message then kept else message :: kept

def keptMessages (messages : List String) : List String :=
  (messages.foldl keepMessage []).reverse

/-- The line for an error whose messages are `messages`, outermost first. -/
def errorChain (messages : List String) : String :=
  String.intercalate ": " (keptMessages messages)

/-! ## Results -/

def programVersion : String := "0.3.0"

inductive ExitStatus
  | success
  | failure
  /-- The arguments make no sense. -/
  | usage
  deriving DecidableEq

def ExitStatus.code : ExitStatus → Nat
  | success => 0
  | failure => 1
  | usage => 2

/-! ## Failures -/

/-- Why a run fails: before its release could begin, or by its release. -/
inductive RunError
  | setup (e : SetupError)
  | release (arch : Arch) (e : ReleaseError)
  deriving DecidableEq

/-- The messages of the error and its causes, outermost first. -/
def RunError.causes : RunError → List String
  | setup e => (ReleaseError.setup e).causes
  | release arch e => ("Release for " ++ arch.name ++ " failed") :: e.causes

/-! ## Runs -/

/-- Where and with what the release is made. -/
def configure (env : Environment) (request : ReleaseRequest) :
    Stage SetupError (Settings × Path) := do
  let root ← resolveRoot env request.root
  let settings ← Settings.fromRoot root
  let settings := { settings with
    collision := if request.force then .overwrite else .fail
    checksum := request.checksum }
  let toolchain ← resolveToolchain env request.toolchain
  Stage.note (.resolvedConfiguration settings.root toolchain)
  pure (settings, toolchain)

def releaseFor (env : Environment) (host : Host) (request : ReleaseRequest) :
    Stage RunError Report := do
  let arch ← (Stage.ofExcept (selectArch request.arch)).orElse RunError.setup
  let (settings, toolchain) ← (configure env request).orElse RunError.setup
  (release settings toolchain host arch).orElse (RunError.release arch)

def printAll (lines : List String) : Program Unit :=
  lines.forM (fun line => Program.perform (.print line))

def complainAll (lines : List String) : Program Unit :=
  lines.forM (fun line => Program.perform (.complain line))

/-- Shows a report in the format that was asked for. -/
def tellReport (palette : Palette) (format : OutputFormat) (elapsed : Nat) (report : Report) :
    Program Unit :=
  match format with
  | .json => printAll [report.toJson.pretty]
  | .text => do
    complainAll (report.package.warnings palette)
    printAll (report.summary palette elapsed)

def runRequest (env : Environment) (host : Host) (request : ReleaseRequest) :
    Program ExitStatus := do
  let palette := Palette.ofEnvironment env
  let began ← Program.perform .clock
  match ← (releaseFor env host request).run with
  | .ok report =>
    let ended ← Program.perform .clock
    tellReport palette request.output (ended - began) report
    pure .success
  | .error e =>
    complainAll [palette.error (errorChain e.causes)]
    pure .failure

/-- Reads the arguments and does what they ask for. -/
def command (env : Environment) (host : Host) (arguments : List String) : Program ExitStatus :=
  match ReleaseRequest.ofArguments arguments with
  | .ok request =>
    let filter := LogFilter.choose env request.verbose
    (runRequest env host request).logged filter
  | .error .helpWanted => do
    printAll (helpLines.map (Piece.joined env.stylesUsage))
    pure .success
  | .error .versionWanted => do
    printAll [programName ++ " " ++ programVersion]
    pure .success
  | .error (.mistake e) => do
    let pieces := [⟨.alarm, "error:"⟩, ⟨.plain, " "⟩] ++ e.pieces
    complainAll [Piece.joined env.stylesUsage pieces, "", "For more information, try '--help'."]
    pure .usage

end Slipway
