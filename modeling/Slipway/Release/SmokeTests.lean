import Slipway.Release.Build

/-!
# Smoke tests

The built binary is run as a black box. It has to bring valid input into its normal form, and to
end without success on malformed input in strict mode.
-/

namespace Slipway

/-- Valid input, and exactly what has to come out. -/
def formatInput : String := "<tag/>"
def formatExpected : String := "<tag />"

def strictFlag : String := "--strict"
def malformedInput : String := "<invalid xml..."

def formatInvocation (binary : Path) : Invocation :=
  { program := binary, input := some (Utf8.encode formatInput) }

def strictInvocation (binary : Path) : Invocation :=
  { program := binary, args := [strictFlag], input := some (Utf8.encode malformedInput) }

/-- What a passed test saw. -/
def passedOutcome (test : SmokeTest) (output : ProcessOutput) : SmokeTestOutcome where
  test := test
  passed := true
  exitCode := output.code
  stdout := output.stdoutText
  stderr := output.stderrText

/-- Whether the first test accepts what the binary reported. -/
def judgeFormat (binary : Path) (output : ProcessOutput) : Except VerificationError Unit :=
  if !output.success then
    .error (.formatFailed binary output.code (trimBlanks output.stderrText))
  else if output.stdoutText ≠ formatExpected then
    .error (.unexpectedOutput binary formatExpected output.stdoutText)
  else .ok ()

/-- A code other than zero is what the second test wants, and so is an end by a signal. -/
def judgeStrict (binary : Path) (output : ProcessOutput) : Except VerificationError Unit :=
  if output.success then .error (.strictModeAccepted binary) else .ok ()

def runFormatTest (binary : Path) : Stage VerificationError SmokeTestOutcome := do
  Stage.note (.runningSmokeTest .format)
  let output ← (launch (formatInvocation binary)).orElse (VerificationError.spawn .format binary)
  Stage.ofExcept (judgeFormat binary output)
  pure (passedOutcome .format output)

def runStrictTest (binary : Path) : Stage VerificationError SmokeTestOutcome := do
  Stage.note (.runningSmokeTest .strictExitCode)
  let output ← (launch (strictInvocation binary)).orElse
    (VerificationError.spawn .strictExitCode binary)
  Stage.ofExcept (judgeStrict binary output)
  Stage.note (.strictModeRejected output.code)
  pure (passedOutcome .strictExitCode output)

/-- Runs both tests in order and stops at the first that fails. -/
def verify (artifact : Artifact) : Stage VerificationError VerifiedArtifact := do
  Stage.note (.testing artifact.path)
  let format ← runFormatTest artifact.path
  let strict ← runStrictTest artifact.path
  let outcomes := [format, strict]
  Stage.note (.smokeTestsPassed outcomes.length)
  pure ⟨artifact, outcomes⟩

end Slipway
