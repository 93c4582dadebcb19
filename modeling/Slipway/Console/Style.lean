import Slipway.Console.Terminal
import Slipway.Invocation
import Slipway.Text.Basic

/-!
# Symbols and colours

Each kind of line for the user starts with its own symbol, and colours set it off where they are
wanted. The environment decides whether they are.
-/

namespace Slipway

/-! ## Symbols -/

def successSymbol : String := "✓"
def errorSymbol : String := "✗"
def warningSymbol : String := "⚠"
def infoSymbol : String := "•"

/-! ## Colours -/

/-- How a piece of text is set off. -/
inductive Emphasis
  | green
  | red
  | yellow
  | blue
  | dimmed
  deriving DecidableEq

/-- The codes that a terminal takes before and after the text. -/
def Emphasis.codes : Emphasis → Nat × Nat
  | .green => (32, 39)
  | .red => (31, 39)
  | .yellow => (33, 39)
  | .blue => (34, 39)
  | .dimmed => (2, 0)

/-! ## Whether colours are wanted -/

namespace Environment

/-- Whether a variable is set to anything but `0`. -/
def isOn (env : Environment) (name : String) : Bool :=
  match env.get? name with
  | some value => value ≠ "0"
  | none => false

def isSet (env : Environment) (name : String) : Bool := (env.get? name).isSome

/-- `FORCE_COLOR` asks for colours unless it is `false` or a number without a value. Without it
`CLICOLOR_FORCE` asks for them. -/
def forcesColours (env : Environment) : Bool :=
  match env.get? "FORCE_COLOR" with
  | some choice => choice ≠ "false" && readWord? 10 choice ≠ some 0
  | none => env.isOn "CLICOLOR_FORCE"

/-- Whether colours are ruled out where nothing forces them. No stream of the program is a terminal,
but one may be taken for a terminal. -/
def forbidsColours (env : Environment) : Bool :=
  env.isOn "NO_COLOR" || env.get? "TERM" = some "dumb" || !env.isOn "IGNORE_IS_TERMINAL"

/-- The variables by which build services make themselves known. -/
def serviceVariables : List String :=
  ["CI_NAME", "GITHUB_ACTION", "GITLAB_CI", "NETLIFY", "TRAVIS", "CODEBUILD_SRC_DIR",
    "BUILDER_OUTPUT", "GITLAB_DEPLOYMENT", "NOW_GITHUB_DEPLOYMENT", "NOW_BUILDER",
    "BITBUCKET_DEPLOYMENT", "GERRIT_PROJECT", "SYSTEM_TEAMFOUNDATIONCOLLECTIONURI", "BITRISE_IO",
    "BUDDY_WORKSPACE_ID", "BUILDKITE", "CIRRUS_CI", "APPVEYOR", "CIRCLECI", "SEMAPHORE", "DRONE",
    "DSARI", "TDDIUM", "STRIDER", "TASKCLUSTER_ROOT_URL", "JENKINS_URL", "bamboo.buildKey",
    "GO_PIPELINE_NAME", "HUDSON_URL", "WERCKER", "NEVERCODE", "RENDER", "SAIL_CI", "SHIPPABLE"]

/-- Whether the run is one of a build service. -/
def isOfService (env : Environment) : Bool :=
  (match env.get? "CI" with
    | some value => ["true", "1", "woodpecker"].contains value
    | none => false)
  || serviceVariables.any env.isSet
  || (match env.get? "NODE" with
    | some path => endsWith path "//heroku/node/bin/node"
    | none => false)

/-- Whether anything tells that the terminal shows colours. A kind of terminal that shows none is
ruled out before. -/
def tellsColours (env : Environment) : Bool :=
  env.isSet "COLORTERM"
  || env.isSet "TERM"
  || (match env.get? "TERM_PROGRAM" with
    | some program => ["iTerm.app", "Apple_Terminal"].contains program
    | none => false)
  || env.isOn "CLICOLOR" || env.isOfService

/-- Whether the text about the command line is set off, which has a rule of its own: nothing but
`NO_COLOR` and `CLICOLOR_FORCE` matters, and they count when they are not empty. -/
def stylesUsage (env : Environment) : Bool :=
  (env.getNonempty? "NO_COLOR").isNone && (env.getNonempty? "CLICOLOR_FORCE").isSome

/-- The variables that decide about colours. -/
def colourVariables : List String :=
  ["FORCE_COLOR", "CLICOLOR_FORCE", "NO_COLOR", "TERM", "IGNORE_IS_TERMINAL", "COLORTERM",
    "TERM_PROGRAM", "CLICOLOR", "CI", "NODE"] ++ serviceVariables

end Environment

/-- Whether text is set off at all. -/
structure Palette where
  coloured : Bool
  deriving DecidableEq

namespace Palette

def ofEnvironment (env : Environment) : Palette where
  coloured := env.forcesColours || (!env.forbidsColours && env.tellsColours)

def paint (p : Palette) (emphasis : Emphasis) (text : String) : String :=
  if p.coloured then
    terminalCode emphasis.codes.1 ++ text ++ terminalCode emphasis.codes.2
  else text

/-! ## Lines -/

def success (p : Palette) (text : String) : String := p.paint .green successSymbol ++ " " ++ text

def info (p : Palette) (text : String) : String := p.paint .blue infoSymbol ++ " " ++ text

def error (p : Palette) (text : String) : String :=
  p.paint .red errorSymbol ++ " " ++ p.paint .red text

def warning (p : Palette) (text : String) : String :=
  p.paint .yellow warningSymbol ++ " " ++ p.paint .yellow text

def stat (p : Palette) (label value : String) : String :=
  "  " ++ p.paint .dimmed label ++ ": " ++ value

end Palette

end Slipway
