import Slipway.Path
import Slipway.Text.Basic
import Slipway.Text.Utf8

/-!
# Invocations

A program with its arguments and input, the variables it is started with, and what it reported when
it ended.
-/

namespace Slipway

abbrev Environment := List (String × String)

namespace Environment

def get? (env : Environment) (name : String) : Option String := env.lookup name

/-- The value of a variable. An empty one counts as unset. -/
def getNonempty? (env : Environment) (name : String) : Option String :=
  (env.get? name).filter (fun value => !value.isEmpty)

def unset (env : Environment) (name : String) : Environment := env.filter (·.1 ≠ name)

def set (env : Environment) (name value : String) : Environment :=
  env.unset name ++ [(name, value)]

end Environment

/-- Without `input` the program's standard input is empty. -/
structure Invocation where
  program : Path
  args : List String := []
  input : Option Bytes := none
  deriving DecidableEq

namespace Invocation

def addArg (i : Invocation) (arg : String) : Invocation := { i with args := i.args ++ [arg] }

def addArgs (i : Invocation) (more : List String) : Invocation := { i with args := i.args ++ more }

def feed (i : Invocation) (input : Bytes) : Invocation := { i with input := some input }

def hasArg (i : Invocation) (arg : String) : Bool := i.args.contains arg

/-- What follows `beginning` in the first argument that starts with it. -/
def argValue? (i : Invocation) (beginning : String) : Option String :=
  i.args.findSome? (afterBeginning? beginning)

/-- Program and arguments with a space between each two, nothing quoted. -/
def commandLine (i : Invocation) : String :=
  i.args.foldl (fun line arg => line ++ " " ++ arg) i.program.text

end Invocation

/-- What a finished process reported. There is no exit code when a signal ended it. -/
structure ProcessOutput where
  code : Option Int := none
  stdout : Bytes := []
  stderr : Bytes := []
  deriving DecidableEq

namespace ProcessOutput

def success (o : ProcessOutput) : Bool := o.code == some 0

def stdoutText (o : ProcessOutput) : String := Utf8.decodeLossy o.stdout

def stderrText (o : ProcessOutput) : String := Utf8.decodeLossy o.stderr

end ProcessOutput

end Slipway
