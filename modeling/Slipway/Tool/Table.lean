import Slipway.Tool.Archiving.Archiver
import Slipway.Tool.Blocks
import Slipway.Tool.Checks
import Slipway.Tool.Columns
import Slipway.Tool.Comparing
import Slipway.Tool.Compressing
import Slipway.Tool.Dumps
import Slipway.Tool.Editing.Run
import Slipway.Tool.Encodings
import Slipway.Tool.Figures
import Slipway.Tool.Finding
import Slipway.Tool.Joining
import Slipway.Tool.Names
import Slipway.Tool.Pages
import Slipway.Tool.Paragraphs
import Slipway.Tool.Pieces
import Slipway.Tool.Placing
import Slipway.Tool.Searching
import Slipway.Tool.Sorting
import Slipway.Tool.Speaking
import Slipway.Tool.Streams
import Slipway.Tool.Sums
import Slipway.Tool.Translation
import Slipway.Records.Start
import Slipway.Shell.Start

/-!
# The programs of the system

Every program by its name, and how a process becomes one of them and ends with its code.
-/

namespace Slipway.Tool

open Shell

/-- A program works with its arguments, its name not among them, and ends with a code. Some
programs start others, which is left to the runner. -/
abbrev Program := Shell.Runner → List Text → Eval Nat

/-- A program that starts no other. -/
def alone (program : List Text → Eval Nat) : Program := fun _ => program

def programs : List (String × Program) := [
  ("[", alone bracket), ("awk", Records.start), ("mawk", Records.start), ("nawk", Records.start),
  ("arch", alone (tells "x86_64")), ("b2sum", alone b2sum),
  ("base32", alone base32), ("base64", alone base64), ("basename", alone basename),
  ("cat", alone cat), ("chgrp", alone chgrp), ("chmod", alone chmod), ("chown", alone chown),
  ("cksum", alone cksum), ("cmp", alone cmp), ("comm", alone comm), ("cp", alone cp),
  ("csplit", alone csplit), ("cut", alone cut), ("date", alone date), ("dd", alone dd),
  ("diff", alone diff), ("dirname", alone dirname), ("echo", alone echo),
  ("egrep", alone (searchWith .extended)), ("env", env), ("expand", alone expand),
  ("expr", alone expr), ("factor", alone factor), ("false", alone (fun _ => pure 1)),
  ("fgrep", alone (searchWith .fixed)), ("find", find), ("fmt", alone fmt), ("fold", alone fold),
  ("getopt", alone getopt), ("grep", alone (searchWith .basic)), ("groups", alone (tells "root")),
  ("gunzip", alone (gzipWith ["-d".toList])), ("gzip", alone (gzipWith [])),
  ("head", alone head), ("hostname", alone (tells "localhost")), ("id", alone identity),
  ("install", alone install), ("join", alone join), ("link", alone link), ("ln", alone ln),
  ("logname", alone logname), ("ls", alone ls), ("md5sum", alone (digestSum md5Kind)),
  ("mkdir", alone mkdir), ("mktemp", alone mktemp), ("mv", alone mv), ("nice", nice),
  ("nl", alone nl), ("nohup", nohup), ("nproc", alone nproc), ("numfmt", alone numfmt),
  ("od", alone od), ("paste", alone paste), ("pathchk", alone pathchk), ("pr", alone pr),
  ("printenv", alone printenv), ("printf", alone printf), ("pwd", alone pwd),
  ("readlink", alone readlink), ("realpath", alone realpath), ("rev", alone rev), ("rm", alone rm),
  ("rmdir", alone rmdir), ("run-parts", runParts), ("sed", alone sed), ("seq", alone seq),
  ("setsid", setsid), ("sha1sum", alone (digestSum sha1Kind)),
  ("sha224sum", alone (digestSum sha224Kind)), ("sha256sum", alone (digestSum sha256Kind)),
  ("sha384sum", alone (digestSum sha384Kind)), ("sha512sum", alone (digestSum sha512Kind)),
  ("shuf", alone shuf), ("sleep", sleep), ("sort", alone sort), ("split", alone split),
  ("stat", alone stat), ("sum", alone oldSums), ("sync", alone (fun _ => pure 0)),
  ("tac", alone tac), ("tail", alone tail), ("tar", alone tar), ("tee", alone tee),
  ("test", alone testCondition),
  ("timeout", timeout), ("touch", alone touch), ("tr", alone tr), ("true", alone (fun _ => pure 0)),
  ("truncate", alone truncate), ("tsort", alone tsort), ("tty", alone tty), ("uname", alone uname),
  ("unexpand", alone unexpand), ("uniq", alone uniq), ("unlink", alone unlink), ("wc", alone wc),
  ("which", alone which), ("whoami", alone (tells "root")), ("xargs", xargs), ("yes", alone yes),
  ("zcat", alone (gzipWith ["-cd".toList]))]

/-- Runs a program to its end and writes what it left unwritten. -/
def runToEnd (program : List Text → Eval Nat) (args : List Text) : Eval Unit := do
  let code ← program args
  match ← flush with
  | .ok () => setStatus code
  | .error e => do
    say ("write error: " ++ errorText e)
    setStatus 1
  throw .gone

/-- Becomes a program of the system. -/
def becomeProgram (r : Shell.Runner) (program : Program) (environment : List (Text × Text))
    (file name : Text) (args : List Text) : Eval Unit := do
  modifySelf (·.becoming file (name :: args) (exportedBindings environment))
  runToEnd (program r) args

end Slipway.Tool
