import Slipway.Calendar.Format
import Slipway.Tool.Making

/-!
# Programs about the system

Who and where one is, what time it is, and what the environment holds.
-/

namespace Slipway.Tool

open Shell

/-! ## The environment -/

def printEnvironment (environment : List (Text × Text)) (mark : Char) : Eval Unit :=
  environment.forM (fun (name, value) => print (name ++ '=' :: value ++ [mark]))

def printenv (args : List Text) : Eval Nat :=
  withArguments [flag '0' "null"] args (fun a => do
    let environment := environmentOf (← self)
    let mark := if a.has "null" then '\x00' else '\n'
    if a.operands.isEmpty then
      printEnvironment environment mark
      pure 0
    else
      forEach a.operands fun name => do
        match environment.lookup name with
        | some value => do
          print (value ++ [mark])
          pure true
        | none => pure false) false 2

/-! ## The user -/

def identity (args : List Text) : Eval Nat :=
  withArguments [flag 'u' "user", flag 'g' "group", flag 'G' "groups", flag 'n' "name", flag 'r' "real",
      flag 'a', flag 'Z' "context", flag 'z' "zero"] args fun a => do
    let others := a.operands.filter (fun name => name ≠ "root".toList ∧ name ≠ ['0'])
    others.forM (fun name => say (emphasized name ++ ": no such user"))
    if others.isEmpty then
      if a.has "user" ∨ a.has "group" ∨ a.has "groups" then
        printLine (if a.has "name" then "root" else "0").toList
      else if a.has "name" ∨ a.has "real" then
        say "printing only names or real IDs requires -u, -g, or -G"
        return 1
      else printLine "uid=0(root) gid=0(root) groups=0(root)".toList
    pure (if others.isEmpty then 0 else 1)

/-- A program that tells one thing and takes no operands. -/
def tells (text : String) (args : List Text) : Eval Nat :=
  withArguments [] args fun a => do
    match a.operands with
    | [] => do
      printLine text.toList
      pure 0
    | extra :: _ => extraOperand extra

def logname (args : List Text) : Eval Nat :=
  withArguments [] args fun a => do
    match a.operands with
    | [] => do
      say "no login name"
      pure 1
    | extra :: _ => extraOperand extra

def tty (args : List Text) : Eval Nat :=
  withArguments [flag 's' "silent", longFlag "quiet"] args (fun a => do
    if !a.has "silent" ∧ !a.has "quiet" then printLine "not a tty".toList
    pure 1) true 2

/-! ## The machine -/

def uname (args : List Text) : Eval Nat :=
  withArguments [flag 'a' "all", flag 's' "kernel-name", flag 'n' "nodename", flag 'r' "kernel-release",
      flag 'v' "kernel-version", flag 'm' "machine", flag 'p' "processor",
      flag 'i' "hardware-platform", flag 'o' "operating-system"] args fun a => do
    match a.operands with
    | extra :: _ => extraOperand extra
    | [] => do
      let parts := [("kernel-name", "Linux"), ("nodename", "localhost"), ("kernel-release", "6.1.0"),
        ("kernel-version", "#1 SMP"), ("machine", "x86_64"), ("processor", "x86_64"),
        ("hardware-platform", "x86_64"), ("operating-system", "GNU/Linux")]
      let chosen := if a.options.isEmpty then parts.take 1
        else parts.filter (fun part => a.has "all" || a.has part.1)
      printLine (String.intercalate " " (chosen.map (·.2))).toList
      pure 0

def nproc (args : List Text) : Eval Nat :=
  withArguments [longFlag "all", longFlag "ignore" .value] args fun _ => do
    printLine ['1']
    pure 0

/-! ## Time -/

def dateFlags : List Flag := [
  setting 'd' "date", setting 'f' "file", { letter := some 'I', word := "iso-8601", takes := .optional },
  setting 'r' "reference", flag 'R' "rfc-email", longFlag "rfc-3339" .value, setting 's' "set",
  flag 'u' "utc", longFlag "universal", longFlag "rfc-2822", longFlag "debug"]

/-- The format of a date to the given precision. -/
def isoFormat (joint precision : String) : String :=
  match precision with
  | "hours" => "%Y-%m-%d" ++ joint ++ "%H%:z"
  | "minutes" => "%Y-%m-%d" ++ joint ++ "%H:%M%:z"
  | "seconds" => "%Y-%m-%d" ++ joint ++ "%H:%M:%S%:z"
  | "ns" => "%Y-%m-%d" ++ joint ++ "%H:%M:%S,%N%:z"
  | _ => "%Y-%m-%d"

def date (args : List Text) : Eval Nat :=
  withArguments dateFlags args fun a => do
    let now := (← get).machine.now
    let time : Except String (Int × Nat) ← match a.value? "date", a.value? "reference" with
      | some text, _ => pure (match readDate? now text with
        | some time => .ok time
        | none => .error ("invalid date " ++ emphasized text))
      | none, some path => do
        match ← modifiedAt path with
        | .ok time => pure (.ok (time, 0))
        | .error e => pure (.error (shown path ++ ": " ++ errorText e))
      | none, none => pure (.ok (now, 0))
    let usual := match a.lastOf ["iso-8601", "rfc-email", "rfc-2822", "rfc-3339"] with
      | some "iso-8601" => isoFormat "T" (String.ofList ((a.value? "iso-8601").getD []))
      | some "rfc-3339" => isoFormat " " (String.ofList ((a.value? "rfc-3339").getD []))
      | some _ => "%a, %d %b %Y %H:%M:%S %z"
      | none => "%a %b %e %H:%M:%S %Z %Y"
    let given : Except (Eval Nat) Text := match a.operands with
      | [] => .ok usual.toList
      | [first] =>
        if first.head? = some '+' then .ok (first.drop 1)
        else .error (do
          say ("invalid date " ++ emphasized first)
          pure 1)
      | _ :: extra :: _ => .error (extraOperand extra)
    match given, time with
    | .error refuse, _ => refuse
    | _, .error text => do
      say text
      pure 1
    | .ok template, .ok (seconds, nanoseconds) => do
      printLine ((Moment.ofSeconds seconds).format nanoseconds template)
      pure 0

/-- Whether a text is a length of time. -/
def isInterval (text : Text) : Bool :=
  let number := match text.getLast? with
    | some c => if "smhd".toList.contains c then text.dropLast else text
    | none => []
  match number.splitOn '.' with
  | [whole] => (decimal? whole).isSome || whole = "inf".toList || whole = "infinity".toList
  | [whole, part] => (whole ++ part).all isDigitChar && !(whole ++ part).isEmpty
  | _ => false

/-- Time does not pass, but whoever runs in the background gets on. -/
def sleep (r : Shell.Runner) (args : List Text) : Eval Nat :=
  withArguments [] args fun a => do
    let wrong := a.operands.filter (fun text => !isInterval text)
    if a.operands.isEmpty then missingOperand
    else if wrong.isEmpty then do
      r.catchUp
      pure 0
    else do
      wrong.forM (fun text => say ("invalid time interval " ++ emphasized text))
      recommendHelp
      pure 1

end Slipway.Tool
