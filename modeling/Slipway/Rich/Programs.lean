import Slipway.Rich.Condition
import Slipway.Shell.Simple

/-!
# Commands of rich scripts and what they stand for

A name stands for a function, a builtin or a program. Programs are looked for in the directories of
the search path, and the shell remembers where it found them.
-/

namespace Slipway.Rich

open Shell (Text Eval self modifySelf setStatus attempt naturalText complain)

/-- The builtins, in the order of their names. -/
def builtinNames : List String := [
  ".", ":", "[", "alias", "bg", "bind", "break", "builtin", "caller", "cd", "command", "compgen",
  "complete", "compopt", "continue", "declare", "dirs", "disown", "echo", "enable", "eval", "exec",
  "exit", "export", "false", "fc", "fg", "getopts", "hash", "help", "history", "jobs", "kill", "let",
  "local", "logout", "mapfile", "popd", "printf", "pushd", "pwd", "read", "readarray", "readonly",
  "return", "set", "shift", "shopt", "source", "suspend", "test", "times", "trap", "true", "type",
  "typeset", "ulimit", "umask", "unalias", "unset", "wait"]

def Context.hasBuiltin (c : Context) (name : Text) : Bool :=
  builtinNames.contains (String.ofList name) && !c.disabled.contains name

inductive Found
  | function (definition : Definition)
  | builtin
  /-- A program and its path. -/
  | program (path : Text)
  | missing

def searchPath : Eval Text := return (← text? "PATH").getD []

/-- The first of some paths that leads to a program, or to a file that is none. -/
def firstFile (m : Machine) (places : List Text) : Option Text :=
  let isFile (test : Node → Bool) (place : Text) : Bool :=
    m.files.satisfies m.directory (Shell.pathOf place) (fun node => node.isRegular && test node)
  (places.find? (isFile FileSystem.isExecutableNode)).orElse fun _ =>
    places.find? (isFile (fun _ => true))

/-- Looks for a program and remembers where it is. -/
def findProgram (path name : Text) (remembers : Bool := true) : Eval Found := do
  match firstFile (← get).machine (Shell.placesOf path name) with
  | some place => do
    if remembers then
      modifyContext (fun c => { c with found := (name, place, 0) :: c.found.filter (·.1 ≠ name) })
    pure (.program place)
  | none => pure .missing

/-- What a name stands for. A search path that is given is not remembered from before. -/
def findCommand (withFunctions withBuiltins : Bool) (path : Option Text) (name : Text) :
    Eval Found := do
  let c ← context
  let function := if withFunctions then c.functions.lookup name else none
  match function with
  | some definition => pure (.function definition)
  | none =>
    if withBuiltins ∧ c.hasBuiltin name then pure .builtin
    else if name.contains '/' then pure (.program name)
    else
      match path, c.found.lookup name with
      | none, some (place, _) => pure (.program place)
      | none, none => do findProgram (← searchPath) name
      | some path, _ => findProgram path name false

/-- Counts that a program was used. -/
def countUse (name : Text) : Eval Unit :=
  modifyContext (fun c => { c with
    found := c.found.map (fun e => if e.1 = name then (name, e.2.1, e.2.2 + 1) else e) })

/-! ## Starting programs -/

section

variable (r : Shell.Runner)

/-- Becomes a program, or tells why that cannot be. A file without an interpreter is a script for
the shell. -/
def becomeFile (place : Text) (args : List Text) (environment : List (Text × Text)) :
    Eval Unit := do
  let m := (← get).machine
  let path := Shell.pathOf place
  let refused (message : String) (status : Nat) : Eval Unit := do
    setStatus status
    warn (Text.toString place ++ ": " ++ message)
    throw .finished
  match m.image Machine.maxScripts path (args.map Text.toBytes) with
  | .ok image => do
    r.become image environment
    throw .gone
  | .error e =>
    let content : Option Bytes := match m.files.findNode m.directory path with
      | .ok (_, .file data) => some data.content
      | _ => none
    match e with
    | .badExecutable =>
      let bytes := content.getD []
      if (bytes.takeWhile (· ≠ 10)).contains 0 then
        refused "cannot execute binary file: Exec format error" 126
      else do
        r.become ⟨"bash", Utf8.encode "/bin/bash" :: place.toBytes :: (args.drop 1).map Text.toBytes,
          "bash"⟩ environment
        throw .gone
    | .noEntry =>
      if content.isSome then refused "cannot execute: required file not found" 127
      else refused "No such file or directory" 127
    | e =>
      refused (if isDirectory m place then "Is a directory" else Shell.errorText e) 126

/-- What programs get of the functions. -/
def Context.passedFunctions (c : Context) : List (Text × Text) :=
  (inBuckets (c.functions.filter (·.2.exported))).map fun (name, f) =>
    ("BASH_FUNC_".toList ++ name ++ "%%".toList, Printer.passedText f.body)

/-- The variables as a program gets them that takes the place of the shell. -/
def Context.environmentBelow (c : Context) : List (Text × Text) :=
  c.environment.map fun (name, value) =>
    if name = "SHLVL".toList then
      (name, Shell.textOfInt (((Shell.number? 10 value).getD 1) - 1))
    else (name, value)

/-- The environment of a program that is started from a path, in place of the shell or not. -/
def environmentFor (path : Text) (inPlace : Bool) : Eval (List (Text × Text)) := do
  let c ← context
  let passed := if inPlace then c.environmentBelow else c.environment
  pure (passed.filter (·.1 ≠ ['_']) ++ c.passedFunctions ++ [(['_'], path)])

/-- A text that is filled up to a width in front. -/
def rightAligned (width : Nat) (text : Text) : Text :=
  List.replicate (width - text.length) ' ' ++ text

/-- Tells of a child that a signal ended. -/
def announce (ending : Shell.Ending) (command : Text) (number : Nat) : Eval Unit := do
  match ending with
  | .signal n =>
    if n = 2 ∨ n = 13 ∨ (← context).isCaptured then pure ()
    else
      let words := Shell.signalTexts.getD (n - 1) ("Unknown signal " ++ toString n)
      let p ← self
      if n = 15 ∨ (p.traps.lookup n).isSome then complain (words ++ "\n")
      else
        complain (Text.toString (sourceName p) ++ ": line " ++ toString (max 1 p.line) ++ ": "
          ++ Text.toString (rightAligned 5 (Shell.naturalText number)) ++ " "
          ++ Shell.upToColumn 24 words ++ Text.toString command ++ "\n")
  | .code _ => pure ()

/-- Runs something in a copy of the shell, and gives the status of its end. -/
def waitForChild (command : Text) (body : Eval Unit) (isDeeper : Bool := true) : Eval Nat := do
  let number := (← get).nextProcess
  let ending ← inCopy body isDeeper
  announce ending command number
  pure ending.status

/-- Runs a program that was found, or tells that there is none. The shell becomes it if nothing
comes behind. -/
def runProgram (flags : Shell.Flags) (found : Found) (args : List Text) : Eval Nat := do
  let name := args.headD []
  let body : Eval Unit := do
    match found with
    | .program place => do
      let environment ← environmentFor place (flags.last && !flags.isStage)
      becomeFile r place args environment
    | _ => do
      match (← context).functions.lookup "command_not_found_handle".toList with
      | some definition => do
        modifySelf (fun p => { p with args })
        let status ← r.runRich definition.body { tested := flags.tested }
        setStatus status
        throw .finished
      | none => do
        setStatus 127
        warn (Text.toString (if hasHidden name then escapeQuoted name else name)
          ++ ": command not found")
        throw .finished
  let p ← self
  if flags.last ∧ p.traps.all (·.2.isEmpty) ∧ (← context).partners.isEmpty then
    body
    pure 0
  else
    let shown := ((← context).command.map Printer.lineText).getD (List.intercalate [' '] args)
    waitForChild shown body false

end

end Slipway.Rich
