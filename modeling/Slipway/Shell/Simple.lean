import Slipway.Shell.Builtin.Control
import Slipway.Shell.Builtin.Directories
import Slipway.Shell.Builtin.Lookup
import Slipway.Shell.Builtin.Parameters
import Slipway.Shell.Expansion

/-!
# Simple commands

Assignments, redirections and words: what the first word stands for is looked up and run. To
redirect is to have descriptors lead somewhere else; all words are expanded before anything is
opened.
-/

namespace Slipway.Shell

/-! ## Redirections -/

/-- Where a descriptor is to lead. -/
inductive Target
  | file (opening : Opening) (name : Text)
  | copy (descriptor : Nat)
  | closed
  | document (word : Word)

/-- A file is opened in this way for output, depending on what is there. -/
def openingForOutput (name : Text) : Eval Opening := do
  if !(← self).has "noclobber" then pure .write
  else
    match ← findNode (pathOf name) with
    | .ok (_, node) => pure (if node.isRegular then .fresh else .write)
    | .error _ => pure .fresh

namespace Runner

variable (r : Runner)

/-- The descriptor that a word names. -/
def copyTarget (word : Word) : Eval Target := do
  match ← r.expandFields word with
  | [] => fail "redir error"
  | ['-'] :: _ => pure .closed
  | [d] :: _ =>
    if isDigitChar d then pure (.copy (valueOfDigits 10 [d]))
    else fail "Syntax error: Bad fd number"
  | _ => fail "Syntax error: Bad fd number"

def expandRedirect : Redirect → Eval (Nat × Target)
  | .mk descriptor kind word => do
    let target ← match kind with
      | .document => pure (.document word)
      | .copy => r.copyTarget word
      | .input => pure (.file .read (← r.expandText word))
      | .append => pure (.file .append (← r.expandText word))
      | .both => pure (.file .both (← r.expandText word))
      | .replacing => pure (.file .write (← r.expandText word))
      | .output => do
        let name ← r.expandText word
        pure (.file .write name)
    pure (descriptor, target)

def expandRedirects (redirects : List Redirect) : Eval (List (Nat × Target × Bool)) :=
  redirects.mapM fun redirect => do
    let (descriptor, target) ← r.expandRedirect redirect
    let isPlain := match redirect with
      | .mk _ .output _ => true
      | _ => false
    pure (descriptor, target, isPlain)

/-- Has a descriptor lead to its target. A `plain` output keeps files that it must not replace. -/
def redirect (descriptor : Nat) (target : Target) (plain : Bool) : Eval Unit := do
  match target with
  | .closed => modifySelf (·.connect descriptor none)
  | .copy source =>
    match (← get).channel? source with
    | some id => modifySelf (·.connect descriptor (some id))
    | none => fail (toString source ++ ": Bad file descriptor")
  | .document word => do
    let text ← r.textOfParts { quoted := true } word
    let id ← newInput text.toBytes
    modifySelf (·.connect descriptor (some id))
  | .file opening name => do
    let opening ← if plain then openingForOutput name else pure opening
    match ← openFile opening name with
    | .ok id => modifySelf (·.connect descriptor (some id))
    | .error e =>
      let verb := if opening = .read then "open " else "create "
      let missing := if opening = .read then "No such file" else "Directory nonexistent"
      fail ("cannot " ++ verb ++ name.toString ++ ": " ++ fileErrorText missing e)

def redirectAll (targets : List (Nat × Target × Bool)) : Eval Unit :=
  targets.forM fun (descriptor, target, plain) => r.redirect descriptor target plain

/-- Carries out redirections, and tells whether an error came up. -/
def redirectSafely (targets : List (Nat × Target × Bool)) : Eval Bool := do
  match ← attempt (r.redirectAll targets) with
  | .ok () => pure false
  | .error .error => pure true
  | .error stop => throw stop

end Runner

/-! ## Preparing a command -/

/-- The shell is at a line of the script. -/
def startLine (line : Nat) : Eval Unit := modifySelf (fun p => { p with line })

/-- Builtins whose arguments may be assignments, which are not split then. -/
def assigningBuiltins : List String := ["export", "readonly", "local", "alias"]

/-- A simple command with the words that name it expanded. -/
structure Prepared where
  /-- The fields so far, the name of the command first. -/
  fields : List Text
  /-- The words that were not expanded yet. -/
  rest : List Word
  /-- Whether the first builtin that was named is a special one. -/
  isSpecial : Option Bool := none
  /-- Whether assignments only count for the command. -/
  isLocal : Bool := false
  withFunctions : Bool := true
  /-- Another search path. -/
  path : Option Text := none
  isExec : Bool := false
  assigns : Bool := false

def Prepared.name (p : Prepared) : Text := p.fields.headD []

namespace Runner

variable (r : Runner)

/-! ## Looking for the command -/

/-- The fields of the first words that have any. -/
def expandFirst : List Word → Eval (List Text × List Word)
  | [] => pure ([], [])
  | word :: rest => do
    let fields ← r.expandFields word
    if fields.isEmpty then expandFirst rest else pure (fields, rest)

/-- The command behind `command` and its options. Where another option or nothing stands there,
`command` itself is meant; then all fields are given back. -/
def commandBehind : (fuel : Nat) → (path : Option Text) → (seen fields : List Text) →
    (rest : List Word) → Eval (Except Prepared Prepared)
  | 0, _, seen, fields, rest => pure (.error { fields := seen ++ fields, rest })
  | fuel + 1, path, seen, fields, rest => do
    let (fields, rest) ← if fields.isEmpty then r.expandFirst rest else pure (fields, rest)
    let itself : Prepared := { fields := seen ++ fields, rest }
    match fields with
    | [] => pure (.error itself)
    | ['-', '-'] :: more => do
      let (more, rest) ← if more.isEmpty then r.expandFirst rest else pure (more, rest)
      if more.isEmpty then pure (.error itself)
      else pure (.ok { fields := more, rest, path, withFunctions := false })
    | ('-' :: c :: letters) :: more =>
      if (c :: letters).all (· = 'p') then
        commandBehind fuel (some standardPath) (seen ++ ['-' :: c :: letters]) more rest
      else pure (.error itself)
    | fields => pure (.ok { fields, rest, path, withFunctions := false })

/-- Looks through `command` for the command that is meant. -/
def look : (fuel : Nat) → Prepared → Eval Prepared
  | 0, p => pure p
  | fuel + 1, p => do
    match ← findCommand p.withFunctions none p.name with
    | .builtin isSpecial => do
      let name := String.ofList p.name
      let p := { p with
        isSpecial := some (p.isSpecial.getD isSpecial)
        isLocal := p.isSpecial.isSome || !isSpecial
        isExec := name = "exec"
        assigns := assigningBuiltins.contains name }
      if name ≠ "command" then pure p
      else
        match ← r.commandBehind (p.fields.length + p.rest.length + 1) none (p.fields.take 1)
            (p.fields.drop 1) p.rest with
        | .error itself => pure { p with fields := itself.fields, rest := itself.rest }
        | .ok behind => look fuel { behind with isSpecial := p.isSpecial }
    | _ => pure { p with isLocal := true }

/-- Expands the words of a command. -/
def prepare (words : List Word) : Eval Prepared := do
  let (fields, rest) ← r.expandFirst words
  if fields.isEmpty then pure { fields, rest }
  else
    let p ← r.look (words.length + fields.length + 1) { fields, rest }
    let more ← p.rest.mapM fun word =>
      if p.assigns ∧ isAssignment word then do
        let (name, value) ← r.expandAssignment word
        pure [name ++ '=' :: value]
      else r.expandFields word
    pure { p with fields := p.fields ++ more.flatten, rest := [] }

/-! ## Starting programs -/

/-- The program that one of the places leads to, or why there is none. A file that is no program
is taken for a script. -/
def firstImage (m : Machine) (args : List Text) (e : SystemError) :
    List Text → Except SystemError Image
  | [] => .error e
  | place :: rest =>
    match m.image Machine.maxScripts (pathOf place) (args.map Text.toBytes) with
    | .ok image => .ok image
    | .error .badExecutable =>
      .ok ⟨"sh", Utf8.encode "/bin/sh" :: place.toBytes :: (args.drop 1).map Text.toBytes, "sh"⟩
    | .error e' =>
      firstImage m args (if e' = .noEntry ∨ e' = .notDirectory then e else e') rest

/-- Becomes a program, or tells why that cannot be. -/
def exec (path : Text) (index : Option Nat) (args : List Text) : Eval Unit := do
  let name := args.headD []
  let places := match index with
    | some index => (placesOf path name).drop index
    | none => [name]
  match firstImage (← get).machine args .noEntry places with
  | .ok image => do
    r.become image (← self).environment
    throw .gone
  | .error e => do
    let isMissing := e = .noEntry ∨ e = .notDirectory ∨ e = .nameTooLong ∨ e = .tooManyLinks
    setStatus (if isMissing then 127 else 126)
    warn (name.toString ++ ": " ++ fileErrorText "not found" e)
    throw .finished

def execBuiltin (args : List Text) : Eval Nat := do
  match args with
  | [] => pure 0
  | name :: _ => do
    r.exec (searchPath (← self)) (if name.contains '/' then none else some 0) args
    pure 0

/-! ## Builtins that run commands -/

/-- The file of a script that is to be run in this shell. -/
def scriptPlace (name : Text) : Eval Text := do
  if name.contains '/' then pure name
  else
    let m := (← get).machine
    match (placesOf (searchPath (← self)) name).find? (fun place =>
        m.files.satisfies m.directory (pathOf place) Node.isRegular) with
    | some place => pure place
    | none => fail (name.toString ++ ": not found")

def dotBuiltin (args : List Text) : Eval Nat := do
  match ← plainArgs args with
  | [] => pure 0
  | name :: _ => do
    let place ← scriptPlace name
    match ← contentOf place with
    | .error e => fail ("cannot open " ++ place.toString ++ ": " ++ fileErrorText "No such file" e)
    | .ok bytes => do
      modifySelf (fun p => { p with builtin := some place })
      let status ← r.script (Text.ofBytes bytes) { fromFile := true }
      modifySelf (fun p => { p with skip := p.skip.filter (fun skip => match skip with
        | .return _ => false
        | _ => true) })
      pure status

/-- Carries out a builtin. -/
def builtin (flags : Flags) (name : Text) (args : List Text) : Eval Nat :=
  match String.ofList name with
  | "." => r.dotBuiltin args
  | ":" => pure 0
  | "[" => bracketBuiltin args
  | "alias" => aliasBuiltin args
  | "bg" => resumeBuiltin args
  | "break" => skipLoops .leave args
  | "cd" => cdBuiltin args
  | "chdir" => cdBuiltin args
  | "command" => commandBuiltin args
  | "continue" => skipLoops .again args
  | "echo" => echoBuiltin args
  | "eval" => if args.isEmpty then pure 0
    else r.script (List.intercalate [' '] args) { tested := flags.tested }
  | "exec" => r.execBuiltin args
  | "exit" => exitBuiltin args
  | "export" => exportBuiltin args
  | "false" => pure 1
  | "fg" => resumeBuiltin args
  | "getopts" => getoptsBuiltin args
  | "hash" => hashBuiltin args
  | "jobs" => jobsBuiltin args
  | "kill" => killBuiltin args
  | "local" => localBuiltin args
  | "printf" => printfBuiltin args
  | "pwd" => pwdBuiltin args
  | "read" => readBuiltin args
  | "readonly" => readonlyBuiltin args
  | "return" => returnBuiltin args
  | "set" => setBuiltin args
  | "shift" => shiftBuiltin args
  | "test" => testBuiltin args
  | "times" => timesBuiltin args
  | "trap" => trapBuiltin args
  | "true" => pure 0
  | "type" => typeBuiltin args
  | "ulimit" => ulimitBuiltin args
  | "umask" => umaskBuiltin args
  | "unalias" => unaliasBuiltin args
  | "unset" => unsetBuiltin args
  | "wait" => waitBuiltin r args
  | _ => pure 127
where
  /-- Tells what a name stands for; commands behind `command` were looked through before. -/
  commandBuiltin (args : List Text) : Eval Nat := do
    let (options, names) ← readOptions "pvV" args
    let isVerbose := options.any (·.1 = 'V')
    match names with
    | [] => pure 0
    | name :: _ =>
      describe (if options.any (·.1 = 'p') then some standardPath else none) isVerbose name

/-! ## Running what was found -/

/-- Carries out a builtin and writes its output. Its errors end only a special one. -/
def runBuiltin (flags : Flags) (isSpecial : Bool) (name : Text) (args : List Text) : Eval Nat := do
  let outer := (← self).builtin
  modifySelf (fun p => { p with builtin := some name })
  let result ← attempt (do
    let status ← r.builtin flags name args
    match ← flush with
    | .ok () => pure status
    | .error _ => do
      warn (name.toString ++ ": I/O error")
      pure (status ||| 1))
  modifySelf (fun p => { p with builtin := outer, unwritten := [] })
  match result with
  | .ok status => pure status
  | .error .error => if isSpecial then throw .error else return (← self).status
  | .error stop => throw stop

def maxCalls : Nat := 1000

def runFunction (flags : Flags) (f : Function) (args : List Text) : Eval Nat := do
  let before ← self
  if maxCalls ≤ before.calls then
    fail ("Maximum function recursion depth (" ++ toString maxCalls ++ ") reached")
  modifySelf (fun p => { p with
    args, optionPlace := {}, functionLine := f.line, loops := 0, calls := p.calls + 1 })
  ensuring (r.run f.body { tested := flags.tested }) (modifySelf (fun p => { p with
    args := before.args
    optionPlace := before.optionPlace
    functionLine := before.functionLine
    loops := before.loops
    calls := before.calls
    skip := p.skip.filter (fun skip => match skip with
      | .return _ => false
      | _ => true) }))

/-- Whether anything is to be done at a signal or at the end. -/
def Process.hasTraps (p : Process) : Bool := p.traps.any (fun trap => !trap.2.isEmpty)

def runProgram (flags : Flags) (path : Text) (index : Option Nat) (args : List Text) :
    Eval Nat := do
  if flags.last ∧ !(Process.hasTraps (← self)) then
    r.exec path index args
    pure 0
  else
    let _ ← makeRoom
    waitForChild (r.exec path index args)

/-- Runs the command that was prepared. -/
def runPrepared (flags : Flags) (p : Prepared) : Eval Nat := do
  match p.fields with
  | [] => return (← self).outputStatus
  | name :: args =>
    match ← findCommand p.withFunctions p.path name with
    | .builtin _ => r.runBuiltin flags (p.isSpecial.getD false) name args
    | .function f => r.runFunction flags f args
    | .program index =>
      r.runProgram flags (p.path.getD (searchPath (← self))) index (name :: args)
    | .missing e => do
      warn (name.toString ++ ": " ++ fileErrorText "not found" e)
      pure 127

/-! ## Simple commands -/

/-- Shows a command that is about to run. -/
def trace (before : Process) (assigned : List (Text × Text)) (fields : List Text) : Eval Unit := do
  let p ← self
  if p.has "xtrace" then
    let prompt := (p.getText? "PS4").getD []
    let words := assigned.map (fun (name, value) => name ++ '=' :: value) ++ fields
    match before.descriptors.lookup 2 with
    | some id =>
      let _ ← writeTo id (Text.toBytes (prompt ++ List.intercalate [' '] words ++ ['\n']))
    | none => pure ()

/-- Gives variables their values, one after the other, for good or for the command. -/
def assignAll (p : Prepared) (assignments : List Word) : Eval (List (Text × Text)) :=
  assignments.mapM fun word => do
    let (name, value) ← r.expandAssignment word
    if p.isLocal then makeLocal name (some value) true
    else assign name value (p.isExec && 1 < p.fields.length)
    pure (name, value)

/-- Puts variables back as they were when so many frames were there. -/
def popFrames : (fuel : Nat) → (count : Nat) → Eval Unit
  | 0, _ => pure ()
  | fuel + 1, count => do
    if count < (← self).frames.length then
      popFrame
      popFrames fuel count

def runSimple (flags : Flags) (line : Nat) (assignments words : List Word)
    (redirects : List Redirect) : Eval Nat := do
  startLine line
  modifySelf (fun p => { p with outputStatus := 0 })
  let prepared ← r.prepare words
  let before ← self
  let frames := before.frames.length
  if prepared.isLocal then pushFrame
  let targets ← r.expandRedirects redirects
  let status ←
    if ← r.redirectSafely targets then
      setStatus 2
      if prepared.isSpecial = some true then throw .error
      pure 2
    else
      let assigned ← r.assignAll prepared assignments
      trace before assigned prepared.fields
      r.runPrepared flags prepared
  if !prepared.isExec then
    modifySelf (fun p => { p with descriptors := before.descriptors })
  popFrames ((← self).frames.length + 1) frames
  pure status

end Runner

end Slipway.Shell
