import Slipway.Shell.Builtin.Options
import Slipway.Shell.Parser

/-!
# Looking up commands

What a name stands for as a command: a function, a builtin or a program. Programs are looked for
in the directories of the search path, and the shell remembers where it found them.
-/

namespace Slipway.Shell

/-- The builtins that are not special. -/
def plainBuiltins : List String := [
  "[", "alias", "bg", "cd", "chdir", "command", "echo", "false", "fg", "getopts", "hash", "jobs",
  "kill", "printf", "pwd", "read", "test", "true", "type", "ulimit", "umask", "unalias",
  "wait"]

/-- What a name stands for. -/
inductive Found
  | function (function : Function)
  | builtin (isSpecial : Bool)
  /-- A program, with the number of its directory in the search path unless its path was given. -/
  | program (index : Option Nat)
  | missing (e : SystemError)

/-- The search path of programs that are everywhere. -/
def standardPath : Text :=
  "/usr/local/sbin:/usr/local/bin:/usr/sbin:/usr/bin:/sbin:/bin".toList

def searchPath (p : Process) : Text := (p.getText? "PATH").getD []

/-- The paths that a program can have. -/
def placesOf (path name : Text) : List Text :=
  (path.splitOn ':').map fun dir =>
    if dir.isEmpty then name else if dir.getLast? = some '/' then dir ++ name else dir ++ '/' :: name

/-- The number of the first path that leads to a program, or why there is none. -/
def firstProgram (m : Machine) : (index : Nat) → (e : SystemError) → List Text →
    Except SystemError Nat
  | _, e, [] => .error e
  | index, e, place :: rest =>
    match m.files.findNode m.directory (pathOf place) with
    | .ok (_, node) =>
      if FileSystem.isExecutableNode node then .ok index
      else firstProgram m (index + 1) .noAccess rest
    | .error e' =>
      firstProgram m (index + 1) (if e' = .noEntry ∨ e' = .notDirectory then e else e') rest

/-- Looks for a program in the search path and remembers where it is. -/
def findProgram (path name : Text) : Eval Found := do
  let s ← get
  match firstProgram s.machine 0 .noEntry (placesOf path name) with
  | .ok index => do
    modifySelf (fun p => { p with found := p.found.filter (·.1 ≠ name) ++ [(name, index)] })
    pure (.program (some index))
  | .error e => do
    modifySelf (fun p => { p with found := p.found.filter (·.1 ≠ name) })
    pure (.missing e)

def builtinOf? (name : Text) : Option Found :=
  let text := String.ofList name
  if specialBuiltins.contains text then some (.builtin true)
  else if plainBuiltins.contains text then some (.builtin false)
  else none

/-- What a name stands for. A search path that is given is not remembered from before. -/
def findCommand (withFunctions : Bool) (path : Option Text) (name : Text) : Eval Found := do
  let p ← self
  if name.contains '/' then pure (.program none)
  else
    match (if withFunctions then p.functions.lookup name else none), builtinOf? name,
        (if path.isNone then p.found.lookup name else none) with
    | some function, _, _ => pure (.function function)
    | none, some found, _ => pure found
    | none, none, some index => pure (.program (some index))
    | none, none, none => findProgram (path.getD (searchPath p)) name

/-- The path of a program that was found. -/
def programPath (path name : Text) (index : Option Nat) : Text :=
  match index with
  | some index => (placesOf path name).getD index name
  | none => name

/-! ## Telling what was found -/

/-- Tells what a name stands for, in words or as the shell would be told, and gives the status. -/
def describe (path : Option Text) (verbose : Bool) (name : Text) : Eval Nat := do
  let tell (words plain : String) : Eval Nat := do
    if verbose then printLine (name ++ words.toList) else printLine (Text.ofString plain)
    pure 0
  let p ← self
  let shown := name.toString
  if keywords.contains (String.ofList name) then tell " is a shell keyword" shown
  else
    match p.aliases.lookup name with
    | some value => do
      if verbose then printLine (name ++ " is an alias for ".toList ++ value)
      else printLine ("alias ".toList ++ name ++ '=' :: quotedText value)
      pure 0
    | none =>
      let isRemembered := (p.found.lookup name).isSome
      match ← findCommand true path name with
      | .function _ => tell " is a shell function" shown
      | .builtin true => tell " is a special shell builtin" shown
      | .builtin false => tell " is a shell builtin" shown
      | .program index => do
        let place := programPath (path.getD (searchPath p)) name index
        let m := (← get).machine
        if index.isNone ∧ !m.files.exists? m.directory (pathOf place) then missing verbose
        else
          let how := if isRemembered && index.isSome then " is a tracked alias for " else " is "
          if verbose then printLine (name ++ how.toList ++ place) else printLine place
          pure 0
      | .missing _ => missing verbose
where
  missing (verbose : Bool) : Eval Nat := do
    if verbose then printLine (name ++ ": not found".toList)
    pure 127

def typeBuiltin (args : List Text) : Eval Nat :=
  args.foldlM (fun status name => do
    let found ← describe none true name
    pure (status ||| found)) 0

/-- Shows where programs were found, forgets it, or looks for some. -/
def hashBuiltin (args : List Text) : Eval Nat := do
  let (options, names) ← readOptions "rv" args
  if options.any (·.1 = 'r') then
    modifySelf (fun p => { p with found := [] })
    return 0
  let p ← self
  if names.isEmpty then
    (inBuckets 31 p.found).forM fun (name, index) =>
      printLine (programPath (searchPath p) name (some index))
    return 0
  names.foldlM (fun status name => do
    modifySelf (fun p => { p with found := p.found.filter (·.1 ≠ name) })
    match ← findCommand true none name with
    | .missing e => do
      warn (name.toString ++ ": " ++ fileErrorText "not found" e)
      pure 1
    | _ => pure status) 0

/-! ## Aliases -/

def showAlias (entry : Text × Text) : Eval Unit := printLine (entry.1 ++ '=' :: quotedText entry.2)

def aliasBuiltin (args : List Text) : Eval Nat := do
  if args.isEmpty then
    (inBuckets 39 (← self).aliases).forM showAlias
    return 0
  forEach args fun arg => do
    let (name, value) := match arg with
      | c :: rest =>
        let (name, value) := splitName rest
        (c :: name, value)
      | [] => ([], none)
    match value with
    | some value => do
      modifySelf (fun p => { p with
        aliases := if (p.aliases.lookup name).isSome then
            p.aliases.map (fun a => if a.1 = name then (name, value) else a)
          else p.aliases ++ [(name, value)] })
      pure true
    | none =>
      match (← self).aliases.lookup name with
      | some value => do
        showAlias (name, value)
        pure true
      | none => do
        complain ("alias: " ++ Text.toString name ++ " not found\n")
        pure false

def unaliasBuiltin (args : List Text) : Eval Nat := do
  let (options, names) ← readOptions "a" args
  if !options.isEmpty then
    modifySelf (fun p => { p with aliases := [] })
    return 0
  forEach names fun name => do
    if ((← self).aliases.lookup name).isSome then
      modifySelf (fun p => { p with aliases := p.aliases.filter (·.1 ≠ name) })
      pure true
    else
      complain ("unalias: " ++ name.toString ++ " not found\n")
      pure false

end Slipway.Shell
