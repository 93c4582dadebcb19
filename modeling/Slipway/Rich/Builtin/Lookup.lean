import Slipway.Rich.Builtin.Options
import Slipway.Rich.Parser
import Slipway.Rich.Printer

/-!
# Builtins of rich scripts that tell about commands

What names stand for as commands, the programs that the shell remembers, builtins that are not to be
used, and other names for commands.
-/

namespace Slipway.Rich

open Shell (Text Eval self modifySelf printLine naturalText)

/-! ## Telling what a name stands for -/

/-- How it is told. -/
inductive Telling
  /-- In words. -/
  | words
  /-- As the shell could be told it. -/
  | again
  /-- The kind in one word. -/
  | kind
  /-- Only where a program is. -/
  | path

structure Telling.Plan where
  how : Telling
  /-- Everything that the name stands for, and not only the first. -/
  all : Bool := false
  withFunctions : Bool := true
  onlyPrograms : Bool := false
  /-- Another search path. -/
  path : Option Text := none

/-- Tells that a name stands for something, and gives its name where nothing else is to be told. -/
def tell (how : Telling) (words again : Text) (kind : String) : Eval Unit := do
  match how with
  | .words => printLine words
  | .again => printLine again
  | .kind => printLine kind.toList
  | .path => pure ()

/-- Tells about a program. -/
def tellProgram (how : Telling) (words place : Text) : Eval Unit := do
  match how with
  | .path => printLine place
  | how => tell how words place "file"

/-- The paths that lead to a program of a name. -/
def programPlaces (path name : Text) : Eval (List Text) := do
  let m := (← get).machine
  pure ((Shell.placesOf path name).filter fun place =>
    m.files.satisfies m.directory (Shell.pathOf place)
      (fun node => node.isRegular && FileSystem.isExecutableNode node))

/-- What a name stands for besides programs, each as it is told: in words, as the shell could be told
it and as a kind. -/
def meaningsOf (plan : Telling.Plan) (name : Text) : Eval (List (Text × Text × String)) := do
  let p ← self
  let c ← context
  let about (rest : String) : Text := name ++ rest.toList
  let aliases := if c.has "expand_aliases" then (p.aliases.lookup name).toList else []
  let functions := if plan.withFunctions then (c.functions.lookup name).toList else []
  pure ((aliases.map fun value =>
      (about " is aliased to \x60" ++ value ++ ['\''],
        "alias ".toList ++ name ++ '=' :: singleQuoted value, "alias"))
    ++ (if reservedWords.contains (String.ofList name) then
        [(about " is a shell keyword", name, "keyword")] else [])
    ++ (functions.map fun f =>
      (about " is a function\n" ++ Printer.functionText name f.body, name, "function"))
    ++ (if c.hasBuiltin name then [(about " is a shell builtin", name, "builtin")] else []))

def describePrograms (plan : Telling.Plan) (name : Text) : Eval Bool := do
  let is (place : Text) : Text := name ++ " is ".toList ++ place
  if name.contains '/' then
    let m := (← get).machine
    if m.files.satisfies m.directory (Shell.pathOf name) FileSystem.isExecutableNode then
      tellProgram plan.how (is name) name
      return true
    return false
  let c ← context
  let known := if plan.path.isSome ∨ plan.all then none else c.found.lookup name
  match known with
  | some (place, _) => do
    countUse name
    tellProgram plan.how (name ++ " is hashed (".toList ++ place ++ [')']) place
    pure true
  | none => do
    let found ← programPlaces (plan.path.getD (← searchPath)) name
    let found := if plan.all then found else found.take 1
    found.forM fun place => tellProgram plan.how (is place) place
    pure (!found.isEmpty)

/-- Tells what a name stands for, if it stands for anything. -/
def describe (plan : Telling.Plan) (name : Text) : Eval Bool := do
  let meanings ← if plan.onlyPrograms then pure [] else meaningsOf plan name
  let meanings := if plan.all then meanings else meanings.take 1
  meanings.forM fun (words, again, kind) => tell plan.how words again kind
  if !meanings.isEmpty ∧ !plan.all then return true
  let found ← describePrograms plan name
  pure (found || !meanings.isEmpty)

def typeBuiltin (args : List Text) : Eval Nat := do
  let (options, names) ← readOptions "afptP" args
  let letters := options.map (·.1)
  let how : Telling := match (letters.filter "ptP".toList.contains).getLast? with
    | some 't' => .kind
    | some _ => .path
    | none => .words
  let plan : Telling.Plan :=
    { how
      all := letters.contains 'a'
      withFunctions := !letters.contains 'f'
      onlyPrograms := letters.contains 'P' }
  forEach names fun name => do
    let found ← describe plan name
    if !found then
      match how with
      | .words => warn (Text.toString name ++ ": not found")
      | _ => pure ()
    pure found

/-- Tells what the names behind `command` stand for. One that stands for something is enough. -/
def describeAll (plan : Telling.Plan) (names : List Text) : Eval Nat := do
  let found ← names.mapM fun name => do
    let found ← describe plan name
    if !found then
      match plan.how with
      | .words => warn (Text.toString name ++ ": not found")
      | _ => pure ()
    pure found
  pure (if found.any id then 0 else 1)

/-! ## Programs that are remembered -/

def hashBuiltin (args : List Text) : Eval Nat := do
  let (options, names) ← readOptions "dltp:r" args
  let isReusable := hasOption options 'l'
  if hasOption options 't' ∧ names.isEmpty then misused "-t: option requires an argument"
  if hasOption options 'r' then modifyContext (fun c => { c with found := [] })
  if names.isEmpty then
    if options.all (fun o => o.1 = 'l') then showFound isReusable
    return 0
  forEach names fun name => do
    let known := (← context).found.lookup name
    if let some place := optionArg? options 'p' then
      remember name place
      pure true
    else if hasOption options 't' ∨ hasOption options 'd' then
      match known with
      | some (place, _) => do
        if hasOption options 'd' then forget name
        else if isReusable then showReusable name place
        else if names.length = 1 then printLine place
        else printLine (name ++ '\t' :: place)
        pure true
      | none => missing name
    else if name.contains '/' ∨ (← context).hasBuiltin name ∨
        ((← context).functions.lookup name).isSome then pure true
    else
      forget name
      match ← findProgram (← searchPath) name with
      | .program _ => pure true
      | _ => missing name
where
  missing (name : Text) : Eval Bool := do
    warn (Text.toString name ++ ": not found")
    pure false
  forget (name : Text) : Eval Unit :=
    modifyContext (fun c => { c with found := c.found.filter (·.1 ≠ name) })
  remember (name place : Text) : Eval Unit := do
    forget name
    modifyContext (fun c => { c with found := (name, place, 0) :: c.found })
  showReusable (name place : Text) : Eval Unit :=
    printLine ("builtin hash -p ".toList ++ place ++ ' ' :: name)
  showFound (isReusable : Bool) : Eval Unit := do
    let found := (← context).found.mergeSort
      (fun (a b : Text × Text × Nat) => hashOf a.1 % 256 ≤ hashOf b.1 % 256)
    if found.isEmpty then printLine "hash: hash table empty".toList
    else
      if !isReusable then printLine "hits\tcommand".toList
      found.forM fun (name, place, hits) =>
        if isReusable then showReusable name place
        else
          let count := toString hits
          printLine (("".pushn ' ' (4 - count.length) ++ count ++ "\t").toList ++ place)

/-! ## Builtins that are not used -/

/-- The builtins that every such shell has had. -/
def specialNames : List String := [
  ".", ":", "break", "continue", "eval", "exec", "exit", "export", "readonly", "return", "set",
  "shift", "source", "times", "trap", "unset"]

def enableBuiltin (args : List Text) : Eval Nat := do
  let (options, names) ← readOptions "adnpsf:" args
  let disables := hasOption options 'n'
  if names.isEmpty ∨ hasOption options 'p' then
    let disabled := (← context).disabled
    let listed := if hasOption options 's' then specialNames else builtinNames
    listed.forM fun name => do
      let isOff := disabled.contains name.toList
      if hasOption options 'a' ∨ isOff = disables then
        printLine ((if isOff then "enable -n " else "enable ") ++ name).toList
    return 0
  forEach names fun name => do
    if builtinNames.contains (String.ofList name) then
      modifyContext (fun c =>
        let others := c.disabled.filter (· ≠ name)
        { c with disabled := if disables then name :: others else others })
      pure true
    else
      warn (Text.toString name ++ ": not a shell builtin")
      pure false

/-! ## Other names for commands -/

def showAlias (entry : Text × Text) : Eval Unit :=
  printLine ("alias ".toList ++ entry.1 ++ '=' :: singleQuoted entry.2)

/-- Whether a name can stand for a command. -/
def isAliasName (name : Text) : Bool :=
  !name.isEmpty && !name.any (fun c => " \t\n;&|()<>$\x60\"'\\/=".toList.contains c)

def aliasBuiltin (args : List Text) : Eval Nat := do
  let (options, names) ← readOptions "p" args
  if names.isEmpty ∨ !options.isEmpty then
    ((← self).aliases.mergeSort (fun a b => Shell.textLe a.1 b.1)).forM showAlias
  forEach names fun arg => do
    let name := arg.takeWhile (· ≠ '=')
    match arg.drop name.length, name.isEmpty with
    | _ :: value, false =>
      if isAliasName name then do
        modifySelf (fun p => { p with
          aliases := (name, value) :: p.aliases.filter (·.1 ≠ name) })
        pure true
      else
        warn ("\x60" ++ Text.toString name ++ "': invalid alias name")
        pure false
    | _, _ =>
      match (← self).aliases.lookup arg with
      | some value => do
        showAlias (arg, value)
        pure true
      | none => do
        warn (Text.toString arg ++ ": not found")
        pure false

def unaliasBuiltin (args : List Text) : Eval Nat := do
  let (options, names) ← readOptions "a" args
  if !options.isEmpty then
    modifySelf (fun p => { p with aliases := [] })
    return 0
  if names.isEmpty then showUsage
  forEach names fun name => do
    if ((← self).aliases.lookup name).isSome then
      modifySelf (fun p => { p with aliases := p.aliases.filter (·.1 ≠ name) })
      pure true
    else
      warn (Text.toString name ++ ": not found")
      pure false

end Slipway.Rich
