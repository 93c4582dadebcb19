import Slipway.Rich.Eval
import Slipway.Shell.Start

/-!
# The start of a rich shell

A shell sets its variables from the environment and looks through its arguments for what to run: a
text, a file or its input.
-/

namespace Slipway.Rich

open Shell (Text Eval self modifySelf setStatus attempt naturalText complain)

/-! ## Variables -/

def givenText (name : String) (value : Text) : Text × Variable :=
  (name.toList, { content := .text value })

/-- The numbers of the version. -/
def versionNumbers : List String := ["5", "2", "15", "1", "release", "x86_64-pc-linux-gnu"]

/-- Where builtins could be loaded from. -/
def loadablesPath : String :=
  "/usr/local/lib/bash:/usr/lib/bash:/opt/local/lib/bash:/usr/pkg/lib/bash:/opt/pkg/lib/bash:."

/-- The path of the shell itself, if it was started by a name. -/
def ownPlace (name : Text) (environment : List (Text × Text)) : Text :=
  if name.contains '/' then name
  else
    let path := (environment.lookup "PATH".toList).getD Shell.standardPath
    let places := (path.splitOn ':').filter (fun place =>
      place = "/usr/bin".toList || place = "/bin".toList)
    places.headD "/usr/bin".toList ++ '/' :: name

/-- The variables that every shell has, unless its environment has others. -/
def usualVariables (p : Shell.Process) (place : Text) : List (Text × Variable) :=
  let fixed (name : String) (value : Text) : Text × Variable :=
    (name.toList, { content := .text value, readonly := true, integer := true })
  let exported (name : String) (content : Content) : Text × Variable :=
    (name.toList, { content, exported := true })
  [ givenText "BASH" place, ("BASH_ARGC".toList, { content := .indexed [] }),
    ("BASH_ARGV".toList, { content := .indexed [] }),
    givenText "BASH_LOADABLES_PATH" loadablesPath.toList,
    ("COMP_WORDBREAKS".toList, {}), ("HISTCMD".toList, { integer := true }),
    givenText "BASH_VERSION" "5.2.15(1)-release".toList,
    ("BASH_VERSINFO".toList,
      { content := listContent (versionNumbers.map String.toList), readonly := true }),
    ("BASH_ALIASES".toList, { content := .keyed [] }), ("BASH_CMDS".toList, { content := .keyed [] }),
    ("BASHOPTS".toList, { readonly := true }), ("SHELLOPTS".toList, { readonly := true }),
    fixed "EUID" ['0'], fixed "UID" ['0'], fixed "PPID" (naturalText p.parent),
    givenText "HOSTNAME" "localhost".toList, givenText "HOSTTYPE" "x86_64".toList,
    givenText "IFS" " \t\n".toList, givenText "MACHTYPE" "x86_64-pc-linux-gnu".toList,
    exported "OLDPWD" .none, givenText "OPTERR" ['1'],
    ("OPTIND".toList, { content := .text ['1'], integer := true }),
    givenText "OSTYPE" "linux-gnu".toList, givenText "PATH" Shell.standardPath,
    givenText "PS4" "+ ".toList, givenText "SHELL" "/bin/bash".toList,
    exported "SHLVL" (.text ['0']), givenText "TERM" "dumb".toList ]

/-- The variables of an environment that no shell takes over. -/
def ownNames : List String :=
  ["_", "IFS", "OPTIND", "OPTERR", "PPID", "UID", "EUID", "BASHOPTS", "SHELLOPTS", "BASH_VERSINFO",
    "BASH_VERSION", "BASH", "HOSTTYPE", "MACHTYPE", "OSTYPE", "PS4"]

/-- The function that is in an environment. -/
def passedFunction? (name value : Text) : Option (Text × Definition) := do
  let rest ← ("BASH_FUNC_".toList).isPrefixOf? name
  let name ← if "%%".toList.isSuffixOf rest then some (rest.take (rest.length - 2)) else none
  let source := Shell.Source.ofText [] (name ++ ' ' :: value)
  match (Parser.parseLine.run {}).run source with
  | .ok ((.line (some (.define line _ body)) _, _), _) =>
    some (name, { line, source := "environment".toList, body, exported := true })
  | _ => none

/-- A scope with the variables of an environment and the usual ones. -/
def startScope (p : Shell.Process) (name : Text) (environment : List (Text × Text)) : Scope :=
  let inherited := environment.filter (fun (name, _) =>
    Shell.isName name && !ownNames.contains (String.ofList name))
  let start := (usualVariables p (ownPlace name environment)).foldl (fun (s : Scope) (name, v) => s.put name v) {}
  let all := inherited.foldl (fun (s : Scope) (name, value) =>
    s.put name { content := .text value, exported := true }) start
  let level := (all.entries.lookup "SHLVL".toList).bind (·.content.first?)
  let next := ((level.bind (Shell.number? 10)).getD 0) + 1
  all.put "SHLVL".toList { content := .text (Shell.textOfInt next), exported := true }

/-- The current directory is known by the name that the environment has for it, if it is one. -/
def findDirectory : Eval Unit := do
  let m := (← get).machine
  let known := (← text? "PWD").filter fun path =>
    path.head? = some '/' && (match m.files.findNode m.directory (Shell.pathOf path) with
      | .ok (place, _) => place = m.directory
      | .error _ => false)
  let place ← match known with
    | some path => pure path
    | none => physicalDirectory
  modifySelf (fun p => { p with directory := some place })
  modifyContext (fun c => c.update "PWD".toList (fun v =>
    { v with content := .text place, exported := true }))

/-! ## Options -/

/-- What a shell is to do besides its options. -/
structure Orders where
  hasText : Bool := false
  readsInput : Bool := false
  rest : List Text

/-- Options that are words, and whether they have an argument. -/
def longOptions : List (String × Bool) := [
  ("debug", false), ("debugger", false), ("dump-po-strings", false), ("dump-strings", false),
  ("help", false), ("init-file", true), ("login", false), ("noediting", false),
  ("noprofile", false), ("norc", false), ("posix", false), ("pretty-print", false),
  ("rcfile", true), ("restricted", false), ("verbose", false), ("version", false)]

/-- Ends a shell that cannot start. -/
def endStart {α : Type} (message : String) (status : Nat) : Eval α := do
  complain (Text.toString (← self).name ++ ": " ++ message ++ "\n")
  modifySelf (fun p => { p with status, savedStatus := some status })
  throw .exit

/-- Refuses an option, and tells how a shell is started. -/
def refuseStart {α : Type} (message : String) : Eval α := do
  let name := Text.toString (← self).name
  complain (name ++ ": " ++ message ++ "\n"
    ++ "Usage:\t" ++ name ++ " [GNU long option] [option] ...\n"
    ++ "\t" ++ name ++ " [GNU long option] [option] script-file ...\n"
    ++ "GNU long options:\n"
    ++ String.join (longOptions.map (fun (option, _) => "\t--" ++ option ++ "\n"))
    ++ "Shell options:\n"
    ++ "\t-ilrsD or -c command or -O shopt_option\t\t(invocation only)\n"
    ++ "\t-abefhkmnptuvxBCEHPT or -o option\n")
  modifySelf (fun p => { p with status := 2, savedStatus := some 2 })
  throw .exit

/-- Reads the options that are words. -/
def readLong : (fuel : Nat) → List Text → Eval (List Text)
  | 0, args => pure args
  | fuel + 1, args =>
    match args with
    | ['-', '-'] :: _ => pure args
    | ('-' :: rest) :: more => do
      let name := String.ofList (if rest.head? = some '-' then rest.drop 1 else rest)
      match longOptions.lookup name with
      | some false => do
        if name = "verbose" then modifySelf (·.setOption "verbose" true)
        if name = "posix" then modifySelf (·.setOption "posix" true)
        readLong fuel more
      | some true =>
        if more.isEmpty then endStart (name ++ ": option requires an argument") 2
        else readLong fuel (more.drop 1)
      | none =>
        if rest.head? = some '-' then refuseStart ("--" ++ name ++ ": invalid option")
        else pure args
    | args => pure args

/-- Switches a special option on or off. -/
def setExtra (option : String) (on : Bool) : Eval Unit :=
  modifyContext (fun c =>
    let others := c.extras.filter (· ≠ option)
    { c with extras := if on then option :: others else others })

/-- The letters of one argument. -/
def readStartLetters (sign : Char) : (letters : Text) → Orders → Eval Orders
  | [], orders => pure orders
  | c :: letters, orders => do
    let on := sign = '-'
    let named (list : Eval Unit) (set : Text → Eval Unit) : Eval Orders := do
      match orders.rest with
      | [] => do
        list
        pure orders
      | name :: rest => do
        set name
        pure { orders with rest }
    let orders ← match c with
      | 'c' => pure { orders with hasText := true }
      | 's' => pure { orders with readsInput := true }
      | 'l' => pure orders
      | 'i' => do
        setExtra "expand_aliases" true
        pure orders
      | 'r' => pure orders
      | 'D' => pure orders
      | 'o' => named (do
          listOptions sign
          let _ ← Shell.flush) fun name => do
        let option := String.ofList name
        if optionNames.contains option then setOption sign option
        else
          let shell := Text.toString (← self).name
          endStart ("line 0: " ++ shell ++ ": " ++ option ++ ": invalid option name") 2
      | 'O' => named (pure ()) fun name => do
        let option := String.ofList name
        if (extraOptions.lookup option).isSome then setExtra option on
        else endStart ("line 0: " ++ option ++ ": invalid shell option name") 2
      | c =>
        match optionLetters.lookup c with
        | some option => do
          modifySelf (·.setOption option on)
          pure orders
        | none => refuseStart (Text.toString [sign, c] ++ ": invalid option")
    readStartLetters sign letters orders

/-- Reads the options of a shell. -/
def readStart : (fuel : Nat) → Orders → Eval Orders
  | 0, orders => pure orders
  | fuel + 1, orders =>
    match orders.rest with
    | ['-'] :: rest => pure { orders with rest }
    | ['-', '-'] :: rest => pure { orders with rest }
    | (sign :: letters) :: rest =>
      if sign = '-' ∨ sign = '+' then do
        let orders ← readStartLetters sign letters { orders with rest }
        readStart fuel orders
      else pure orders
    | _ => pure orders

section

variable (r : Shell.Runner)

/-! ## Running -/

/-- The file of a script, which is looked for like a program if it is not there. -/
def startPlace (name : Text) : Eval Text := do
  let m := (← get).machine
  if name.contains '/' ∨ m.files.exists? m.directory (Shell.pathOf name) then pure name
  else return (firstFile m (Shell.placesOf (← searchPath) name)).getD name

/-- Whether the content of a file is no text. -/
def isBinary (bytes : Bytes) : Bool :=
  ((bytes.take 80).takeWhile (· ≠ 10)).contains 0

def runFile (name : Text) (args : List Text) : Eval Unit := do
  let place ← startPlace name
  match ← Shell.openFile .read place with
  | .error e => do
    let status := if e = .noEntry then 127 else 126
    endStart (Text.toString name ++ ": " ++ Shell.errorText e) status
  | .ok id => do
    modifySelf (fun p => { p with name, args })
    let shown := Text.toString name
    match ← Shell.readAll id with
    | .error e => endStart (shown ++ ": " ++ Shell.errorText e) 126
    | .ok bytes => do
      if isBinary bytes then endStart (shown ++ ": cannot execute binary file") 126
      modifyContext (fun c => { c with fromFile := true })
      let _ ← runScript r none (Text.ofBytes bytes) { fromFile := true }

/-- Runs the script that comes through the standard input. -/
def runInput (args : List Text) : Eval Unit := do
  modifySelf (fun p => (({ p with args }).setOption "stdin" true))
  if let some id := (← get).channel? 0 then
    let bytes ← Shell.readAll id
    let _ ← runScript r none (Text.ofBytes (Shell.bytesOr bytes)) { fromFile := true }

/-- Does what the arguments of a shell ask for. -/
def follow (args : List Text) : Eval Unit := do
  findDirectory
  let rest ← readLong (args.length + 1) args
  let orders ← readStart (rest.length + 1) { rest }
  match orders.hasText, orders.rest with
  | true, [] => endStart "-c: option requires an argument" 2
  | true, text :: rest => do
    modifyContext (fun c => { c with fromArgument := true }.update "BASH_EXECUTION_STRING".toList
      (fun v => { v with content := .text text }))
    match rest with
    | name :: args => modifySelf (fun p => { p with name, args })
    | [] => pure ()
    let _ ← runScript r (some "-c") text { last := true, fromFile := true }
  | false, args =>
    match orders.readsInput, args with
    | false, name :: args => runFile r name args
    | _, args => runInput r args

/-- Becomes a rich shell with these arguments. -/
def becomeShell (environment : List (Text × Text)) (file name : Text) (args : List Text) :
    Eval Unit := do
  modifySelf (fun p =>
    let p := p.becoming file (name :: args) []
    let functions := environment.filterMap (fun (name, value) => passedFunction? name value)
    let extras := (extraOptions.filter (·.2)).map (·.1)
    { p with
      options := ["braceexpand", "hashall", "interactive-comments"]
      rich := some { scopes := [startScope p name environment], functions, extras, lastArg := name } })
  let result ← attempt (r.toEnd (follow r args))
  modifySelf (fun p => { p with descriptors := [] })
  runReaders r
  match result with
  | .error stop => throw stop
  | .ok () => throw .gone

end

end Slipway.Rich
