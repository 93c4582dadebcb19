import Slipway.Shell.Builtin.Directories
import Slipway.Shell.Builtin.Lookup
import Slipway.Shell.Builtin.Parameters
import Slipway.Shell.Eval

/-!
# The start of a shell

A process that becomes another program keeps its number, its descriptors and the signals that it
ignores. A shell then sets its variables from the environment and looks through its arguments for
what to run: a text, a file or its input.
-/

namespace Slipway.Shell

/-- The process once it has become another program. -/
def Process.becoming (p : Process) (file : Text) (command : List Text)
    (bindings : List (Text × Variable)) : Process :=
  { number := p.number
    parent := p.parent
    shell := p.number
    name := command.headD []
    file
    command
    bindings
    traps := p.traps.filter (·.2.isEmpty)
    descriptors := p.descriptors
    line := 0
    mask := p.mask
    limits := p.limits
    background := p.background
    copies := p.copies }

/-- What a program sees of an environment. -/
def exportedBindings (environment : List (Text × Text)) : List (Text × Variable) :=
  environment.map (fun (name, value) => (name, { value := some value, exported := true }))

/-- The variables that every shell has, before it looks at its environment. -/
def firstBindings : List (Text × Variable) :=
  let given (name : String) (value : Text) : Text × Variable := (name.toList, { value := some value })
  [given "IFS" " \t\n".toList, given "PATH" standardPath, given "PS1" "# ".toList,
    given "PS2" "> ".toList, given "PS4" "+ ".toList, given "OPTIND" ['1']]

/-- Sets the variables of a new shell. -/
def Process.setUp (p : Process) (inherited : List (Text × Variable)) : Process :=
  let p := { p with bindings := firstBindings }
  let p := inherited.foldl (fun p (name, v) => if isName name then p.bind name (fun _ => v) else p) p
  let set (p : Process) (name : String) (value : Text) : Process :=
    p.bind name.toList (fun v => { v with value := some value })
  let p := set p "IFS" " \t\n".toList
  let p := set p "OPTIND" ['1']
  set p "PPID" (naturalText p.parent)

/-- The current directory is known by the name that the environment has for it, if it is one. -/
def findDirectory : Eval Unit := do
  let m := (← get).machine
  let known := ((← self).getText? "PWD").filter fun path =>
    path.head? = some '/' && (match m.files.findNode m.directory (pathOf path) with
      | .ok (place, _) => place = m.directory
      | .error _ => false)
  setDirectory known false

/-- What a shell is to do besides its options. -/
structure Orders where
  hasText : Bool := false
  rest : List Text

/-- The letters of one argument; `c` asks for a text to be run. -/
def startLetters (sign : Char) : (letters : Text) → Orders → Eval Orders
  | [], orders => pure orders
  | 'c' :: letters, orders => startLetters sign letters { orders with hasText := true }
  | 'l' :: letters, orders => startLetters sign letters orders
  | c :: letters, orders => do
    let rest ← setLetters sign [c] orders.rest
    startLetters sign letters { orders with rest }

/-- Reads the options of a shell. -/
def startOptions : (fuel : Nat) → Orders → Eval Orders
  | 0, orders => pure orders
  | fuel + 1, orders =>
    match orders.rest with
    | ['-'] :: rest => pure { orders with rest }
    | ['-', '-'] :: rest => pure { orders with rest }
    | (sign :: letters) :: rest =>
      if sign = '-' ∨ sign = '+' then do
        let orders ← startLetters sign letters { orders with rest }
        startOptions fuel orders
      else pure orders
    | _ => pure orders

/-- A shell that is used from a terminal would control jobs. -/
def settleAtStart : Eval Unit := do
  if (← self).has "interactive" then modifySelf (·.setOption "monitor" true)
  settleOptions

/-- What could be read of a script. -/
def bytesOr (read : Except SystemError Bytes) : Bytes :=
  match read with
  | .ok bytes => bytes
  | .error _ => []

namespace Runner

variable (r : Runner)

/-- Runs the script in a file. -/
def runFile (name : Text) (args : List Text) : Eval Unit := do
  match ← openFile .read name with
  | .error e => fail ("cannot open " ++ name.toString ++ ": " ++ fileErrorText "No such file" e)
  | .ok id => do
    let bytes ← readAll id
    modifySelf (fun p => { p with name, args })
    settleAtStart
    let _ ← r.script (Text.ofBytes (bytesOr bytes)) { fromFile := true }

/-- Runs the script that comes through the standard input. -/
def runInput : Eval Unit := do
  if let some id := (← get).channel? 0 then
    let bytes ← readAll id
    let _ ← r.script (Text.ofBytes (bytesOr bytes)) { fromFile := true }

/-- Does what the arguments of a shell ask for. -/
def follow (args : List Text) : Eval Unit := do
  findDirectory
  let orders ← startOptions (args.length + 1) { rest := args }
  match orders.hasText, orders.rest with
  | true, [] => fail "-c requires an argument"
  | true, text :: rest => do
    match rest with
    | name :: args => modifySelf (fun p => { p with name, args })
    | [] => pure ()
    settleAtStart
    let readsInput := (← self).has "stdin"
    let _ ← r.script text {}
    if readsInput then r.runInput
  | false, [] => do
    modifySelf (·.setOption "stdin" true)
    settleAtStart
    r.runInput
  | false, name :: args => do
    if (← self).has "stdin" then
      modifySelf (fun p => { p with args := name :: args })
      settleAtStart
      r.runInput
    else r.runFile name args

/-- Becomes a shell with these arguments. -/
def becomeShell (environment : List (Text × Text)) (file name : Text) (args : List Text) :
    Eval Unit := do
  modifySelf (fun p =>
    (p.becoming file (name :: args) []).setUp (exportedBindings environment))
  r.toEnd (r.follow args)

end Runner

end Slipway.Shell
