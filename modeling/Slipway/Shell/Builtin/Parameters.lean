import Slipway.Shell.Builtin.Options

/-!
# Builtins for parameters

Variables, arguments and options of the shell.
-/

namespace Slipway.Shell

/-! ## Variables -/

def isVisible (v : Variable) : Bool := v.value.isSome

/-- Shows the variables that have a property, in the order of their names. -/
def showBindings (start : Text) (shown : Variable → Bool) : Eval Nat := do
  let chosen := (← self).bindings.filter (fun b => shown b.2)
  (chosen.mergeSort (fun a b => textLe a.1 b.1)).forM fun (name, v) =>
    printLine (start ++ name ++ (match v.value with
      | some value => '=' :: quotedText value
      | none => []))
  pure 0

/-- Marks variables, or shows those that are marked. -/
def markAll (command : String) (isMarked : Variable → Bool) (f : Variable → Variable)
    (args : List Text) : Eval Nat := do
  let (options, names) ← readOptions "p" args
  if !options.isEmpty || names.isEmpty then showBindings (command ++ " ").toList isMarked
  else do
    names.forM fun arg => do
      let (name, value) := splitName arg
      mark f name value
    pure 0

def exportBuiltin : List Text → Eval Nat :=
  markAll "export" (·.exported) (fun v => { v with exported := true })

def readonlyBuiltin : List Text → Eval Nat :=
  markAll "readonly" (·.readonly) (fun v => { v with readonly := true })

def unsetBuiltin (args : List Text) : Eval Nat := do
  let (options, names) ← readOptions "vf" args
  let isFunction := (options.getLast?.map (·.1)) = some 'f'
  names.forM fun name =>
    if isFunction then
      modifySelf (fun p => { p with functions := p.functions.filter (·.1 ≠ name) })
    else unset name
  pure 0

def localBuiltin (args : List Text) : Eval Nat := do
  if (← self).frames.isEmpty then fail "not in a function"
  args.forM fun arg =>
    if arg = ['-'] then saveOptions
    else do
      let (name, value) := splitName arg
      makeLocal name value
  pure 0

/-! ## Arguments and options -/

def setArgs (args : List Text) : Eval Unit :=
  modifySelf (fun p => { p with args, optionPlace := {} })

def shiftBuiltin (args : List Text) : Eval Nat := do
  let n ← match args with
    | [] => pure 1
    | arg :: _ => smallNumber arg
  let p ← self
  if p.args.length < n then fail "can't shift that many"
  setArgs (p.args.drop n)
  pure 0

/-- All options, in the order in which they are listed. -/
def optionNames : List String := [
  "errexit", "noglob", "ignoreeof", "interactive", "monitor", "noexec", "stdin", "xtrace",
  "verbose", "vi", "emacs", "noclobber", "allexport", "notify", "nounset", "privileged", "nolog",
  "debug"]

/-- Lists the options, in a form that sets them again if the list is asked for with a plus. -/
def listOptions (sign : Char) : Eval Unit := do
  let p ← self
  if sign = '-' then printLine "Current option settings".toList
  optionNames.forM fun option =>
    let line := if sign = '-' then
        option.toList ++ List.replicate (16 - option.length) ' '
          ++ (if p.has option then "on" else "off").toList
      else (if p.has option then "set -o " else "set +o ").toList ++ option.toList
    printLine line

def setLetter (sign c : Char) : Eval Unit := do
  match optionLetters.lookup c with
  | some option => modifySelf (·.setOption option (sign = '-'))
  | none => fail ("Illegal option -" ++ (Text.toString [c]))

def setNamed (sign : Char) (name : Text) : Eval Unit := do
  let option := String.ofList name
  if optionNames.contains option then modifySelf (·.setOption option (sign = '-'))
  else fail ("Illegal option -o " ++ name.toString)

/-- Only a shell with a terminal controls jobs. -/
def settleOptions : Eval Unit := do
  let p ← self
  if p.has "monitor" ∧ p.copies = 0 then
    warn "can't access tty; job control turned off"
    modifySelf (·.setOption "monitor" false)

/-- The letters of one argument, and the arguments behind the names that belong to them. -/
def setLetters (sign : Char) : (letters : Text) → (rest : List Text) → Eval (List Text)
  | [], rest => pure rest
  | 'o' :: letters, rest => do
    match rest with
    | [] => do
      listOptions sign
      setLetters sign letters []
    | name :: rest => do
      setNamed sign name
      setLetters sign letters rest
  | c :: letters, rest => do
    setLetter sign c
    setLetters sign letters rest

/-- Sets options, and gives the arguments behind them if there are to be new ones. -/
def setOptions : (fuel : Nat) → List Text → Eval (Option (List Text))
  | 0, _ => pure none
  | fuel + 1, args =>
    match args with
    | [] => pure none
    | ['-', '-'] :: rest => pure (some rest)
    | ['-'] :: rest => do
      modifySelf (fun p => (p.setOption "xtrace" false).setOption "verbose" false)
      pure (if rest.isEmpty then none else some rest)
    | (sign :: letters) :: rest =>
      if sign = '-' ∨ sign = '+' then do
        let rest ← setLetters sign letters rest
        setOptions fuel rest
      else pure (some args)
    | _ => pure (some args)

def setBuiltin (args : List Text) : Eval Nat := do
  if args.isEmpty then showBindings [] isVisible
  else do
    match ← setOptions (args.length + 1) args with
    | some args => setArgs args
    | none => pure ()
    settleOptions
    pure 0

/-! ## Reading options of a script -/

/-- Gives variables the option that was read, and remembers the place behind it. -/
def tellOption (name : Text) (option : Char) (place : OptionPlace) : Eval Unit := do
  assign "OPTIND".toList (naturalText place.index)
  assignNamed name [option]
  modifySelf (fun p => { p with optionPlace := place })

/-- An option that is not allowed or lacks its argument. With a colon in front of the allowed ones
the script is told of it, otherwise the user. -/
def refuseOption (isSilent : Bool) (option : Char) (message : String) : Eval Unit := do
  if isSilent then assign "OPTARG".toList [option]
  else do
    complain (message ++ "\n")
    unset "OPTARG".toList

/-- Reads the next option of arguments. `letters` are left of the argument in front of `place`. -/
def readOption (spec name : Text) (args : List Text) (index : Nat) (letters : Text) :
    Eval Nat := do
  match letters with
  | [] => do
    tellOption name '?' { index }
    pure 1
  | c :: letters => do
    let isSilent := spec.head? = some ':'
    let place : OptionPlace :=
      { index, offset := some ((args.getD (index - 2) []).length - letters.length) }
    match (optionsOf (if isSilent then spec.drop 1 else spec)).lookup c with
    | none => do
      refuseOption isSilent c ("Illegal option -" ++ (Text.toString [c]))
      tellOption name '?' place
    | some false => do
      assign "OPTARG".toList []
      tellOption name c place
    | some true =>
      if !letters.isEmpty then do
        assign "OPTARG".toList letters
        tellOption name c { index }
      else
        match args[index - 1]? with
        | some arg => do
          assign "OPTARG".toList arg
          tellOption name c { index := index + 1 }
        | none => do
          refuseOption isSilent c ("No arg for -" ++ (Text.toString [c]) ++ " option")
          tellOption name (if isSilent then ':' else '?') place
    pure 0

def getoptsBuiltin (args : List Text) : Eval Nat := do
  match ← plainArgs args with
  | spec :: name :: operands => do
    let p ← self
    let args := if operands.isEmpty then p.args else operands
    let place := if args.length + 1 < p.optionPlace.index then {} else p.optionPlace
    let left := match place.offset with
      | some n => if place.index ≤ 1 then [] else (args.getD (place.index - 2) []).drop n
      | none => []
    if !left.isEmpty then readOption spec name args place.index left
    else
      match args[place.index - 1]? with
      | some ['-', '-'] => readOption spec name args (place.index + 1) []
      | some ('-' :: c :: letters) => readOption spec name args (place.index + 1) (c :: letters)
      | _ => readOption spec name args place.index []
  | _ => fail "Usage: getopts optstring var [arg...]"

/-! ## Reading input -/

/-- One line from the standard input, byte by byte, and whether it had an end. What stands behind
a backslash is not split, unless the line is read raw. -/
def readInputLine (raw : Bool) : (fuel : Nat) → (isEscaped : Bool) → (found : List Atom) →
    Eval (List Atom × Bool)
  | 0, _, found => pure (found.reverse, false)
  | fuel + 1, isEscaped, found => do
    let read ← match (← get).channel? 0 with
      | some id => readFrom id 1
      | none => pure (.ok [])
    match read with
    | .ok [b] =>
      let c := Char.ofNat b.toNat
      if b = 0 then readInputLine raw fuel isEscaped found
      else if isEscaped then
        let found := if c = '\n' then found
          else .opens false :: .letter ⟨c, true⟩ :: .closes :: found
        readInputLine raw fuel false found
      else if c = '\\' ∧ !raw then readInputLine raw fuel true found
      else if c = '\n' then pure (found.reverse, true)
      else readInputLine raw fuel false (.letter ⟨c, true⟩ :: found)
    | _ => pure (found.reverse, false)

/-- More bytes than a line has. -/
def maxLine : Nat := 100000000

def readBuiltin (args : List Text) : Eval Nat := do
  let (options, names) ← readOptions "p:r" args
  if names.isEmpty then fail "arg count"
  let (atoms, ended) ← readInputLine (options.any (·.1 = 'r')) maxLine false []
  let fields := fieldsOf (separatorsOf (← self)) (region false atoms) (some names.length)
  let values := fields.map textOf ++ List.replicate names.length []
  (names.zip values).forM fun (name, value) => assignNamed name value
  pure (if ended then 0 else 1)

end Slipway.Shell
