import Slipway.Rich.Builtin.Options
import Slipway.Rich.Printer

/-!
# Builtins of rich scripts for variables and options

Declaring variables, making them local, showing them and taking them away; the options and the
arguments of the shell.
-/

namespace Slipway.Rich

open Shell (Text Eval self modifySelf setStatus printLine naturalText)

/-! ## Declarations -/

/-- A name with what is to be assigned to it. -/
structure Declared where
  name : Text
  subscript : Option Text := none
  appends : Bool := false
  value : Option Text := none

/-- Takes an argument of a declaration apart. -/
def declared (text : Text) : Declared :=
  let name := text.takeWhile Shell.isNameChar
  let (subscript, rest) : Option Text × Text := match text.drop name.length with
    | '[' :: inner =>
      match Arithmetic.splitSubscript 0 [] inner with
      | some (subscript, rest) => (some subscript, rest)
      | none => (none, '[' :: inner)
    | rest => (none, rest)
  match rest with
  | [] => { name, subscript }
  | '=' :: value => { name, subscript, value := some value }
  | '+' :: '=' :: value => { name, subscript, appends := true, value := some value }
  | _ => { name := text }

/-- Whether a function is running, so that variables can be local to it. -/
def inCall : Eval Bool := return (← context).scopes.any (·.isCall)

/-- Makes a variable one of the innermost call. One that was given to the call keeps its value. -/
def makeLocal (name : Text) : Eval Unit := do
  let c ← context
  let given : Option Variable := (c.scopes.head?.bind (fun (scope : Scope) =>
    if scope.isCall then none else scope.entries.lookup name))
  modifyContext (fun c => { c with scopes := updateCall (fun scope =>
    if (scope.entries.lookup name).isSome then scope
    else scope.put name (given.getD {})) c.scopes })

/-- Sets what a variable is, by the letter for it. -/
def withAttribute (on : Bool) (letter : Char) (v : Variable) : Variable :=
  match letter with
  | 'a' => if !on then v else
    match v.content with
    | .none => { v with content := .indexed [], pending := true }
    | .text value => { v with content := .indexed [(0, value)] }
    | _ => v
  | 'A' => if !on then v else
    match v.content with
    | .none => { v with content := .keyed [], pending := true }
    | .text value => { v with content := .keyed [(['0'], value)] }
    | _ => v
  | 'i' => { v with integer := on }
  | 'l' => { v with recasing := if on then some .lower else none, capital := false }
  | 'u' => { v with recasing := if on then some .upper else none, capital := false }
  | 'c' => { v with recasing := if on then some .upper else none, capital := on }
  | 'n' => { v with reference := on }
  | 'r' => { v with readonly := v.readonly || on }
  | 't' => { v with traced := on }
  | 'x' => { v with exported := on }
  | _ => v

/-- Changes what a variable is, whether it may be changed or not. -/
def mark (name : Text) (f : Variable → Variable) : Eval Unit :=
  modifyContext (fun c => c.update name f)

/-- A variable with all that is known of it. -/
def shownVariable? (name : Text) : Eval (Option Variable) := do
  current? name

/-- The names of all variables, in their order. -/
def allNames : Eval (List Text) := do
  let c ← context
  let known := c.scopes.flatMap (fun scope => scope.entries.map (·.1))
  let own := (ownVariables.map String.toList).filter (fun name =>
    !known.contains name && !c.plain.contains name
      && (name ≠ "PIPESTATUS".toList || !c.pipeStatuses.isEmpty))
  pure ((known ++ own).eraseDups.mergeSort Shell.textLe)

/-- A variable as lists show it. What the shell finds out about itself is not found out for them. -/
def listedVariable? (name : Text) : Eval (Option Variable) := do
  let c ← context
  let inCall := !c.calls.isEmpty
  if c.plain.contains name then return ← shownVariable? name
  let found := (c.find? name).getD {}
  match String.ofList name with
  | "BASHPID" | "RANDOM" | "SRANDOM" => return some { found with content := .none, integer := true }
  | "BASH_ARGV0" | "BASH_COMMAND" | "BASH_SUBSHELL" | "EPOCHREALTIME" | "EPOCHSECONDS" | "LINENO"
  | "SECONDS" => return some { found with content := .none }
  | "DIRSTACK" | "GROUPS" => return some { found with content := .indexed [] }
  | "FUNCNAME" =>
    if inCall then shownVariable? name
    else return some { found with content := .indexed [], pending := true }
  | _ => shownVariable? name

/-- Shows the declarations of the variables that a test holds of. -/
def showDeclarations (shown : Variable → Bool) : Eval Unit := do
  for name in ← allNames do
    if let some v := ← listedVariable? name then
      if shown v then printLine (declaration name v)

/-- Shows the variables as assignments. -/
def showAssignments : Eval Unit := do
  for name in ← allNames do
    if let some v := ← listedVariable? name then
      match v.content with
      | .none => pure ()
      | .text value => printLine (name ++ '=' :: (if value.isEmpty then [] else quotedIfNeeded value))
      | content => if !v.pending then printLine (name ++ '=' :: shownList content)

def showFunctions (names : List Text) (onlyNames : Bool) : Eval Nat := do
  let c ← context
  let all := if names.isEmpty then (c.functions.map (·.1)).mergeSort Shell.textLe else names
  forEach all fun name => do
    match c.functions.lookup name with
    | some definition => do
      if onlyNames then
        printLine (if names.isEmpty then "declare -f ".toList ++ name else name)
      else printLine (Printer.functionText name definition.body)
      pure true
    | none => pure false

section

variable (r : Shell.Runner)

/-- Declares one variable with the attributes of some letters. -/
def declareOne (builtin : Text) (isLocal : Bool) (attributes : List (Bool × Char))
    (arg : Argument) : Eval Bool := do
  let d := match arg with
    | .text text => declared text
    | .list name appends _ => { name, appends }
  if !Shell.isName d.name then
    let shown := match arg with
      | .text text => text
      | .list name _ _ => name
    modifySelf (fun p => { p with builtin := some builtin })
    warn (notValid shown)
    return false
  if isLocal then makeLocal d.name
  let isReference := attributes.contains (true, 'n')
  let (name, _) ← if isReference then pure (d.name, none) else resolved d.name
  let assigns := d.value.isSome || (match arg with
    | .list _ _ _ => true
    | _ => false)
  let v := ((← context).find? name).getD {}
  if v.readonly ∧ (assigns ∨ attributes.contains (false, 'r')) then
    warn (Text.toString name ++ ": readonly variable")
    return false
  let isKeyed := v.content.isKeyed
  if attributes.contains (true, 'a') ∧ isKeyed then
    warn (Text.toString name ++ ": cannot convert associative to indexed array")
    return false
  if attributes.contains (true, 'A') ∧ v.content.isList ∧ !isKeyed then
    warn (Text.toString name ++ ": cannot convert indexed to associative array")
    return false
  let early := attributes.filter (·.2 ≠ 'r')
  mark name (fun v => early.foldl (fun v (on, letter) => withAttribute on letter v) v)
  match arg, d.value with
  | .list _ appends elements, _ => do
    let v := ((← context).find? name).getD {}
    if !v.content.isList then mark name (withAttribute true 'a')
    assignElements r name elements appends
  | _, some value => do
    if isReference then mark name (fun v => { v with content := .text value })
    else assign name d.subscript value d.appends
  | _, none => pure ()
  if attributes.contains (true, 'r') then mark name (withAttribute true 'r')
  pure true

/-- The letters of a declaration with whether each is to be set. -/
def attributesOf (options : List (Char × Char × Text)) : List (Bool × Char) :=
  options.filterMap fun (sign, letter, _) =>
    if "aAilucnrtx".toList.contains letter then some (sign = '-', letter) else none

/-- Whether a variable is all that some letters ask for. -/
def isAll (attributes : List (Bool × Char)) (v : Variable) : Bool :=
  attributes.all fun (_, letter) =>
    match letter with
    | 'a' => v.content.isList && !v.content.isKeyed
    | 'A' => v.content.isKeyed
    | 'i' => v.integer
    | 'l' => v.recasing = some .lower
    | 'u' => v.recasing = some .upper
    | 'n' => v.reference
    | 'r' => v.readonly
    | 't' => v.traced
    | 'x' => v.exported
    | _ => true

/-- The arguments behind the options. -/
def splitArguments (withPlus : Bool) (allowed : String) (args : List Argument) :
    Eval (List (Char × Char × Text) × List Argument) := do
  let texts := args.map Argument.toText
  let (options, rest) ← readSigned withPlus (Shell.optionsOf allowed.toList) (texts.length + 1) texts
  pure (options, args.drop (args.length - rest.length))

def declareBuiltin (args : List Argument) : Eval Nat := do
  let builtin := (← self).builtin.getD []
  let (options, rest) ← splitArguments true "aAfFgiIlnrtucxp" args
  let has (c : Char) : Bool := options.any (fun o => o.2.1 = c)
  let attributes := attributesOf options
  let isLocal := (← inCall) && !has 'g'
  if has 'F' ∨ has 'f' then
    if attributes.contains (true, 'r') ∨ attributes.contains (true, 'x') then
      return ← forEach (rest.map Argument.toText) fun name => do
        let known := ((← context).functions.lookup name).isSome
        modifyContext (fun c => { c with functions := c.functions.map (fun (e : Text × Definition) =>
          if e.1 = name then (name, { e.2 with
            readonly := e.2.readonly || attributes.contains (true, 'r')
            exported := e.2.exported || attributes.contains (true, 'x') }) else e) })
        pure known
    return ← showFunctions (rest.map Argument.toText) (has 'F')
  if rest.isEmpty then
    if has 'p' ∨ !attributes.isEmpty then showDeclarations (isAll attributes)
    else do
      showAssignments
      let _ ← showFunctions [] false
    return 0
  if has 'p' then
    forEach (rest.map Argument.toText) fun name => do
      match ← shownVariable? name with
      | some v => do
        printLine (declaration name v)
        pure true
      | none => do
        warn (Text.toString name ++ ": not found")
        pure false
  else
    rest.foldlM (fun status arg => do
      pure (if ← declareOne r builtin isLocal attributes arg then status else 1)) 0

def localBuiltin (args : List Argument) : Eval Nat := do
  if !(← inCall) then refuse "can only be used in a function"
  let builtin := (← self).builtin.getD []
  let (options, rest) ← splitArguments true "aAiIlnrtucxp" args
  let attributes := attributesOf options
  if rest.isEmpty then
    let scope : Scope := ((← context).scopes.find? (·.isCall)).getD {}
    (scope.entries.mergeSort (fun a b => Shell.textLe a.1 b.1)).forM fun (name, v) =>
      printLine (declaration name v)
    return 0
  rest.foldlM (fun status arg => do
    match arg with
    | .text ['-'] => do
      let options := (← self).options
      modifyContext (fun c => { c with scopes := updateCall (fun scope =>
        { scope with options := some (scope.options.getD options) }) c.scopes })
      pure status
    | arg => do
      pure (if ← declareOne r builtin true attributes arg then status else 1)) 0

/-- Marks variables with a letter, or takes the mark away. -/
def markAll (letter : Char) (on : Bool) (args : List Argument) : Eval Nat := do
  let builtin := (← self).builtin.getD []
  args.foldlM (fun status arg => do
    let d := declared arg.toText
    if !Shell.isName d.name then
      modifySelf (fun p => { p with builtin := some builtin })
      warn (notValid arg.toText)
      return 1
    let (name, _) ← resolved d.name
    match arg, d.value with
    | .list _ appends elements, _ => do assignElements r name elements appends
    | _, some value => do assign name d.subscript value d.appends
    | _, none => pure ()
    mark name (withAttribute on letter)
    pure status) 0

def exportBuiltin (args : List Argument) : Eval Nat := do
  let (options, rest) ← splitArguments false "fnp" args
  let has (c : Char) : Bool := options.any (fun o => o.2.1 = c)
  if has 'f' then
    forEach (rest.map Argument.toText) fun name => do
      if ((← context).functions.lookup name).isSome then
        modifyContext (fun c => { c with functions := c.functions.map (fun (e : Text × Definition) =>
          if e.1 = name then (name, { e.2 with exported := !has 'n' }) else e) })
        pure true
      else
        warn (Text.toString name ++ ": not a function")
        pure false
  else if rest.isEmpty then do
    showDeclarations (·.exported)
    pure 0
  else markAll r 'x' (!has 'n') rest

def readonlyBuiltin (args : List Argument) : Eval Nat := do
  let (options, rest) ← splitArguments false "aAfp" args
  let has (c : Char) : Bool := options.any (fun o => o.2.1 = c)
  if has 'f' then
    modifyContext (fun c => { c with functions := c.functions.map (fun (e : Text × Definition) =>
      if rest.any (fun arg => arg.toText = e.1) then (e.1, { e.2 with readonly := true }) else e) })
    pure 0
  else if rest.isEmpty then do
    showDeclarations (·.readonly)
    pure 0
  else
    if has 'a' ∨ has 'A' then
      rest.forM fun arg => mark (declared arg.toText).name
        (withAttribute true (if has 'A' then 'A' else 'a'))
    markAll r 'r' true rest

end

/-! ## Taking variables away -/

/-- Takes an element out of a list. -/
def removeElement (name subscript : Text) : Eval Unit := do
  let content : Option Content := ((← context).find? name).map (·.content)
  match content with
  | some (.keyed elements) =>
    let elements := if subscript = ['@'] ∨ subscript = ['*'] then []
      else elements.filter (·.1 ≠ subscript)
    assignList name (.keyed elements)
  | some (.indexed elements) =>
    if subscript = ['@'] ∨ subscript = ['*'] then assignList name (.indexed [])
    else
      let n ← Arithmetic.evaluate subscript
      let index ← Arithmetic.placeOf name subscript n
      assignList name (.indexed (elements.filter (·.1 ≠ index)))
  | _ => pure ()

def removeVariable (name : Text) : Eval Unit := do
  if ownVariables.contains (String.ofList name) then
    modifyContext (fun c => { c with plain := name :: c.plain })
  notice name []
  modifyContext (fun c => { c with scopes := removeFromScopes name c.scopes })

def unsetBuiltin (args : List Text) : Eval Nat := do
  let (options, names) ← readOptions "fvn" args
  if hasOption options 'f' ∧ hasOption options 'v' then
    refuse "cannot simultaneously unset a function and a variable"
  forEach names fun text => do
    let (name, subscript) := splitReference text
    let (name, subscript) ← if hasOption options 'n' then pure (name, subscript)
      else resolved name subscript
    let c ← context
    if hasOption options 'v' ∧ !Shell.isName name then
      warn (notValid text)
      return false
    match c.find? name with
    | some v =>
      if hasOption options 'f' then removeFunction name
      else if v.readonly then
        warn (Text.toString name ++ ": cannot unset: readonly variable")
        pure false
      else
        match subscript with
        | some key => do
          removeElement name key
          pure true
        | none => do
          removeVariable name
          pure true
    | none =>
      if ownVariables.contains (String.ofList name) ∧ !hasOption options 'f' then
        removeVariable name
        pure true
      else if hasOption options 'v' then pure true
      else removeFunction name
where
  removeFunction (name : Text) : Eval Bool := do
    match (← context).functions.lookup name with
    | some definition =>
      if definition.readonly then
        warn (Text.toString name ++ ": cannot unset: readonly function")
        pure false
      else do
        modifyContext (fun c => { c with functions := c.functions.filter (·.1 ≠ name) })
        pure true
    | none => pure true

/-! ## Options -/

def setArgs (args : List Text) : Eval Unit := modifySelf (fun p => { p with args })

/-- A text that is filled up with blanks. -/
def column (width : Nat) (text : String) : Text :=
  text.toList ++ List.replicate (width - text.length) ' '

/-- Lists the options, in a form that sets them again if the list is asked for with a plus. -/
def listOptions (sign : Char) : Eval Unit := do
  let p ← self
  optionNames.forM fun option =>
    printLine (if sign = '-' then
        column 15 option ++ '\t' :: (if p.has option then "on" else "off").toList
      else (if p.has option then "set -o " else "set +o ").toList ++ option.toList)

def setOption (sign : Char) (option : String) : Eval Unit :=
  modifySelf (·.setOption option (sign = '-'))

/-- The letters of one argument, and the arguments behind the names that belong to them. -/
def setLetters (sign : Char) : (letters : Text) → (rest : List Text) → Eval (List Text)
  | [], rest => pure rest
  | 'o' :: letters, rest => do
    match rest with
    | [] => do
      listOptions sign
      setLetters sign letters []
    | name :: rest => do
      let option := String.ofList name
      if !optionNames.contains option then
        refuse (Text.toString name ++ ": invalid option name") 2
      setOption sign option
      setLetters sign letters rest
  | c :: letters, rest => do
    match optionLetters.lookup c with
    | some option => do
      setOption sign option
      setLetters sign letters rest
    | none => misused (Text.toString [sign, c] ++ ": invalid option")

/-- Sets options, and gives the arguments behind them if there are to be new ones. -/
def setOptions : (fuel : Nat) → List Text → Eval (Option (List Text))
  | 0, _ => pure none
  | fuel + 1, args =>
    match args with
    | [] => pure none
    | ['-', '-'] :: rest => pure (some rest)
    | ['-'] :: rest => do
      modifySelf (fun p => (p.setOption "xtrace" false).setOption "verbose" false)
      pure (if rest.isEmpty then none else some rest)
    | (sign :: c :: letters) :: rest =>
      if sign = '-' ∨ sign = '+' then do
        let rest ← setLetters sign (c :: letters) rest
        setOptions fuel rest
      else pure (some args)
    | _ => pure (some args)

def setBuiltin (args : List Text) : Eval Nat := do
  if args.isEmpty then
    showAssignments
    if !(← self).has "posix" then
      let _ ← showFunctions [] false
    return 0
  match ← setOptions (args.length + 1) args with
  | some args => setArgs args
  | none => pure ()
  pure 0

/-- Whether a special option is on; the plain ones are asked for with `plain`. -/
def isOn (plain : Bool) (option : String) : Eval Bool := do
  if plain then return (← self).has option else return (← context).has option

def shoptBuiltin (args : List Text) : Eval Nat := do
  let (options, names) ← readOptions "pqsuo" args
  let plain := hasOption options 'o'
  let known := if plain then optionNames else extraOptions.map (·.1)
  let sets := hasOption options 's'
  let unsets := hasOption options 'u'
  if sets ∧ unsets then refuse "cannot set and unset shell options simultaneously"
  let tell (option : String) : Eval Unit := do
    let on ← isOn plain option
    if hasOption options 'p' then
      let command := if plain then (if on then "set -o " else "set +o ")
        else if on then "shopt -s " else "shopt -u "
      printLine (command ++ option).toList
    else if !hasOption options 'q' then
      printLine (column 15 option ++ '\t' :: (if on then "on" else "off").toList)
  if names.isEmpty then
    for option in known do
      let on ← isOn plain option
      if (!sets ∧ !unsets) ∨ (sets ∧ on) ∨ (unsets ∧ !on) then tell option
    return 0
  forEach names fun name => do
    let option := String.ofList name
    if !known.contains option then
      warn (Text.toString name ++ (if plain then ": invalid option name"
        else ": invalid shell option name"))
      return false
    if sets ∨ unsets then
      if plain then setOption (if sets then '-' else '+') option
      else modifyContext (fun c => { c with
        extras := (if sets then [option] else []) ++ c.extras.filter (· ≠ option) })
      pure true
    else do
      tell option
      isOn plain option

def shiftBuiltin (args : List Text) : Eval Nat := do
  let args ← plainArgs args
  let n ← match args with
    | [] => pure 1
    | [arg] => numberArg arg 1
    | _ => refuse "too many arguments"
  let p ← self
  if n < 0 then refuse (toString n ++ ": shift count out of range")
  if p.args.length < n.toNat then
    if (← context).has "shift_verbose" then refuse (toString n ++ ": shift count out of range")
    return 1
  setArgs (p.args.drop n.toNat)
  pure 0

end Slipway.Rich
