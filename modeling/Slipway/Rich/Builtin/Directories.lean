import Slipway.Rich.Builtin.Declarations
import Slipway.Shell.Builtin.Directories

/-!
# Builtins of rich scripts for directories

The current directory, the stack of directories that can be gone back to, and the mode of new files.
-/

namespace Slipway.Rich

open Shell (Text Eval self modifySelf setStatus printLine naturalText act)

/-- The current directory without links. -/
def physicalDirectory : Eval Text := do
  match ← act .currentDirectory with
  | .ok path => pure (Text.ofString path.text)
  | .error _ => pure []

/-- The current directory as it was reached. -/
def currentDirectory : Eval Text := do
  match (← self).directory with
  | some directory => pure directory
  | none => physicalDirectory

/-- Notes a new current directory, and the one before. -/
def setDirectory (path : Text) : Eval Unit := do
  let before := (← text? "PWD").getD []
  modifySelf (fun p => { p with directory := some path })
  putText "OLDPWD".toList before
  putText "PWD".toList path

/-- Goes to a directory, or tells why that cannot be. -/
def goTo (path : Text) (physical : Bool) : Eval (Except SystemError Unit) := do
  let current ← currentDirectory
  let logical := Shell.logicalPath current path
  let s ← get
  let target := if physical then path else logical
  match s.machine.enter? (Shell.pathOf target), s.machine.enter? (Shell.pathOf path) with
  | some machine, _ => do
    set { s with machine }
    let place ← if physical then physicalDirectory else pure logical
    setDirectory place
    pure (.ok ())
  | none, some machine => do
    set { s with machine }
    setDirectory (← physicalDirectory)
    pure (.ok ())
  | none, none =>
    match ← Shell.findNode (Shell.pathOf path) with
    | .ok (_, .directory _) => pure (.error .noAccess)
    | .ok _ => pure (.error .notDirectory)
    | .error e => pure (.error e)

def cdBuiltin (args : List Text) : Eval Nat := do
  let (options, operands) ← readOptions "LPe@" args
  let letters := (options.map (·.1)).filter (fun c => c = 'L' || c = 'P')
  let physical := letters.getLast? = some 'P' || (letters.isEmpty && (← self).has "physical")
  let (target, shows) ← match operands with
    | [] => do
      match ← text? "HOME" with
      | some home => pure (home, false)
      | none => refuse "HOME not set"
    | [['-']] => do
      match ← text? "OLDPWD" with
      | some old => pure (old, true)
      | none => refuse "OLDPWD not set"
    | [target] => pure (target, false)
    | _ => refuse "too many arguments"
  if target.isEmpty then return 0
  let (path, shows) ← if Shell.isFixedPath target then pure (target, shows)
    else do
      let places := ((← text? "CDPATH").getD []).splitOn ':'
      match ← Shell.searchDirectory target (places.filter (fun place => !place.isEmpty)) with
      | some (path, isNamed) => pure (path, shows || isNamed)
      | none => pure (target, shows)
  match ← goTo path physical with
  | .ok () => do
    if shows then printLine (← currentDirectory)
    pure 0
  | .error e => refuse (Text.toString target ++ ": " ++ Shell.errorText e)

def pwdBuiltin (args : List Text) : Eval Nat := do
  let (options, _) ← readOptions "LP" args
  if (options.getLast?.map (·.1)) = some 'P' then printLine (← physicalDirectory)
  else printLine (← currentDirectory)
  pure 0

/-! ## The stack of directories -/

/-- All directories of the stack, the current one first. -/
def directoryStack : Eval (List Text) := return (← currentDirectory) :: (← context).directories

/-- The number in an argument such as `+2` or `-0`, counted from the first directory. -/
def stackIndex? (arg : Text) (size : Nat) : Option Nat :=
  match arg with
  | '+' :: digits => if !digits.isEmpty ∧ digits.all Char.isDigit then
      some (Shell.valueOfDigits 10 digits) else none
  | '-' :: digits => if !digits.isEmpty ∧ digits.all Char.isDigit then
      some (size - 1 - Shell.valueOfDigits 10 digits) else none
  | _ => none

def showStack : Eval Unit := do
  let home ← text? "HOME"
  printLine (List.intercalate [' '] ((← directoryStack).map (withTilde home)))

def dirsBuiltin (args : List Text) : Eval Nat := do
  let stack ← directoryStack
  let isPlace (arg : Text) : Bool := (stackIndex? arg stack.length).isSome
  let places := args.filter isPlace
  let (options, _) ← readOptions "clpv" (args.filter (fun arg => !isPlace arg))
  if hasOption options 'c' then
    modifyContext (fun c => { c with directories := [] })
    return 0
  let home ← if hasOption options 'l' then pure none else text? "HOME"
  let shown := stack.map (withTilde home)
  if let some arg := places.head? then
    match (stackIndex? arg stack.length).bind (fun i => shown[i]?) with
    | some directory => do
      printLine directory
      return 0
    | none => refuse (Text.toString (arg.drop 1) ++ ": directory stack index out of range")
  if hasOption options 'v' then
    shown.zipIdx.forM fun (directory, i) =>
      let number := naturalText i
      printLine (List.replicate (2 - number.length) ' ' ++ number ++ "  ".toList ++ directory)
  else if hasOption options 'p' then shown.forM printLine
  else printLine (List.intercalate [' '] shown)
  pure 0

/-- Goes to the first directory of a stack, and keeps the others. -/
def goToStack (stack : List Text) : Eval Nat := do
  match stack with
  | [] => pure 1
  | first :: rest =>
    match ← goTo first false with
    | .ok () => do
      modifyContext (fun c => { c with directories := rest })
      showStack
      pure 0
    | .error e => refuse (Text.toString first ++ ": " ++ Shell.errorText e)

def pushdBuiltin (args : List Text) : Eval Nat := do
  let stack ← directoryStack
  let keeps := args.contains "-n".toList
  match args.filter (· ≠ "-n".toList) with
  | [] =>
    match stack with
    | first :: second :: rest => goToStack (second :: first :: rest)
    | _ => refuse "no other directory"
  | arg :: _ =>
    match stackIndex? arg stack.length with
    | some i =>
      if stack.length ≤ i then
        refuse (Text.toString arg ++ ": directory stack index out of range")
      else goToStack (stack.drop i ++ stack.take i)
    | none =>
      if keeps then
        modifyContext (fun c => { c with directories := arg :: c.directories })
        showStack
        pure 0
      else goToStack (arg :: stack)

def popdBuiltin (args : List Text) : Eval Nat := do
  let stack ← directoryStack
  match args.filter (· ≠ "-n".toList) with
  | [] =>
    match stack with
    | _ :: second :: rest => goToStack (second :: rest)
    | _ => refuse "directory stack empty"
  | arg :: _ =>
    match stackIndex? arg stack.length with
    | some i =>
      if stack.length ≤ i then
        refuse (Text.toString arg ++ ": directory stack index out of range")
      else if i = 0 then goToStack (stack.drop 1)
      else do
        modifyContext (fun c => { c with directories := (stack.take i ++ stack.drop (i + 1)).drop 1 })
        showStack
        pure 0
    | none => misused (Text.toString arg ++ ": invalid argument")

/-! ## The mode of new files -/

def umaskBuiltin (args : List Text) : Eval Nat := do
  let (options, operands) ← readOptions "pS" args
  let mask := (← self).mask
  match operands with
  | [] => do
    let start := if hasOption options 'p' then
        (if hasOption options 'S' then "umask -S ".toList else "umask ".toList) else []
    printLine (start ++ (if hasOption options 'S' then Mode.symbols (0o777 - mask)
      else Shell.fourDigits mask))
    pure 0
  | text :: _ =>
    let mask ← if (text.head?.map isDigitChar).getD false then
        if text.all Shell.isOctalDigit ∧ Shell.valueOfDigits 8 text ≤ 0o777 then
          pure (Shell.valueOfDigits 8 text)
        else refuse (Text.toString text ++ ": octal number out of range")
      else
        match Mode.change? 0 false (0o777 - mask) text with
        | some mode => pure (0o777 - mode % 0o1000)
        | none =>
          refuse ("\x60" ++ Text.toString (text.take 1) ++ "': invalid symbolic mode character")
    modifySelf (fun p => { p with mask })
    pure 0

end Slipway.Rich
