import Slipway.Machine.Edit
import Slipway.Shell.Builtin.Options
import Slipway.Text.Mode

/-!
# Builtins for directories

The current directory, which the shell remembers as it was reached, and the mode of new files.
-/

namespace Slipway.Shell

/-- The current directory without links, or an empty text if it is gone. -/
def physicalDirectory : Eval Text := do
  match ← act .currentDirectory with
  | .ok path => pure (Text.ofString path.text)
  | .error e => do
    warn ("getcwd() failed: " ++ errorText e)
    pure []

/-- Takes the names of a path one by one; the directory so far has its last name first. -/
def walkNames : (found : List Text) → List Text → List Text
  | found, [] => found
  | found, name :: rest =>
    if name = [] ∨ name = ['.'] then walkNames found rest
    else if name = ['.', '.'] then walkNames (found.drop 1) rest
    else walkNames (name :: found) rest

/-- The path of a directory, seen from the current one, without dots in it. -/
def logicalPath (current path : Text) : Text :=
  let start := if path.head? = some '/' then [] else walkNames [] (Path.split current)
  let twoSlashes := fun (text : Text) =>
    text.take 2 = ['/', '/'] && text[2]? ≠ some '/'
  let root := if twoSlashes (if path.head? = some '/' then path else current) then "//" else "/"
  root.toList ++ List.intercalate ['/'] (walkNames start (Path.split path)).reverse

/-- Notes a new current directory, and the one before if it is to be remembered. -/
def setDirectory (path : Option Text) (remembers : Bool) : Eval Unit := do
  let before := (← self).directory
  if remembers then assign "OLDPWD".toList (before.getD []) true
  let now ← match path with
    | some path => pure path
    | none => physicalDirectory
  modifySelf (fun p => { p with directory := some now })
  assign "PWD".toList now true

/-- Goes to a directory, and tells whether that could be done. -/
def goTo (path : Text) (physical : Bool) : Eval Bool := do
  let current := ((← self).directory).getD []
  let isKnown := path.head? = some '/' ∨ !current.isEmpty
  let logical := if physical ∨ !isKnown then none else some (logicalPath current path)
  let s ← get
  match s.machine.enter? (pathOf (logical.getD path)) with
  | some machine => do
    set { s with machine }
    setDirectory logical true
    pure true
  | none => pure false

/-- Paths that are not looked for in other directories. -/
def isFixedPath (path : Text) : Bool :=
  match path with
  | '/' :: _ => true
  | ['.'] => true
  | '.' :: '/' :: _ => true
  | ['.', '.'] => true
  | '.' :: '.' :: '/' :: _ => true
  | _ => false

/-- The first directory of that name in the places to look at, and whether the place has a name. -/
def searchDirectory (name : Text) : List Text → Eval (Option (Text × Bool))
  | [] => pure none
  | place :: rest => do
    let path := if place.isEmpty then name
      else if place.getLast? = some '/' then place ++ name else place ++ '/' :: name
    if ← act (.isDirectory (pathOf path)) then pure (some (path, !place.isEmpty))
    else searchDirectory name rest

def cdBuiltin (args : List Text) : Eval Nat := do
  let (options, operands) ← readOptions "LP" args
  let physical := (options.getLast?.map (·.1)) = some 'P'
  let p ← self
  let (target, shows) := match operands with
    | [] => ((p.getText? "HOME").getD [], false)
    | ['-'] :: _ => ((p.getText? "OLDPWD").getD [], true)
    | target :: _ => (target, false)
  let (path, shows) ← if isFixedPath target then pure (target, shows)
    else do
      let name := if target.isEmpty then ['.'] else target
      let places := ((p.getText? "CDPATH").getD []).splitOn ':'
      match ← searchDirectory name places with
      | some (path, isNamed) => pure (path, shows || isNamed)
      | none => pure (target, shows)
  if ← goTo path physical then
    if shows then printLine (((← self).directory).getD [])
    pure 0
  else fail ("can't cd to " ++ target.toString)

def pwdBuiltin (args : List Text) : Eval Nat := do
  let (options, _) ← readOptions "LP" args
  if (options.getLast?.map (·.1)) = some 'P' then printLine (← physicalDirectory)
  else printLine (((← self).directory).getD [])
  pure 0

/-! ## The mode of new files -/

def fourDigits (mode : Nat) : Text := fixedDigits 8 4 mode

def umaskBuiltin (args : List Text) : Eval Nat := do
  let (options, operands) ← readOptions "S" args
  let mask := (← self).mask
  match operands with
  | [] => do
    printLine (if options.isEmpty then fourDigits mask else Mode.symbols (0o777 - mask))
    pure 0
  | text :: _ =>
    let mask ← if (text.head?.map isDigitChar).getD false then
        if text.all isOctalDigit then pure (valueOfDigits 8 text % 0o1000) else badNumber text
      else
        match Mode.change? 0 false (0o777 - mask) text with
        | some mode => pure (0o777 - mode % 0o1000)
        | none => fail ("Illegal mode: " ++ text.toString)
    modifySelf (fun p => { p with mask })
    pure 0

end Slipway.Shell
