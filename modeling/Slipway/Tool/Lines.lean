import Slipway.Tool.Options

/-!
# Lines

Texts as lines, and the inputs of a program one after the other.
-/

namespace Slipway.Tool

open Shell

/-- The parts of a text between separators. A separator at the end ends the last part. -/
def splitAtChar (separator : Char) : Text → List Text
  | [] => []
  | c :: rest =>
    if c = separator then [] :: splitAtChar separator rest
    else
      match splitAtChar separator rest with
      | [] => [[c]]
      | first :: others => (c :: first) :: others

def linesOf (text : Text) : List Text := splitAtChar '\n' text

/-- Whether the last line of a text has no end. -/
def endsOpen (text : Text) : Bool := !text.isEmpty && text.getLast? != some '\n'

/-- The lines of a text, each with its end if it has one. -/
def wholeLines : Text → List Text
  | [] => []
  | c :: rest =>
    if c = '\n' then [c] :: wholeLines rest
    else
      match wholeLines rest with
      | [] => [[c]]
      | first :: others => (c :: first) :: others

/-- Opens an input; `-` is the standard input. -/
def openInput (name : Text) : Eval (Except SystemError Nat) := do
  if name = ['-'] then
    match (← get).channel? 0 with
    | some id => pure (.ok id)
    | none => pure (.error badDescriptor)
  else openFile .read name

/-- All of an input. -/
def readText (name : Text) : Eval (Except SystemError Text) := do
  match ← openInput name with
  | .error e => pure (.error e)
  | .ok id => return (← readAll id).map Text.ofBytes

/-- What a program says about an input that cannot be read. -/
def blameInput (name : Text) (e : SystemError) : Eval Bool :=
  blame (shown name ++ ": " ++ errorText e)

/-- The inputs that can be read, and whether all can. The others are told of. -/
def readInputs (names : List Text) : Eval (List (Text × Text) × Bool) := do
  let found ← names.mapM fun name => do
    match ← readText name with
    | .ok text => pure (some (name, text))
    | .error e => do
      let _ ← blameInput name e
      pure none
  pure (found.filterMap id, found.all Option.isSome)

/-- A number with blanks in front of it. -/
def padLeft (width : Nat) (text : Text) : Text :=
  List.replicate (width - text.length) ' ' ++ text

def padRight (width : Nat) (text : Text) : Text :=
  text ++ List.replicate (width - text.length) ' '

def naturalText (n : Nat) : Text := (toString n).toList

end Slipway.Tool
