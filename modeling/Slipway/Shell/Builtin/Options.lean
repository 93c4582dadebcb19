import Slipway.Shell.Expansion

/-!
# Options of builtins

Reading the options in front of the arguments of a builtin, and how texts are shown in a form that
the shell reads again.
-/

namespace Slipway.Shell

/-- The letters that stand for options, each with whether an argument belongs to it. -/
def optionsOf : Text → List (Char × Bool)
  | c :: ':' :: rest => (c, true) :: optionsOf rest
  | c :: rest => (c, false) :: optionsOf rest
  | [] => []

/-- The letters of one argument, and the arguments behind what belongs to them. -/
def readLetters (allowed : List (Char × Bool)) : (letters : Text) → (rest : List Text) →
    Eval (List (Char × Text) × List Text)
  | [], rest => pure ([], rest)
  | c :: letters, rest => do
    match allowed.lookup c with
    | none => fail ("Illegal option -" ++ (Text.toString [c]))
    | some false => do
      let (more, rest) ← readLetters allowed letters rest
      pure ((c, []) :: more, rest)
    | some true =>
      if !letters.isEmpty then pure ([(c, letters)], rest)
      else
        match rest with
        | arg :: rest => pure ([(c, arg)], rest)
        | [] => fail ("No arg for -" ++ (Text.toString [c]) ++ " option")

/-- The options in front, in their order, and the other arguments. -/
def readOptionsFrom (allowed : List (Char × Bool)) : (fuel : Nat) → List Text →
    Eval (List (Char × Text) × List Text)
  | 0, args => pure ([], args)
  | fuel + 1, args =>
    match args with
    | ['-', '-'] :: rest => pure ([], rest)
    | ('-' :: c :: letters) :: rest => do
      let (first, rest) ← readLetters allowed (c :: letters) rest
      let (more, rest) ← readOptionsFrom allowed fuel rest
      pure (first ++ more, rest)
    | args => pure ([], args)

def readOptions (allowed : String) (args : List Text) : Eval (List (Char × Text) × List Text) :=
  readOptionsFrom (optionsOf allowed.toList) (args.length + 1) args

/-- The arguments of a builtin that has no options. -/
def plainArgs (args : List Text) : Eval (List Text) := return (← readOptions "" args).2

def quotedText (text : Text) : Text :=
  '\'' :: text.flatMap (fun c => if c = '\'' then "'\"'\"'".toList else [c]) ++ ['\'']

/-- A name with what stands behind its first equals sign. -/
def splitName (text : Text) : Text × Option Text :=
  let name := text.takeWhile (· ≠ '=')
  (name, if name.length < text.length then some (text.drop (name.length + 1)) else none)

/-- Does something with each of the arguments; the status is 1 when one of them fails. -/
def forEach (args : List Text) (task : Text → Eval Bool) : Eval Nat :=
  args.foldlM (fun status arg => do pure (if ← task arg then status else 1)) 0

end Slipway.Shell
