import Slipway.Rich.Format
import Slipway.Rich.Programs

/-!
# Options and output of rich builtins

Reading the options in front of the arguments of a builtin, and how builtins are used. Builtins that
write: texts as they are, formatted texts, and the value of sums.
-/

namespace Slipway.Rich

open Shell (Text Eval self modifySelf setStatus complain)

/-- How builtins are used. -/
def usages : List (String × String) := [
  (".", ". filename [arguments]"),
  ("alias", "alias [-p] [name[=value] ... ]"),
  ("bg", "bg [job_spec ...]"),
  ("break", "break [n]"),
  ("builtin", "builtin [shell-builtin [arg ...]]"),
  ("caller", "caller [expr]"),
  ("cd", "cd [-L|[-P [-e]] [-@]] [dir]"),
  ("command", "command [-pVv] command [arg ...]"),
  ("compgen", "compgen [-abcdefgjksuv] [-o option] [-A action] [-G globpat] [-W wordlist] [-F function] [-C command] [-X filterpat] [-P prefix] [-S suffix] [word]"),
  ("continue", "continue [n]"),
  ("declare", "declare [-aAfFgiIlnrtux] [name[=value] ...] or declare -p [-aAfFilnrtux] [name ...]"),
  ("dirs", "dirs [-clpv] [+N] [-N]"),
  ("disown", "disown [-h] [-ar] [jobspec ... | pid ...]"),
  ("enable", "enable [-a] [-dnps] [-f filename] [name ...]"),
  ("eval", "eval [arg ...]"),
  ("exec", "exec [-cl] [-a name] [command [argument ...]] [redirection ...]"),
  ("exit", "exit [n]"),
  ("export", "export [-fn] [name[=value] ...] or export -p"),
  ("fg", "fg [job_spec]"),
  ("getopts", "getopts optstring name [arg ...]"),
  ("hash", "hash [-lr] [-p pathname] [-dt] [name ...]"),
  ("jobs", "jobs [-lnprs] [jobspec ...] or jobs -x command [args]"),
  ("kill", "kill [-s sigspec | -n signum | -sigspec] pid | jobspec ... or kill -l [sigspec]"),
  ("let", "let arg [arg ...]"),
  ("local", "local [option] name[=value] ..."),
  ("mapfile", "mapfile [-d delim] [-n count] [-O origin] [-s count] [-t] [-u fd] [-C callback] [-c quantum] [array]"),
  ("popd", "popd [-n] [+N | -N]"),
  ("printf", "printf [-v var] format [arguments]"),
  ("pushd", "pushd [-n] [+N | -N | dir]"),
  ("pwd", "pwd [-LP]"),
  ("read", "read [-ers] [-a array] [-d delim] [-i text] [-n nchars] [-N nchars] [-p prompt] [-t timeout] [-u fd] [name ...]"),
  ("readarray", "readarray [-d delim] [-n count] [-O origin] [-s count] [-t] [-u fd] [-C callback] [-c quantum] [array]"),
  ("readonly", "readonly [-aAf] [name[=value] ...] or readonly -p"),
  ("return", "return [n]"),
  ("set", "set [-abefhkmnptuvxBCEHPT] [-o option-name] [--] [-] [arg ...]"),
  ("shift", "shift [n]"),
  ("shopt", "shopt [-pqsu] [-o] [optname ...]"),
  ("source", "source filename [arguments]"),
  ("suspend", "suspend [-f]"),
  ("times", "times"),
  ("trap", "trap [-lp] [[arg] signal_spec ...]"),
  ("type", "type [-afptP] name [name ...]"),
  ("typeset", "typeset [-aAfFgiIlnrtux] name[=value] ... or typeset -p [-aAfFilnrtux] [name ...]"),
  ("ulimit", "ulimit [-SHabcdefiklmnpqrstuvxPRT] [limit]"),
  ("umask", "umask [-p] [-S] [mode]"),
  ("unalias", "unalias [-a] name [name ...]"),
  ("unset", "unset [-f] [-v] [-n] [name ...]"),
  ("wait", "wait [-fn] [-p var] [id ...]")]

/-- An argument of a builtin, which can be an assignment of a whole list. -/
inductive Argument
  | text (text : Text)
  | list (name : Text) (appends : Bool) (elements : List Element)

def Argument.toText : Argument → Text
  | text value => value
  | list name _ _ => name

/-- Tells how the builtin is used. -/
def showUsage {α : Type} : Eval α := do
  let name := String.ofList ((← self).builtin.getD [])
  complain (name ++ ": usage: " ++ (usages.lookup name).getD name ++ "\n")
  setStatus 2
  throw .error

/-- Refuses the use of a builtin. -/
def misused {α : Type} (message : String) : Eval α := do
  warn message
  showUsage

/-- The letters of one argument, and the arguments behind what belongs to them. -/
def readLetters (sign : Char) (allowed : List (Char × Bool)) : (letters : Text) →
    (rest : List Text) → Eval (List (Char × Char × Text) × List Text)
  | [], rest => pure ([], rest)
  | c :: letters, rest => do
    match allowed.lookup c with
    | none => misused (Text.toString [sign, c] ++ ": invalid option")
    | some false => do
      let (more, rest) ← readLetters sign allowed letters rest
      pure ((sign, c, []) :: more, rest)
    | some true =>
      if !letters.isEmpty then pure ([(sign, c, letters)], rest)
      else
        match rest with
        | arg :: rest => pure ([(sign, c, arg)], rest)
        | [] => misused (Text.toString [sign, c] ++ ": option requires an argument")

/-- The options in front, in their order, and the other arguments. Options can begin with a plus
where that has a meaning. -/
def readSigned (withPlus : Bool) (allowed : List (Char × Bool)) : (fuel : Nat) → List Text →
    Eval (List (Char × Char × Text) × List Text)
  | 0, args => pure ([], args)
  | fuel + 1, args =>
    match args with
    | ['-', '-'] :: rest => pure ([], rest)
    | (sign :: c :: letters) :: rest =>
      if sign = '-' ∨ (withPlus ∧ sign = '+') then do
        let (first, rest) ← readLetters sign allowed (c :: letters) rest
        let (more, rest) ← readSigned withPlus allowed fuel rest
        pure (first ++ more, rest)
      else pure ([], args)
    | args => pure ([], args)

/-- The options of a builtin, by their letters; a colon stands behind those with arguments. -/
def readOptions (allowed : String) (args : List Text) : Eval (List (Char × Text) × List Text) := do
  let (options, rest) ← readSigned false (Shell.optionsOf allowed.toList) (args.length + 1) args
  pure (options.map (·.2), rest)

def hasOption (options : List (Char × Text)) (c : Char) : Bool := options.any (·.1 = c)

def optionArg? (options : List (Char × Text)) (c : Char) : Option Text :=
  (options.filter (·.1 = c)).getLast?.map (·.2)

/-- The arguments of a builtin that has no options. -/
def plainArgs (args : List Text) : Eval (List Text) := return (← readOptions "" args).2

/-- A number that is an argument. -/
def numberArg (text : Text) (status : Nat := 2) : Eval Int := do
  match Shell.number? 10 text with
  | some n =>
    if text.isEmpty ∨ text.all isSpaceChar then
      refuse (Text.toString text ++ ": numeric argument required") status
    else pure n
  | none => refuse (Text.toString text ++ ": numeric argument required") status

/-- Does something with each of the arguments; the status is 1 when one of them fails. -/
def forEach (args : List Text) (task : Text → Eval Bool) : Eval Nat :=
  args.foldlM (fun status arg => do pure (if ← task arg then status else 1)) 0

def notValid (name : Text) : String :=
  "\x60" ++ Text.toString name ++ "': not a valid identifier"

/-- Does something that only fails by itself. -/
def softly (task : Eval Unit) : Eval Bool := do
  match ← Shell.attempt task with
  | .ok () => pure true
  | .error .error => pure false
  | .error stop => throw stop

end Slipway.Rich

namespace Slipway.Rich

open Shell (Text Eval self setStatus printLine)

/-! ## Output -/

/-- The flags of `echo` in front of its arguments: whether a line end follows, and whether escapes
count. -/
def echoFlags (newline escapes : Bool) : List Text → Bool × Bool × List Text
  | [] => (newline, escapes, [])
  | arg :: rest =>
    match arg with
    | '-' :: letters =>
      if !letters.isEmpty ∧ letters.all (fun c => "neE".toList.contains c) then
        let escapes := letters.foldl (fun escapes c =>
          if c = 'e' then true else if c = 'E' then false else escapes) escapes
        echoFlags (newline && !letters.contains 'n') escapes rest
      else (newline, escapes, arg :: rest)
    | _ => (newline, escapes, arg :: rest)

def echoBuiltin (args : List Text) : Eval Nat := do
  let (newline, escapes, args) := echoFlags true ((← context).has "xpg_echo") args
  let text := List.intercalate [' '] args
  let (text, ended) := if escapes then unescaped echoEscapes text else (text, false)
  Shell.print (if newline && !ended then text ++ ['\n'] else text)
  pure 0

def printfBuiltin (args : List Text) : Eval Nat := do
  let (options, args) ← readOptions "v:" args
  match args with
  | [] => showUsage
  | template :: args => do
    let target := optionArg? options 'v'
    if let some name := target then
      if !Shell.isName (splitReference name).1 then refuse (notValid name) 2
    let f := format (← get).machine.now template args
    match target with
    | some name => do assignNamed name f.text
    | none => Shell.print f.text
    f.problems.reverse.forM warn
    match f.failure with
    | some text => refuse text
    | none => pure (if f.problems.any (fun text => !text.startsWith "warning") then 1 else 0)

/-- Evaluates expressions; the status tells whether the last one is zero. -/
def letBuiltin (args : List Text) : Eval Nat := do
  let args := if args.head? = some "--".toList then args.drop 1 else args
  if args.isEmpty then refuse "expression expected"
  match ← Shell.attempt (args.foldlM (fun _ arg => Arithmetic.evaluate arg) 0) with
  | .ok n => pure (if n = 0 then 1 else 0)
  | .error .discard => pure 1
  | .error stop => throw stop

def testBuiltin (args : List Text) : Eval Nat := do
  pure (if ← Test.ofArguments args then 0 else 1)

/-- The condition in brackets has to end in one. -/
def bracketBuiltin (args : List Text) : Eval Nat := do
  if args.getLast? ≠ some [']'] then refuse "missing \x60]'" 2
  testBuiltin args.dropLast

end Slipway.Rich
