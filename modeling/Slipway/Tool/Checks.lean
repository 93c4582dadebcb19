import Slipway.Regex.Parser
import Slipway.Tool.Making
import Slipway.Tool.Starting

/-!
# Programs for scripts

Names of files that can be used anywhere, places of programs, the options of a script, and all
programs of a directory.
-/

namespace Slipway.Tool

open Shell

/-! ## pathchk -/

/-- Characters that names can have anywhere. -/
def isPortableChar (c : Char) : Bool := isLetterChar c || isDigitChar c || "._-".toList.contains c

/-- What is wrong with a name, if anything is. -/
def pathProblem (portable special : Bool) (m : Machine) (path : Text) : Option String :=
  let parts := path.splitOn '/'
  let longest := if portable then 14 else 255
  let all := if portable then 256 else 4096
  if special ∧ path.isEmpty then some "empty file name"
  else if special ∧ parts.any (fun part => part.head? = some '-') then
    some ("leading '-' in a component of file name " ++ quoted path)
  else
    match if portable then path.find? (fun c => !isPortableChar c ∧ c ≠ '/') else none with
    | some c =>
      some ("nonportable character " ++ emphasized [c] ++ " in file name " ++ quoted path)
    | none =>
      if portable ∧ path.isEmpty then some "empty file name"
      else
        let found : Except SystemError Unit :=
          (m.files.findNode m.directory (pathOf path) false).map (fun _ => ())
        if !portable ∧ found.toOption.isSome then none
        else
          let trouble : Option SystemError := match found with
            | .error e => if !portable ∧ (e ≠ .noEntry ∨ path.isEmpty) then some e else none
            | .ok _ => none
          match trouble with
          | some e => some (shown path ++ ": " ++ errorText e)
          | none =>
            if all ≤ path.length then
              some ("limit " ++ toString (all - 1) ++ " exceeded by length " ++ toString path.length
                ++ " of file name " ++ quoted path)
            else
              (parts.find? (fun (part : Text) => longest < part.length)).map fun (part : Text) =>
                "limit " ++ toString longest ++ " exceeded by length " ++ toString part.length
                  ++ " of file name component " ++ emphasized part

def pathchk (args : List Text) : Eval Nat :=
  withArguments [flag 'p', flag 'P', longFlag "portability"] args fun a => do
    if a.operands.isEmpty then missingOperand
    else
      let all := a.has "portability"
      forEach a.operands fun path => do
        match pathProblem (all || a.has "p") (all || a.has "P") (← get).machine path with
        | none => pure true
        | some text => blame text

/-! ## which -/

/-- Where programs are found on the search path. -/
def which (args : List Text) : Eval Nat := do
  match readArguments [flag 'a', flag 's'] false (args.length + 1) {} args with
  | .error _ => do
    printLine (Text.ofString ("Usage: " ++ (← self).file.toString ++ " [-as] args"))
    pure 2
  | .ok a => do
    let m := (← get).machine
    let path := ((environmentOf (← self)).lookup "PATH".toList).getD []
    let isProgram (place : Text) : Bool :=
      m.files.satisfies m.directory (pathOf place) FileSystem.isExecutableNode
    let shown (place : Text) : Eval Unit := if a.has "s" then pure () else printLine place
    let code ← forEach a.operands fun name => do
      let places := if name.contains '/' then [name]
        else (path.splitOn ':').map (fun entry => (if entry.isEmpty then ['.'] else entry) ++ '/' :: name)
      let found := places.filter isProgram
      (if a.has "a" then found else found.take 1).forM shown
      pure !found.isEmpty
    pure (if a.operands.isEmpty then 1 else code)

/-! ## getopt -/

/-- How the options of a script are to be read. -/
structure OptionPlan where
  name : Text := "getopt".toList
  flags : List Flag := []
  quotes : Bool := true
  quiet : Bool := false
  quietOutput : Bool := false
  /-- Operands end the options, or are given in their places. -/
  stopsEarly : Bool := false
  inPlace : Bool := false
  /-- One dash is enough for words. -/
  alternative : Bool := false

/-- Letters that may have colons behind them. -/
def readLetterFlags : Text → List Flag
  | c :: ':' :: ':' :: rest => { letter := some c, word := "", takes := .optional } :: readLetterFlags rest
  | c :: ':' :: rest => { letter := some c, word := "", takes := .value } :: readLetterFlags rest
  | c :: rest => { letter := some c, word := "" } :: readLetterFlags rest
  | [] => []

/-- Words that may have colons behind them. -/
def readWordFlags (text : Text) : List Flag :=
  ((text.splitOnP (fun c => c = ',' ∨ isSpaceChar c)).filter (fun (w : Text) => !w.isEmpty)).map fun word =>
    let name := (word.reverse.dropWhile (· = ':')).reverse
    let takes := match word.length - name.length with
      | 0 => Takes.nothing
      | 1 => .value
      | _ => .optional
    { letter := none, word := String.ofList name, takes }

/-- A value between single quotes. -/
def OptionPlan.value (p : OptionPlan) (text : Text) : Text :=
  if p.quotes then
    ' ' :: '\'' :: text.flatMap (fun c => if c = '\'' then "'\\''".toList else [c]) ++ ['\'']
  else ' ' :: text

/-- One option as it is given back. -/
def OptionPlan.option (p : OptionPlan) (flag : Flag) (value : Option Text) : Text :=
  let name := match flag.letter with
    | some c => ['-', c]
    | none => '-' :: '-' :: flag.word.toList
  ' ' :: name ++ (match flag.takes with
    | .nothing => []
    | _ => p.value (value.getD []))

/-- The letters of an argument. -/
def OptionPlan.letters (p : OptionPlan) : Text → (rest : List Text) → Text × List String × List Text
  | [], rest => ([], [], rest)
  | c :: more, rest =>
    match p.flags.find? (fun f => f.letter = some c) with
    | none =>
      let (out, problems, rest) := letters p more rest
      (out, ("invalid option -- '" ++ Text.toString [c] ++ "'") :: problems, rest)
    | some f =>
      match f.takes with
      | .nothing =>
        let (out, problems, rest) := letters p more rest
        (p.option f none ++ out, problems, rest)
      | .optional => (p.option f (some more), [], rest)
      | .value =>
        if !more.isEmpty then (p.option f (some more), [], rest)
        else
          match rest with
          | value :: rest => (p.option f (some value), [], rest)
          | [] => ([], ["option requires an argument -- '" ++ Text.toString [c] ++ "'"], [])

/-- A word, perhaps with a value. -/
def OptionPlan.word (p : OptionPlan) (dashes : String) (text : Text) (rest : List Text) :
    Text × List String × List Text :=
  let name := text.takeWhile (· ≠ '=')
  let given := if name.length < text.length then some (text.drop (name.length + 1)) else none
  let words := p.flags.filter (fun f => f.letter.isNone)
  let shownName := "'" ++ dashes ++ Text.toString name ++ "'"
  match words.find? (fun f => f.word = String.ofList name),
      words.filter (fun f => startsWith f.word (String.ofList name)) with
  | none, [] => ([], ["unrecognized option '" ++ dashes
    ++ Text.toString (if given.isSome then text else name) ++ "'"], rest)
  | none, f :: g :: more =>
    ([], ["option " ++ shownName ++ " is ambiguous; possibilities:"
      ++ String.join ((f :: g :: more).map (fun f => " '" ++ dashes ++ f.word ++ "'"))], rest)
  | exact, found =>
    match exact.orElse (fun _ => found.head?) with
    | none => ([], [], rest)
    | some f =>
      match f.takes, given with
      | .nothing, none => (p.option f none, [], rest)
      | .nothing, some _ =>
        ([], ["option '" ++ dashes ++ f.word ++ "' doesn't allow an argument"], rest)
      | _, some value => (p.option f (some value), [], rest)
      | .optional, none => (p.option f none, [], rest)
      | .value, none =>
        match rest with
        | value :: rest => (p.option f (some value), [], rest)
        | [] => ([], ["option '" ++ dashes ++ f.word ++ "' requires an argument"], [])

/-- Reads the arguments: what is given back of options, the operands, and what is wrong. -/
def OptionPlan.read (p : OptionPlan) : (fuel : Nat) → List Text → Text × List Text × List String
  | 0, rest => ([], rest, [])
  | _, [] => ([], [], [])
  | fuel + 1, arg :: rest =>
    let go (out : Text) (problems : List String) (rest : List Text) : Text × List Text × List String :=
      let (more, operands, others) := read p fuel rest
      (out ++ more, operands, problems ++ others)
    match arg with
    | ['-', '-'] => ([], rest, [])
    | '-' :: '-' :: word =>
      let (out, problems, rest) := p.word "--" word rest
      go out problems rest
    | '-' :: c :: letters =>
      let isWord := p.alternative && p.flags.any (fun f => f.letter.isNone
        && (c :: letters).takeWhile (· ≠ '=') = f.word.toList)
      let (out, problems, rest) := if isWord then p.word "-" (c :: letters) rest
        else p.letters (c :: letters) rest
      go out problems rest
    | _ =>
      if p.stopsEarly then ([], arg :: rest, [])
      else if p.inPlace then go (p.value arg) [] rest
      else
        let (out, operands, problems) := read p fuel rest
        (out, arg :: operands, problems)

def getoptFlags : List Flag := [
  flag 'a' "alternative", setting 'l' "longoptions", setting 'n' "name", setting 'o' "options",
  flag 'q' "quiet", flag 'Q' "quiet-output", setting 's' "shell", flag 'T' "test", flag 'u' "unquoted",
  flag 'h' "help", flag 'V' "version"]

def getopt (args : List Text) : Eval Nat := do
  let run (p : OptionPlan) (letters : Text) (args : List Text) : Eval Nat := do
    let posix := ((environmentOf (← self)).lookup "POSIXLY_CORRECT".toList).isSome
    let p := { p with
      stopsEarly := letters.head? = some '+' || (posix && letters.head? ≠ some '-')
      inPlace := letters.head? = some '-'
      flags := readLetterFlags (if letters.head? = some '+' ∨ letters.head? = some '-'
        then letters.drop 1 else letters) ++ p.flags }
    let (out, operands, problems) := p.read (args.length + 1) args
    if !p.quiet then
      problems.forM (fun text => complain (p.name.toString ++ ": " ++ text ++ "\n"))
    if !p.quietOutput then
      printLine (out ++ " --".toList ++ operands.flatMap p.value)
    pure (if problems.isEmpty then 0 else 1)
  match args with
  | [] => do
    complain "getopt: missing optstring argument\nTry 'getopt --help' for more information.\n"
    pure 2
  | first :: rest =>
    if first.head? ≠ some '-' then run { quotes := false } first rest
    else
      match readArguments getoptFlags false (args.length + 1) {} args with
      | .error text => do
        say text
        complain "Try 'getopt --help' for more information.\n"
        pure 2
      | .ok a =>
        if a.has "test" then pure 4
        else
          let p : OptionPlan := {
            name := (a.value? "name").getD "getopt".toList
            flags := (a.values "longoptions").flatMap readWordFlags
            quotes := !a.has "unquoted", quiet := a.has "quiet"
            quietOutput := a.has "quiet-output", alternative := a.has "alternative" }
          match a.value? "options", a.operands with
          | some letters, rest => run p letters rest
          | none, letters :: rest => run p letters rest
          | none, [] => do
            complain "getopt: missing optstring argument\nTry 'getopt --help' for more information.\n"
            pure 2

/-! ## run-parts -/

def partsFlags : List Flag := [
  longFlag "test", longFlag "list", flag 'v' "verbose", flag 'd' "debug", longFlag "report",
  longFlag "reverse", longFlag "exit-on-error", longFlag "stdin", longFlag "new-session",
  setting 'u' "umask", setting 'a' "arg", longFlag "regex" .value, longFlag "lsbsysinit"]

/-- Whether a name has only letters, digits, underscores and dashes. -/
def isPartName (name : Text) : Bool :=
  !name.isEmpty && name.all (fun c => isLetterChar c || isDigitChar c || c = '_' || c = '-')

def runParts (r : Shell.Runner) (args : List Text) : Eval Nat := do
  let refuse (text : String) : Eval Nat := do
    complain ("run-parts: " ++ text ++ "\nTry \x60run-parts --help' for more information.\n")
    pure 1
  match readArguments partsFlags true (args.length + 1) {} args with
  | .error text => refuse text
  | .ok a =>
    match a.operands with
    | [directory] =>
      match ← nodeAt? directory true with
      | .error e => cannotOpen directory e
      | .ok node =>
        if !node.isDirectory then cannotOpen directory .notDirectory
        else do
          let fits : Text → Bool := match a.value? "regex" with
            | none => isPartName
            | some text =>
              match Regex.parse true text with
              | .ok (regex, _) => fun name => (regex.find? {} name.toArray).isSome
              | .error _ => isPartName
          let names := ((namesIn (← get).machine directory).filter fits).mergeSort textLe
          runAll a 0 directory (if a.has "reverse" then names.reverse else names)
    | _ => refuse "missing operand"
where
  cannotOpen (directory : Text) (e : SystemError) : Eval Nat := do
    complain ("run-parts: failed to open directory " ++ directory.toString ++ ": " ++ errorText e ++ "\n")
    pure 1
  /-- Runs the parts in order; the code is that of the last one that failed. -/
  runAll (a : Arguments) : (code : Nat) → (directory : Text) → List Text → Eval Nat
    | code, _, [] => pure code
    | code, directory, name :: rest => do
      let path := directory ++ '/' :: name
      match ← nodeAt? path true with
      | .error e => do
        complain ("run-parts: failed to stat component " ++ path.toString ++ ": " ++ errorText e ++ "\n")
        pure 1
      | .ok node =>
        if node.isDirectory then runAll a code directory rest
        else if a.has "list" then do
          printLine path
          runAll a code directory rest
        else if !FileSystem.isExecutableNode node then runAll a code directory rest
        else if a.has "test" then do
          printLine path
          runAll a code directory rest
        else do
          if a.has "verbose" then complain ("run-parts: executing "
            ++ String.intercalate " " ((path :: a.values "arg").map Text.toString) ++ "\n")
          if a.has "report" then printLine (path ++ [':'])
          let _ ← flush
          let m := (← get).machine
          let environment := environmentOf (← self)
          let command := path :: a.values "arg"
          let result ← match m.image Machine.maxScripts (pathOf path) (command.map Text.toBytes) with
            | .ok image => inChild (r.become image environment)
            | .error e => do
              complain ("run-parts: failed to exec " ++ path.toString ++ ": " ++ errorText e ++ "\n")
              pure (.code 1)
          match result with
          | .code 0 => runAll a code directory rest
          | .code n => do
            complain ("run-parts: " ++ path.toString ++ " exited with return code " ++ toString n ++ "\n")
            if a.has "exit-on-error" then pure n else runAll a n directory rest
          | .signal n => do
            complain ("run-parts: " ++ path.toString ++ " exited because of uncaught signal "
              ++ toString n ++ "\n")
            runAll a 1 directory rest

end Slipway.Tool
