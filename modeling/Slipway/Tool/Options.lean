import Slipway.Shell.Runner
import Slipway.Text.Characters

/-!
# Options and messages of programs

The programs of the system work in processes of their own: they read and write through
descriptors, and end with a code. Their options may stand anywhere among the arguments, as single
letters or as words behind two dashes.
-/

namespace Slipway.Tool

open Shell

/-! ## Names in messages -/

/-- Whether a shell would take the name for something else, or it cannot be shown. -/
def needsQuotes (name : Text) : Bool :=
  name.isEmpty || "#~".toList.contains (name.headD ' ') || name = ['\x7b'] || name = ['\x7d']
    || (Characters.decode name).any (fun c =>
      !Characters.isShown c || " !\"$&'()*;<=>?[\\^\x60|".toList.contains c)

/-- Whether the character can stand in double quotes as it is. -/
def isCompatible (c : Char) : Bool :=
  isLetterChar c || isDigitChar c || "%+,-./:]_\x7b\x7d#~ '".toList.contains c
    || (0xA0 ≤ c.toNat && Characters.isShown c)

/-- The escape for a character that cannot be shown. -/
def escapeOf (c : Char) : Text :=
  match c with
  | '\n' => ['\\', 'n']
  | '\t' => ['\\', 't']
  | '\r' => ['\\', 'r']
  | '\x07' => ['\\', 'a']
  | '\x08' => ['\\', 'b']
  | '\x0b' => ['\\', 'v']
  | '\x0c' => ['\\', 'f']
  | c => (Characters.encodeOne c).flatMap (fun b => '\\' :: fixedDigits 8 3 b.toNat)

/-- The characters of a name between single quotes. Escapes stand in quotes of their own. -/
def quoteCharacters : (inEscape : Bool) → Text → Text
  | inEscape, [] => if inEscape then ['\''] else []
  | inEscape, c :: rest =>
    if !Characters.isShown c then
      (if inEscape then [] else "'$'".toList) ++ escapeOf c ++ quoteCharacters true rest
    else
      (if inEscape then "''".toList else []) ++ (if c = '\'' then "'\\''".toList else [c])
        ++ quoteCharacters false rest

def quoted (name : Text) : String :=
  let characters := Characters.decode name
  String.ofList <|
    if characters.contains '\'' ∧ characters.all isCompatible then '"' :: characters ++ ['"']
    else
      let body := quoteCharacters false characters
      if (characters.getLast?.map Characters.isShown).getD true then '\'' :: body ++ ['\'']
      else '\'' :: body

/-- A text that is pointed out in a message. -/
def emphasized (text : Text) : String :=
  let body := (Characters.decode text).flatMap fun c =>
    if c = '\\' ∨ c = '’' then ['\\', c] else if Characters.isShown c then [c] else escapeOf c
  "‘" ++ String.ofList body ++ "’"

/-- A name, in quotes only where it needs them. -/
def shown (name : Text) : String := if needsQuotes name then quoted name else String.ofList (Characters.decode name)

/-! ## Options -/

inductive Takes
  | nothing
  | value
  | optional
  deriving DecidableEq

/-- An option, known by a letter, by a word, or by both. -/
structure Flag where
  letter : Option Char
  word : String
  takes : Takes := .nothing

/-- A letter that stands for an option without a value. -/
def flag (letter : Char) (word : String := "") : Flag := { letter := some letter, word }

/-- A letter that stands for an option with a value. -/
def setting (letter : Char) (word : String := "") : Flag :=
  { letter := some letter, word, takes := .value }

/-- A word that stands for an option. -/
def longFlag (word : String) (takes : Takes := .nothing) : Flag := { letter := none, word, takes }

/-- How an option is called in what was read: by its word, or else by its letter. -/
def Flag.key (f : Flag) : String :=
  if f.word.isEmpty then String.ofList f.letter.toList else f.word

/-- What was read of the arguments. -/
structure Arguments where
  /-- The options in their order, with their values. -/
  options : List (String × Text) := []
  operands : List Text := []

namespace Arguments

def has (a : Arguments) (key : String) : Bool := (a.options.lookup key).isSome

/-- The last value of an option. -/
def value? (a : Arguments) (key : String) : Option Text := a.options.reverse.lookup key

def values (a : Arguments) (key : String) : List Text :=
  (a.options.filter (·.1 = key)).map (·.2)

/-- The last of these options that was given. -/
def lastOf (a : Arguments) (keys : List String) : Option String :=
  (a.options.reverse.find? (fun option => keys.contains option.1)).map (·.1)

end Arguments

/-- The letters of one argument, and the arguments behind a value that belongs to them. -/
def readLetterOptions (flags : List Flag) : (letters : Text) → (rest : List Text) →
    Except String (List (String × Text) × List Text)
  | [], rest => .ok ([], rest)
  | c :: letters, rest =>
    match flags.find? (fun f => f.letter = some c) with
    | none => .error ("invalid option -- '" ++ Text.toString [c] ++ "'")
    | some f =>
      match f.takes with
      | .nothing => do
        let (more, rest) ← readLetterOptions flags letters rest
        .ok ((f.key, []) :: more, rest)
      | .optional => .ok ([(f.key, letters)], rest)
      | .value =>
        if !letters.isEmpty then .ok ([(f.key, letters)], rest)
        else
          match rest with
          | value :: rest => .ok ([(f.key, value)], rest)
          | [] => .error ("option requires an argument -- '" ++ Text.toString [c] ++ "'")

/-- The option that a word or the beginning of one stands for. -/
def findWord (flags : List Flag) (word : String) : Except String Flag :=
  let shownWord := "'--" ++ word ++ "'"
  match flags.find? (fun f => f.word = word) with
  | some f => .ok f
  | none =>
    match flags.filter (fun f => startsWith f.word word && !f.word.isEmpty) with
    | [f] => .ok f
    | [] => .error ("unrecognized option " ++ shownWord)
    | several => .error ("option " ++ shownWord ++ " is ambiguous; possibilities:"
        ++ String.join (several.map (fun f => " '--" ++ f.word ++ "'")))

/-- An option that is given by a word. -/
def readWordOption (flags : List Flag) (text : Text) (rest : List Text) :
    Except String ((String × Text) × List Text) := do
  let word := text.takeWhile (· ≠ '=')
  let given := if word.length < text.length then some (text.drop (word.length + 1)) else none
  let f ← findWord flags (Text.toString word)
  match f.takes, given with
  | .nothing, none => .ok ((f.key, []), rest)
  | .nothing, some _ => .error ("option '--" ++ f.word ++ "' doesn't allow an argument")
  | _, some value => .ok ((f.key, value), rest)
  | .optional, none => .ok ((f.key, []), rest)
  | .value, none =>
    match rest with
    | value :: rest => .ok ((f.key, value), rest)
    | [] => .error ("option '--" ++ f.word ++ "' requires an argument")

/-- Reads all arguments. Unless options may stand `anywhere`, the first operand ends them. -/
def readArguments (flags : List Flag) (anywhere : Bool) : (fuel : Nat) → Arguments → List Text →
    Except String Arguments
  | 0, a, _ => .ok a
  | _, a, [] => .ok a
  | fuel + 1, a, arg :: rest =>
    match arg with
    | ['-', '-'] => .ok { a with operands := a.operands ++ rest }
    | '-' :: '-' :: word => do
      let (option, rest) ← readWordOption flags word rest
      readArguments flags anywhere fuel { a with options := a.options ++ [option] } rest
    | '-' :: c :: letters => do
      let (options, rest) ← readLetterOptions flags (c :: letters) rest
      readArguments flags anywhere fuel { a with options := a.options ++ options } rest
    | _ =>
      if anywhere then readArguments flags anywhere fuel { a with operands := a.operands ++ [arg] } rest
      else .ok { a with operands := a.operands ++ arg :: rest }

/-! ## Messages -/

/-- The environment of a program, in its order. -/
def environmentOf (p : Process) : List (Text × Text) :=
  p.bindings.filterMap (fun (name, v) => v.value.map (name, ·))

/-- Whether a process takes its texts for UTF-8, as the system does where nothing else is said. -/
def usesUnicode (p : Process) : Bool :=
  let value? (name : String) : Option Text :=
    ((environmentOf p).find? (fun binding => binding.1 = name.toList)).map (·.2)
  match ["LC_ALL", "LC_CTYPE", "LANG"].findSome? (fun name => (value? name).filter (!·.isEmpty)) with
  | none => true
  | some locale => ["C.UTF-8", "C.utf8", "C.UTF8", "C.utf-8"].contains (String.ofList locale)

/-- A message of a program begins with the name that it was started by. -/
def say (text : String) : Eval Unit := do
  let p ← self
  let text := if usesUnicode p then text
    else String.ofList (text.toList.map (fun c => if c = '‘' ∨ c = '’' then '\'' else c))
  complain (p.name.toString ++ ": " ++ text ++ "\n")

/-- A program's message about one of its arguments. -/
def blame (text : String) : Eval Bool := do
  say text
  pure false

/-- Where a program says more about itself. -/
def recommendHelp : Eval Unit := do
  complain ("Try '" ++ (← self).name.toString ++ " --help' for more information.\n")

/-- A message about wrong usage. -/
def misuse (text : String) (code : Nat := 1) : Eval Nat := do
  say text
  recommendHelp
  pure code

def missingOperand (code : Nat := 1) : Eval Nat := misuse "missing operand" code

def extraOperand (operand : Text) (code : Nat := 1) : Eval Nat :=
  misuse ("extra operand " ++ emphasized operand) code

/-- Reads the arguments of a program and goes on with them. -/
def withArguments (flags : List Flag) (args : List Text) (body : Arguments → Eval Nat)
    (anywhere : Bool := true) (code : Nat := 1) : Eval Nat := do
  match readArguments flags anywhere (args.length + 1) {} args with
  | .ok a => body a
  | .error text => misuse text code

/-- Carries out a task for each argument; the code is 1 when one of them fails. -/
def forEach (args : List Text) (task : Text → Eval Bool) : Eval Nat :=
  args.foldlM (fun code arg => do pure (if ← task arg then code else 1)) 0

/-- The operands, or the standard input if there are none. -/
def inputsOf (a : Arguments) : List Text := if a.operands.isEmpty then [['-']] else a.operands

/-- A number in decimal digits. -/
def decimal? (text : Text) : Option Nat :=
  if !text.isEmpty ∧ text.all isDigitChar then some (valueOfDigits 10 text) else none

/-- A number with a letter behind it for what it is multiplied by. -/
def size? (text : Text) : Option Nat :=
  let digits := text.takeWhile isDigitChar
  let factor? := match String.ofList (text.drop digits.length) with
    | "" => some 1
    | "b" => some 512
    | "kB" => some 1000
    | "k" => some 1024
    | "K" => some 1024
    | "KiB" => some 1024
    | "MB" => some 1000000
    | "m" => some 1048576
    | "M" => some 1048576
    | "MiB" => some 1048576
    | "GB" => some 1000000000
    | "G" => some 1073741824
    | "GiB" => some 1073741824
    | _ => none
  if digits.isEmpty then none else factor?.map (valueOfDigits 10 digits * ·)

end Slipway.Tool
