import Slipway.Console.Terminal
import Slipway.Path

/-!
# Arguments

What can be asked for on the command line, and how arguments are read: from left to right, up to
the first mistake or the first question for help or the version. A value is looked at only when
something follows it that is neither a mistake nor the end, or at the end.
-/

namespace Slipway

/-! ## Options -/

inductive Switch
  | arch
  | root
  | toolchain
  | force
  | checksum
  | output
  | verbose
  | help
  | version
  deriving DecidableEq

namespace Switch

/-- Every option, in the order shown to users. -/
def all : List Switch :=
  [.arch, .root, .toolchain, .force, .checksum, .output, .verbose, .help, .version]

def name : Switch → String
  | arch => "arch"
  | root => "root"
  | toolchain => "toolchain"
  | force => "force"
  | checksum => "checksum"
  | output => "output"
  | verbose => "verbose"
  | help => "help"
  | version => "version"

def letter? : Switch → Option Char
  | arch => some 'a'
  | force => some 'f'
  | output => some 'o'
  | verbose => some 'v'
  | help => some 'h'
  | version => some 'V'
  | _ => none

/-- What stands for the value of an option that takes one. -/
def placeholder? : Switch → Option String
  | arch => some "<ARCH>"
  | root => some "<ROOT>"
  | toolchain => some "<TOOLCHAIN>"
  | output => some "<OUTPUT>"
  | _ => none

def takesValue (s : Switch) : Bool := s.placeholder?.isSome

def ofName? (name : String) : Option Switch := all.find? (·.name = name)

def ofLetter? (letter : Char) : Option Switch := all.find? (·.letter? = some letter)

/-- The option as it is shown to users. -/
def label (s : Switch) : String :=
  "--" ++ s.name ++ (match s.placeholder? with
    | some placeholder => " " ++ placeholder
    | none => "")

def purpose : Switch → String
  | arch => "Target architecture: amd64 or arm64 [default: amd64]"
  | root =>
    "Project root containing src/version.txt [env: FXRELEASE_ROOT] [default: current directory]"
  | toolchain =>
    "Build toolchain executable [env: FXRELEASE_TOOLCHAIN] [default: dotnet on PATH]"
  | force => "Overwrite an existing package instead of failing"
  | checksum => "Write a .sha256 checksum file next to the package"
  | output =>
    "Output format for the release summary [default: text] [possible values: text, json]"
  | verbose => "Enable verbose logging"
  | help => "Print help"
  | version => "Print version"

end Switch

/-! ## Requests -/

inductive OutputFormat
  | text
  | json
  deriving DecidableEq

namespace OutputFormat

def isJson : OutputFormat → Bool
  | text => false
  | json => true

def ofName? : String → Option OutputFormat
  | "text" => some text
  | "json" => some json
  | _ => none

end OutputFormat

/-- A release as it is asked for. -/
structure ReleaseRequest where
  arch : Option String := none
  root : Option Path := none
  toolchain : Option Path := none
  force : Bool := false
  checksum : Bool := false
  output : OutputFormat := .text
  verbose : Bool := false
  deriving DecidableEq

inductive UsageError
  | unexpectedArgument (text : String)
  | missingValue (option : Switch)
  | invalidValue (option : Switch) (value : String)
  /-- A value for an option that takes none. -/
  | unexpectedValue (option : Switch) (value : String)
  | repeated (option : Switch)
  deriving DecidableEq

/-- The message, in which what is wrong and what is to be typed stand out. -/
def UsageError.pieces : UsageError → List Piece
  | unexpectedArgument text =>
    [⟨.plain, "unexpected argument '"⟩, ⟨.wrong, text⟩, ⟨.plain, "' found"⟩]
  | missingValue option =>
    [⟨.plain, "a value is required for '"⟩, ⟨.wrong, option.label⟩,
      ⟨.plain, "' but none was supplied"⟩]
  | invalidValue option value =>
    [⟨.plain, "invalid value '"⟩, ⟨.wrong, value⟩, ⟨.plain, "' for '"⟩, ⟨.literal, option.label⟩,
      ⟨.plain, "'"⟩]
  | unexpectedValue option value =>
    [⟨.plain, "unexpected value '"⟩, ⟨.wrong, value⟩, ⟨.plain, "' for '"⟩, ⟨.literal, option.label⟩,
      ⟨.plain, "' found; no more were expected"⟩]
  | repeated option =>
    [⟨.plain, "the argument '"⟩, ⟨.wrong, option.label⟩, ⟨.plain, "' cannot be used multiple times"⟩]

/-- Why reading ends before the last argument. -/
inductive Halt
  | mistake (e : UsageError)
  | helpWanted
  | versionWanted
  deriving DecidableEq

/-! ## Reading -/

/-- An option whose value comes with a later argument, and that value once it has come. -/
structure Pending where
  option : Switch
  value : Option String := none

structure Reading where
  request : ReleaseRequest := {}
  /-- The options accepted so far. -/
  given : List Switch := []
  pending : Option Pending := none

namespace Reading

def mistake {α : Type} (e : UsageError) : Except Halt α := .error (.mistake e)

/-- A path is not empty. -/
def pathValue (option : Switch) (value : String) : Except Halt (Option Path) :=
  if value.isEmpty then mistake (.missingValue option) else .ok (some ⟨value⟩)

def formatValue (value : String) : Except Halt OutputFormat :=
  match OutputFormat.ofName? value with
  | some format => .ok format
  | none =>
    if value.isEmpty then mistake (.missingValue .output) else mistake (.invalidValue .output value)

/-- The request with a value for an option that takes one. -/
def assign (request : ReleaseRequest) (option : Switch) (value : String) :
    Except Halt ReleaseRequest :=
  match option with
  | .arch => .ok { request with arch := some value }
  | .root => do pure { request with root := ← pathValue .root value }
  | .toolchain => do pure { request with toolchain := ← pathValue .toolchain value }
  | .output => do pure { request with output := ← formatValue value }
  | _ => mistake (.unexpectedValue option value)

/-- The request with an option that takes no value. -/
def turnOn (request : ReleaseRequest) (option : Switch) : Except Halt ReleaseRequest :=
  match option with
  | .force => .ok { request with force := true }
  | .checksum => .ok { request with checksum := true }
  | .verbose => .ok { request with verbose := true }
  | .help => .error .helpWanted
  | .version => .error .versionWanted
  | _ => mistake (.missingValue option)

/-- Takes an option into the request, with its value if one was given. -/
def accept (r : Reading) (option : Switch) (value : Option String) : Except Halt Reading := do
  if option.takesValue && value.isNone then mistake (.missingValue option)
  if option ∈ r.given then mistake (.repeated option)
  let request ← match value with
    | some value => assign r.request option value
    | none => turnOn r.request option
  pure { r with request, given := option :: r.given }

/-- Accepts the option that was pending. -/
def settle (r : Reading) : Except Halt Reading :=
  match r.pending with
  | none => .ok r
  | some pending => accept { r with pending := none } pending.option pending.value

def take (r : Reading) (option : Switch) (value : Option String) : Except Halt Reading := do
  (← r.settle).accept option value

/-- Leaves the value of an option to the next argument. -/
def await (r : Reading) (option : Switch) : Except Halt Reading := do
  pure { (← r.settle) with pending := some { option } }

/-- An argument behind `--`: a name, and a value behind `=`. -/
def readLong (r : Reading) (text : List Char) : Except Halt Reading :=
  let name := String.ofList (text.takeWhile (· ≠ '='))
  let value := match text.dropWhile (· ≠ '=') with
    | _ :: value => some (String.ofList value)
    | [] => none
  match Switch.ofName? name with
  | none => mistake (.unexpectedArgument ("--" ++ name))
  | some option =>
    match option.takesValue, value with
    | true, none => r.await option
    | false, some value => mistake (.unexpectedValue option value)
    | _, _ => r.take option value

/-- An argument behind `-`: letters, where what follows the letter of an option that takes a
value is its value, with or without a `=` between them. -/
def readLetters (r : Reading) : List Char → Except Halt Reading
  | [] => .ok r
  | letter :: rest =>
    match Switch.ofLetter? letter with
    | none => mistake (.unexpectedArgument (String.ofList ['-', letter]))
    | some option =>
      if option.takesValue then
        match rest with
        | [] => r.await option
        | '=' :: value => r.take option (some (String.ofList value))
        | value => r.take option (some (String.ofList value))
      else do
        (← r.take option none).readLetters rest

/-- An argument that is no option: the value that an option waits for, or a mistake. -/
def readPlain (r : Reading) (text : String) : Except Halt Reading :=
  match r.pending with
  | some { option, value := none } => .ok { r with pending := some { option, value := some text } }
  | _ => mistake (.unexpectedArgument text)

def readOne (r : Reading) (text : String) : Except Halt Reading :=
  match text.toList with
  | '-' :: '-' :: rest => r.readLong rest
  | '-' :: letter :: rest => r.readLetters (letter :: rest)
  | _ => r.readPlain text

/-- The argument `--` ends the options, and nothing but options is known. -/
def readAll (r : Reading) : List String → Except Halt Reading
  | [] => r.settle
  | "--" :: [] => r.settle
  | "--" :: text :: _ => mistake (.unexpectedArgument text)
  | text :: rest => do (← r.readOne text).readAll rest

end Reading

def ReleaseRequest.ofArguments (arguments : List String) : Except Halt ReleaseRequest := do
  pure (← Reading.readAll {} arguments).request

/-! ## Help -/

/-- The width of the column of options in the help. -/
def labelWidth : Nat := (Switch.all.map (·.label.length)).foldl max 0

def Switch.helpLine (s : Switch) : List Piece :=
  let letter := match s.letter? with
    | some letter => [⟨.literal, String.ofList ['-', letter]⟩, ⟨.plain, ", "⟩]
    | none => [⟨.plain, "    "⟩]
  let placeholder := match s.placeholder? with
    | some placeholder => " " ++ placeholder
    | none => ""
  let gap := String.ofList (List.replicate (labelWidth - s.label.length) ' ')
  [⟨.plain, "  "⟩] ++ letter ++
    [⟨.literal, "--" ++ s.name⟩, ⟨.plain, placeholder ++ gap ++ "  " ++ s.purpose⟩]

def programName : String := "fxrelease"

def helpLines : List (List Piece) :=
  [[⟨.plain, "Build, smoke-test and package the fxml formatter"⟩], [],
    [⟨.heading, "Usage:"⟩, ⟨.plain, " "⟩, ⟨.literal, programName⟩, ⟨.plain, " [OPTIONS]"⟩], [],
    [⟨.heading, "Options:"⟩]] ++ Switch.all.map Switch.helpLine

end Slipway
