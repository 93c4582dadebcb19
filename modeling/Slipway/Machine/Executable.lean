import Slipway.Machine.Basic

/-!
# Starting programs

Which program of the system runs when a path is started, with which arguments. A script names the
program that runs it in its first line.
-/

namespace Slipway

/-- A program of the system with its arguments, the name it was started by first. -/
structure Image where
  tool : String
  args : List Bytes
  /-- The name of the file that was started. -/
  file : String

namespace Machine

/-- As much of a file is looked at for the name of its interpreter. -/
def scriptLineBytes : Nat := 256

def isSpace (b : UInt8) : Bool := b = 32 || b = 9

def withoutLastBlanks (bytes : Bytes) : Bytes := (bytes.reverse.dropWhile isSpace).reverse

/-- The name that a line begins with, and what stands behind it, to the end of the line. -/
def splitInterpreter (line : Bytes) : Option (Bytes × Option Bytes) :=
  match line.dropWhile isSpace with
  | [] => none
  | start =>
    let name := start.takeWhile (fun b => !isSpace b && b ≠ 0)
    let arg := match start.drop name.length with
      | [] => none
      | 0 :: _ => none
      | behind =>
        match behind.dropWhile isSpace with
        | [] => none
        | arg => some (arg.takeWhile (· ≠ 0))
    some (name, arg)

/-- The interpreter that a script names, and the one argument it may have. A line that does not end
in what is looked at is cut off, but the name in it has to be whole. Behind the end of a short file
there are zeros. -/
def interpreter? (content : Bytes) : Option (Bytes × Option Bytes) :=
  let buffer := (content ++ List.replicate scriptLineBytes 0).take scriptLineBytes
  match buffer with
  | 0x23 :: 0x21 :: rest =>
    let line := rest.takeWhile (fun b => b ≠ 10 ∧ b ≠ 0)
    if rest[line.length]? = some 10 then
      splitInterpreter (withoutLastBlanks line)
    else
      let isCut := (rest.dropWhile isSpace).all (fun b => !isSpace b && b ≠ 0)
      if isCut then none else splitInterpreter (withoutLastBlanks rest.dropLast)
  | _ => none

/-- A single argument has to be shorter than this. -/
def maxArgumentBytes : Nat := 131072

/-- All arguments have to fit in here, with the zeros behind them and a place for each. -/
def maxArgumentsBytes : Nat := 2097152

/-- Whether arguments can be handed to a program. -/
def fitsArguments (args : List Bytes) : Bool :=
  args.all (fun arg => arg.length < maxArgumentBytes)
    && args.foldl (fun n arg => n + arg.length + 9) 0 ≤ maxArgumentsBytes

/-- What stands behind the last separator of a path. -/
def fileNameOf (path : Path) : String :=
  String.ofList ((path.text.toList.reverse.takeWhile (· ≠ '/')).reverse)

/-- Scripts may name scripts as their interpreters, a few times over. -/
def image (m : Machine) : (scripts : Nat) → (path : Path) → (args : List Bytes) →
    Except SystemError Image
  | scripts, path, args =>
    match m.files.findNode m.directory path with
    | .error e => .error e
    | .ok (_, node) =>
      if !FileSystem.isExecutableNode node then .error .noAccess
      else if !fitsArguments args then .error .argumentsTooLong
      else
        match node with
        | .tool name => .ok ⟨name, args, fileNameOf path⟩
        | .file data =>
          match scripts, interpreter? data.content with
          | _, none => .error .badExecutable
          | 0, some (name, _) =>
            match m.files.findNode m.directory ⟨Utf8.decodeLossy name⟩ with
            | .error e => .error e
            | .ok (_, node) =>
              .error (if FileSystem.isExecutableNode node then .tooManyLinks else .noAccess)
          | scripts + 1, some (name, arg) =>
            (image m scripts ⟨Utf8.decodeLossy name⟩
              (name :: arg.toList ++ Utf8.encode path.text :: args.drop 1)).map
              (fun image => { image with file := fileNameOf path })
        | _ => .error .noAccess

/-- Nested scripts that are looked into. -/
def maxScripts : Nat := 5

/-- The places where a program of that name is looked for. -/
def searchPlaces (searchPath : String) (program : String) : List Path :=
  (searchPath.toList.splitOn ':').map (fun entry => Path.join ⟨String.ofList entry⟩ program)

/-- Errors that only mean that the search goes on. -/
def goesOn (e : SystemError) : Bool :=
  e = .noEntry || e = .notDirectory || e = .noAccess

/-- The first of the places that can be started. When none can, a refused access is told rather
than a missing file. -/
def firstImage (m : Machine) (args : List Bytes) (refused : Bool) :
    List Path → Except SystemError Image
  | [] => .error (if refused then .noAccess else .noEntry)
  | place :: rest =>
    match m.image maxScripts place args with
    | .ok image => .ok image
    | .error e =>
      if goesOn e then firstImage m args (refused || e = .noAccess) rest else .error e

/-- What runs when a program is started; a name without a separator is searched for. -/
def start (m : Machine) (searchPath : Option String) (program : String) (args : List Bytes) :
    Except SystemError Image :=
  if program.isEmpty then .error .noEntry
  else if program.toList.contains '/' then m.image maxScripts ⟨program⟩ args
  else if maxNameBytes < program.utf8ByteSize then .error .nameTooLong
  else firstImage m args false (searchPlaces (searchPath.getD "/bin:/usr/bin") program)

end Machine

end Slipway
