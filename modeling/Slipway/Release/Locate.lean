import Slipway.Invocation
import Slipway.Program
import Slipway.Release.Error
import Slipway.Settings

/-!
# Finding the root and the toolchain

An explicit choice comes first, then a variable of the environment, then the default: the current
directory, or a program on the search path.
-/

namespace Slipway

/-! ## The root -/

def resolveRoot (env : Environment) (choice : Option Path) : Stage SetupError Path :=
  match choice with
  | some path => pure path
  | none =>
    match env.getNonempty? rootVariable with
    | some text => pure ⟨text⟩
    | none =>
      (Stage.attempt (Program.file .currentDirectory)).orElse (SetupError.invalidRoot ⟨"."⟩)

/-- The usual layout below the canonical form of `root`. -/
def Settings.fromRoot (root : Path) : Stage SetupError Settings := do
  let canonical ← (Stage.attempt (Program.file (.canonicalize root))).orElse
    (SetupError.invalidRoot root)
  pure (Settings.below canonical)

/-! ## The toolchain -/

/-- The entries of a search path. -/
def searchEntries (path : String) : List String :=
  go path.toList []
where
  go : List Char → (entry : List Char) → List String
    | [], entry => [String.ofList entry.reverse]
    | c :: rest, entry =>
      if c = ':' then String.ofList entry.reverse :: go rest [] else go rest (c :: entry)

/-- A path whose first name is `~` starts in the home directory instead, if there is one. -/
def expandHome (env : Environment) (path : Path) : Path :=
  match env.getNonempty? "HOME", path.start, path.names with
  | some home, [], "~" :: rest => rest.foldl Path.join ⟨home⟩
  | _, _, _ => path

/-- The paths where a program may be, in the order of the search. -/
def candidates (env : Environment) (path program : String) : List Path :=
  (searchEntries path).map (fun entry => expandHome env (Path.join ⟨entry⟩ program))

/-- The first of the paths that is an executable file. -/
def firstExecutable : List Path → Program (Option Path)
  | [] => pure none
  | path :: rest => do
    if ← Program.file (.isExecutable path) then pure (some path) else firstExecutable rest

/-- Finds a program on the search path. -/
def search (env : Environment) (program : String) : Stage SetupError Path :=
  let missing := SetupError.toolchainNotFound program
  match env.get? "PATH" with
  | none => throw (missing "no path to search and provided name is not an absolute path")
  | some path => do
    match ← ExceptT.lift (firstExecutable (candidates env path program)) with
    | some found => pure found
    | none => throw (missing "cannot find binary path")

def resolveToolchain (env : Environment) (choice : Option Path) : Stage SetupError Path :=
  match choice with
  | some path => pure path
  | none =>
    match env.getNonempty? toolchainVariable with
    | some text => pure ⟨text⟩
    | none => search env toolchainProgram

/-- The architecture of that name, or the default when none is asked for. -/
def selectArch : Option String → Except SetupError Arch
  | none => .ok .amd64
  | some name =>
    match Arch.ofName? name with
    | some arch => .ok arch
    | none => .error (.unsupportedArch name)

end Slipway
