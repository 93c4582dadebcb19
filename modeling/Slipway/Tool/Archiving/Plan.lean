import Slipway.Archive.TarMember
import Slipway.Shell.Pattern
import Slipway.Tool.Compressing
import Slipway.Tool.Editing.Run
import Slipway.Tool.Listing

/-!
# What an archiver is asked for

The arguments of an archiver: what it does, with which archive, and how names change on their way into
the archive and out of it. Some options count only for the names behind them, so options and names
stay in their order.
-/

namespace Slipway.Tool.Archiving

open Shell

/-! ## Options -/

def operationFlags : List Flag := [
  flag 'A' "catenate", longFlag "concatenate", flag 'c' "create", flag 'd' "diff",
  longFlag "compare", longFlag "delete", flag 'r' "append", flag 't' "list", flag 'u' "update",
  flag 'x' "extract", longFlag "get", longFlag "test-label"]

def archiveFlags : List Flag := operationFlags ++ [
  setting 'f' "file", setting 'C' "directory", flag 'z' "gzip", longFlag "gunzip",
  longFlag "ungzip", flag 'j' "bzip2", flag 'J' "xz", flag 'Z' "compress", longFlag "uncompress",
  longFlag "lzma", longFlag "lzip", longFlag "lzop", longFlag "zstd", flag 'a' "auto-compress", longFlag "no-auto-compress", flag 'v' "verbose",
  flag 'k' "keep-old-files", longFlag "skip-old-files", longFlag "overwrite",
  longFlag "overwrite-dir", longFlag "no-overwrite-dir", flag 'U' "unlink-first",
  longFlag "recursive-unlink", longFlag "keep-newer-files", longFlag "keep-directory-symlink",
  flag 'm' "touch", flag 'p' "preserve-permissions", longFlag "same-permissions",
  longFlag "no-same-permissions", longFlag "same-owner", longFlag "no-same-owner", flag 'o',
  longFlag "numeric-owner", flag 's' "preserve-order", longFlag "same-order", flag 'O' "to-stdout",
  longFlag "strip-components" .value, longFlag "transform" .value, longFlag "xform" .value,
  longFlag "show-transformed-names", longFlag "show-stored-names", longFlag "exclude" .value,
  setting 'X' "exclude-from", longFlag "exclude-vcs", longFlag "exclude-backups",
  setting 'T' "files-from", longFlag "null", longFlag "no-null", longFlag "mode" .value,
  longFlag "owner" .value, longFlag "group" .value, longFlag "mtime" .value, longFlag "clamp-mtime",
  longFlag "sort" .value, setting 'H' "format", longFlag "posix", longFlag "old-archive",
  longFlag "portability", longFlag "pax-option" .value, flag 'P' "absolute-names",
  flag 'h' "dereference", longFlag "hard-dereference", longFlag "recursion",
  longFlag "no-recursion", longFlag "remove-files", longFlag "wildcards", longFlag "no-wildcards",
  longFlag "wildcards-match-slash", longFlag "no-wildcards-match-slash", longFlag "anchored",
  longFlag "no-anchored", longFlag "ignore-case", longFlag "no-ignore-case",
  flag 'i' "ignore-zeros", longFlag "ignore-failed-read", longFlag "full-time", longFlag "utc",
  flag 'S' "sparse", flag 'l' "check-links", flag 'B' "read-full-records",
  setting 'b' "blocking-factor", longFlag "record-size" .value, longFlag "one-file-system",
  longFlag "warning" .value, longFlag "quoting-style" .value, longFlag "selinux",
  longFlag "no-selinux", longFlag "acls", longFlag "no-acls", longFlag "xattrs",
  longFlag "no-xattrs", longFlag "force-local", longFlag "totals" .optional,
  longFlag "checkpoint" .optional, longFlag "one-top-level" .optional, flag 'w' "interactive",
  flag 'W' "verify", flag 'n' "seek", flag 'R' "block-number", longFlag "add-file" .value,
  longFlag "delay-directory-restore", longFlag "no-delay-directory-restore",
  setting 'N' "newer", longFlag "occurrence" .optional, longFlag "no-quote-chars" .value,
  setting 'I' "use-compress-program", longFlag "version", longFlag "help"]

/-- Letters without a dash in front. Their values follow them, in their order. -/
def spellLetters : Text → List Text → Except String (List Text × List Text)
  | [], rest => .ok ([], rest)
  | c :: letters, rest =>
    if archiveFlags.any (fun f => f.letter = some c && f.takes = .value) then
      match rest with
      | [] => .error ("Old option '" ++ Text.toString [c] ++ "' requires an argument.")
      | value :: rest => do
        let (more, rest) ← spellLetters letters rest
        .ok (['-', c] :: value :: more, rest)
    else do
      let (more, rest) ← spellLetters letters rest
      .ok (['-', c] :: more, rest)

/-- A name among the options. -/
def operandKey : String := "operand"

/-- Options and names in their order. -/
def readSteps : (fuel : Nat) → List Text → Except String (List (String × Text))
  | 0, _ => .ok []
  | _, [] => .ok []
  | fuel + 1, arg :: rest =>
    match arg with
    | ['-', '-'] => .ok (rest.map (operandKey, ·))
    | '-' :: '-' :: word => do
      let (option, rest) ← readWordOption archiveFlags word rest
      return option :: (← readSteps fuel rest)
    | '-' :: c :: letters => do
      let (options, rest) ← readLetterOptions archiveFlags (c :: letters) rest
      return options ++ (← readSteps fuel rest)
    | _ => return (operandKey, arg) :: (← readSteps fuel rest)

/-- What is wrong with the arguments. Some faults are found while they are read. -/
inductive Misuse
  | unreadable (text : String)
  | refused (text : String)

def readCommandLine (args : List Text) : Except Misuse (List (String × Text)) := do
  let args ← match args with
    | (c :: letters) :: rest =>
      if c = '-' then pure args
      else
        match spellLetters (c :: letters) rest with
        | .ok (options, rest) => pure (options ++ rest)
        | .error text => .error (.refused text)
    | _ => pure args
  match readSteps (args.length + 1) args with
  | .ok steps => pure steps
  | .error text => .error (.unreadable text)

/-! ## What is done -/

inductive Operation
  | create
  | append
  | update
  | concatenate
  | list
  | extract
  | compare
  | delete
  | label
  deriving DecidableEq

def operation? (key : String) : Option Operation :=
  match key with
  | "create" => some .create
  | "append" => some .append
  | "update" => some .update
  | "catenate" | "concatenate" => some .concatenate
  | "list" => some .list
  | "extract" | "get" => some .extract
  | "diff" | "compare" => some .compare
  | "delete" => some .delete
  | "test-label" => some .label
  | _ => none

/-- A change of names, which may leave alone the targets of links. -/
structure Transform where
  substitution : Editing.Substitution
  onFiles : Bool := true
  onLinks : Bool := true
  onHardLinks : Bool := true

/-- Where something in the archive is named: by its name or as the target of a link. -/
inductive NameUse
  | file
  | hardLink
  | symbolicLink
  deriving DecidableEq

structure Plan where
  steps : List (String × Text)
  operation : Operation
  archive : Text
  transforms : List Transform := []
  strip : Nat := 0

namespace Plan

def has (p : Plan) (key : String) : Bool := (p.steps.lookup key).isSome

def value? (p : Plan) (key : String) : Option Text := p.steps.reverse.lookup key

def values (p : Plan) (key : String) : List Text := (p.steps.filter (·.1 = key)).map (·.2)

/-- The last of these options that was given. -/
def lastOf (p : Plan) (keys : List String) : Option String :=
  (p.steps.reverse.find? (fun step => keys.contains step.1)).map (·.1)

def verbosity (p : Plan) : Nat := (p.values "verbose").length

def isGzip (p : Plan) : Bool :=
  p.has "gzip" || p.has "gunzip" || p.has "ungzip"
    || (p.value? "use-compress-program").any (fun program => startsWith program.toString "gzip")
    || (p.has "auto-compress" && [".gz", ".tgz", ".taz"].any (fun ending =>
      endsWith p.archive.toString ending))

/-- A program for another compression, which the system does not have. -/
def absentProgram? (p : Plan) : Option Text :=
  match p.lastOf ["bzip2", "xz", "compress", "uncompress", "lzma", "lzip", "lzop", "zstd",
      "use-compress-program"] with
  | none => none
  | some "use-compress-program" =>
    (p.value? "use-compress-program").filter (fun program =>
      !startsWith program.toString "gzip")
  | some "uncompress" => some "compress".toList
  | some program => some program.toList

end Plan

/-! ## Changes of names -/

/-- The letters behind a change, up to the next one. -/
def readTransformFlags : Text → (Transform × Bool) → Option ((Transform × Bool) × Text)
  | [], t => some (t, [])
  | c :: rest, (t, extended) =>
    let s := t.substitution
    match c with
    | ';' => some ((t, extended), rest)
    | 'g' => readTransformFlags rest ({ t with substitution := { s with isGlobal := true } }, extended)
    | 'i' =>
      let settings := { s.pattern.settings with ignoresCase := true }
      readTransformFlags rest
        ({ t with substitution := { s with pattern := { s.pattern with settings } } }, extended)
    | 'x' => readTransformFlags rest (t, true)
    | 'r' => readTransformFlags rest ({ t with onFiles := true }, extended)
    | 'R' => readTransformFlags rest ({ t with onFiles := false }, extended)
    | 's' => readTransformFlags rest ({ t with onLinks := true }, extended)
    | 'S' => readTransformFlags rest ({ t with onLinks := false }, extended)
    | 'h' => readTransformFlags rest ({ t with onHardLinks := true }, extended)
    | 'H' => readTransformFlags rest ({ t with onHardLinks := false }, extended)
    | c =>
      if isDigitChar c then
        let number := if s.number = 0 then 0 else s.number
        let digit := c.toNat - '0'.toNat
        readTransformFlags rest
          ({ t with substitution := { s with number := number * 10 + digit } }, extended)
      else none

/-- Changes as they are written for an editor, with semicolons between them. -/
def readTransforms? : (fuel : Nat) → Text → Option (List Transform)
  | 0, _ => none
  | _, [] => some []
  | fuel + 1, text =>
    match text with
    | 's' :: delimiter :: rest => do
      let (source, rest) ← Editing.upToDelimiter delimiter true (rest.length + 1) [] rest
      let (target, rest) ← Editing.upToDelimiter delimiter false (rest.length + 1) [] rest
      let start : Transform :=
        { substitution := { pattern := { regex := none }, replacement := [], number := 0 } }
      let ((t, extended), rest) ← readTransformFlags rest (start, false)
      let (pattern, groups) ←
        (Editing.readPattern extended t.substitution.pattern.settings source rest).toOption
      let replacement ← (Editing.readPieces groups rest (target.length + 1) target).toOption
      let substitution := { t.substitution with pattern, replacement,
                                                 number := max 1 t.substitution.number }
      return { t with substitution } :: (← readTransforms? fuel rest)
    | _ => none

def Transform.apply (t : Transform) (use : NameUse) (name : Text) : Text :=
  let isWanted := match use with
    | .file => t.onFiles
    | .hardLink => t.onHardLinks
    | .symbolicLink => t.onLinks
  match isWanted, t.substitution.pattern.regex with
  | true, some r =>
    (Editing.Editor.replaceFrom t.substitution r name name.toArray (name.length + 2) 0 0 none).1
  | _, _ => name

def Plan.transform (p : Plan) (use : NameUse) (name : Text) : Text :=
  p.transforms.foldl (fun name t => t.apply use name) name

/-- The beginning of a name that would lead out of the directory where it is extracted: all up to the
last step upwards, and slashes. -/
def unsafePart (name : Text) : Text :=
  let rec go : (read taken : Text) → (atStart : Bool) → Text → Text
    | _, taken, _, [] => taken
    | read, taken, atStart, c :: rest =>
      let isUp := atStart && c = '.' && rest.head? = some '.'
        && ((rest.drop 1).isEmpty || (rest.drop 1).head? = some '/')
      let read := read ++ [c]
      go read (if isUp then read ++ ['.'] else taken) (c = '/') rest
  let taken := go [] [] true name
  taken ++ (name.drop taken.length).takeWhile (· = '/')

/-- A name without so many of its first parts; nothing is left of a name with no more parts. -/
def stripParts : (count : Nat) → Text → Text
  | 0, name => name
  | count + 1, name =>
    let name := name.dropWhile (· = '/')
    match name.dropWhile (· ≠ '/') with
    | [] => []
    | rest => stripParts count (rest.dropWhile (· = '/'))

/-! ## Which names are left out -/

/-- The parts of a name that begin it and end before a slash, and the name itself. -/
def leadingNames (name : Text) : List Text :=
  let rec go : (read : Text) → Text → List Text
    | read, [] => [read]
    | read, c :: rest => if c = '/' then read :: go (read ++ [c]) rest else go (read ++ [c]) rest
  go [] name

/-- A name and what is left of it behind each slash. -/
def trailingNames (name : Text) : List Text :=
  let rec go : Text → List Text
    | [] => []
    | c :: rest => if c = '/' ∧ rest.head? ≠ some '/' then rest :: go rest else go rest
  name :: go name

def fitsGlob (pattern name : Text) : Bool :=
  matchesPattern (patternOf (lettersOf false pattern)) name

def vcsNames : List String := [
  "CVS", "RCS", "SCCS", ".git", ".gitignore", ".gitattributes", ".gitmodules", ".cvsignore", ".svn",
  ".arch-ids", "\x7barch\x7d", "=RELEASE-ID", "=meta-update", "=update", ".bzr", ".bzrignore", ".bzrtags",
  ".hg", ".hgignore", ".hgrags", "_darcs"]

/-- Whether a name is left out. A pattern may fit a part of the name, and then it goes for all that
is below. -/
def isExcluded (p : Plan) (patterns : List Text) (name : Text) : Bool :=
  let fits (pattern : Text) (name : Text) : Bool :=
    (leadingNames name).any (fitsGlob pattern)
  let anchored := p.has "anchored" && !p.has "no-anchored"
  patterns.any (fun pattern =>
      if anchored then fits pattern name else (trailingNames name).any (fits pattern))
    || (p.has "exclude-vcs" && vcsNames.any (fun word => lastName name = word.toList))
    || (p.has "exclude-backups" && [".#*", "*~", "#*#"].any (fun pattern =>
      fitsGlob pattern.toList (lastName name)))

/-! ## Messages -/

def listedName (name : Text) : Text :=
  Characters.encode ((Characters.decode name).flatMap fun c =>
    if c = '\\' then ['\\', '\\'] else if Characters.isShown c then [c] else escapeOf c)

/-- The end of a work that cannot go on. -/
def giveUp (text : String) : Eval Nat := do
  say text
  say "Error is not recoverable: exiting now"
  pure 2

def conclude (ok : Bool) : Eval Nat := do
  if ok then pure 0
  else
    say "Exiting with failure status due to previous errors"
    pure 2

/-- A message about wrong usage. -/
def refuseUsage (text : String) : Eval Nat := do
  say text
  let name := (← self).name.toString
  complain ("Try '" ++ name ++ " --help' or '" ++ name ++ " --usage' for more information.\n")
  pure 2

/-- The beginnings of names that were taken away so far; each is told of once. -/
abbrev Told := List Text

/-- A name without its unsafe part, unless names stay as they are. -/
def makeSafe (p : Plan) (use : NameUse) (told : Told) (name : Text) : Eval (Text × Told) := do
  if p.has "absolute-names" then pure (name, told)
  else
    let taken := unsafePart name
    let rest := name.drop taken.length
    let told ← if taken.isEmpty ∨ told.contains taken then pure told
      else do
        say ("Removing leading \x60" ++ Text.toString taken ++ "' from "
          ++ if use = .file then "member names" else "hard link targets")
        pure (taken :: told)
    if rest.isEmpty then
      if taken.isEmpty then say "Substituting \x60.' for empty member name"
      pure (['.'], told)
    else pure (rest, told)

/-! ## Lists -/

def kindLetterOf (m : Tar.Member) : Char :=
  match m.kind with
  | .hardLink => 'h'
  | .symbolicLink => 'l'
  | .directory => 'd'
  | .other 51 => 'c'
  | .other 52 => 'b'
  | .other 54 => 'p'
  | .other 55 => 'C'
  | _ => '-'

/-- A line about a member; the columns for owner and size are as wide as the widest so far. -/
def memberLine (p : Plan) (width : Nat) (m : Tar.Member) (name : Text) : Text × Nat :=
  let isNumeric := p.has "numeric-owner"
  let nameOr (name : Bytes) (number : Nat) : Text :=
    if isNumeric ∨ name.isEmpty then naturalText number else Text.ofBytes name
  let owner := nameOr m.ownerName m.owner ++ '/' :: nameOr m.groupName m.group
  let size := naturalText m.content.length
  let width := max width (owner.length + 1 + size.length)
  let template := if p.has "full-time" then "%Y-%m-%d %H:%M:%S" else "%Y-%m-%d %H:%M"
  let time := (Moment.ofSeconds m.modified).format 0 template.toList
  let tail := match m.kind with
    | .symbolicLink => " -> ".toList ++ listedName (Text.ofBytes m.target)
    | .hardLink => " link to ".toList ++ listedName (Text.ofBytes m.target)
    | _ => []
  (Mode.listing (kindLetterOf m) m.mode ++ ' ' :: owner ++ ' ' :: padLeft (width - owner.length - 1) size
    ++ ' ' :: time ++ ' ' :: listedName name ++ tail, width)

/-- The least width of the columns for owner and size. -/
def ownerWidth : Nat := 19

/-- Tells of a member as loudly as it is wanted. -/
def announce (p : Plan) (toErrors : Bool) (loudness width : Nat) (m : Tar.Member) (name : Text) :
    Eval Nat := do
  let (line, width) := if 1 < loudness then memberLine p width m name
    else (listedName name, width)
  if 0 < loudness then
    let _ ← emit (if toErrors then 2 else 1) (line ++ ['\n']).toBytes
  pure width

end Slipway.Tool.Archiving
