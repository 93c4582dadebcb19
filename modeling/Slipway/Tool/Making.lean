import Slipway.Calendar.Reading
import Slipway.Text.Mode
import Slipway.Tool.Names

/-!
# Programs that make files

New directories, links and empty files, and the times and modes of files.
-/

namespace Slipway.Tool

open Shell

/-! ## Changing what is at a path -/

/-- Changes the mode of what a path leads to. -/
def setMode (path : Text) (mode : Nat) : Eval Unit := do
  let s ← get
  match s.machine.files.findNode s.machine.directory (pathOf path) with
  | .ok (place, node) => do
    let changed := match node with
      | .file data => .file { data with mode }
      | .directory _ => .directory mode
      | node => node
    set { s with machine := { s.machine with
      files := (s.machine.files.put place changed).spread place } }
  | .error _ => pure ()

/-- Changes the time of a file. -/
def setModified (path : Text) (modified : Int) (followLast : Bool := true) : Eval Unit := do
  let s ← get
  match s.machine.files.findNode s.machine.directory (pathOf path) followLast with
  | .ok (place, .file data) =>
    set { s with machine := { s.machine with
      files := (s.machine.files.put place (.file { data with modified })).spread place } }
  | _ => pure ()

def leadsToDirectory (path : Text) : Eval Bool := act (.isDirectory (pathOf path))

/-- What is at a path, without following a link at its end. -/
def nodeAt? (path : Text) (followLast : Bool := false) : Eval (Except SystemError Node) :=
  return (← findNode (pathOf path) followLast).map (·.2)

/-! ## Directories -/

/-- The mode that new things get which may have at most these rights. -/
def newMode (rights : Nat) : Eval Nat := return rights &&& (0o777 ^^^ (← self).mask)

/-- Makes a directory, with a mode or with the usual one. -/
def makeDirectory (path : Text) (mode : Option Nat) : Eval (Except SystemError Unit) := do
  match ← act (.makeDirectory (pathOf path)) with
  | .error e => pure (.error e)
  | .ok () => do
    setMode path (← match mode with
      | some mode => pure mode
      | none => newMode 0o777)
    pure (.ok ())

/-- The paths of the directories on the way to a path, the path itself last. -/
def wayTo (path : Text) : List Text :=
  let rec go : (before : Text) → Text → List Text
    | before, [] => if before.isEmpty then [] else [before]
    | before, c :: rest =>
      let isEnd := c = '/' ∧ before.getLast?.any (· ≠ '/') ∧ !(rest.all (· = '/'))
      if isEnd then before :: go (before ++ [c]) rest else go (before ++ [c]) rest
  go [] path

def blameCreation (path : Text) (e : SystemError) : Eval Bool :=
  blame ("cannot create directory " ++ quoted path ++ ": " ++ errorText e)

/-- Makes a directory with all that are above it. -/
def makeWay (path : Text) (mode : Option Nat) (tell : Text → Eval Unit) : Eval Bool := do
  let way := wayTo path
  let rec go : List Text → Eval Bool
    | [] => pure true
    | place :: rest => do
      match ← makeDirectory place (if rest.isEmpty then mode else none) with
      | .ok () => do
        tell place
        go rest
      | .error e =>
        if ← leadsToDirectory place then go rest
        else if rest.isEmpty ∨ e ≠ .alreadyThere then blameCreation place e
        else blameCreation place .notDirectory
  if way.isEmpty then blameCreation path .noEntry else go way

def mkdir (args : List Text) : Eval Nat :=
  withArguments [flag 'p' "parents", setting 'm' "mode", flag 'v' "verbose",
      { letter := some 'Z', word := "context", takes := .optional }] args fun a => do
    if a.operands.isEmpty then missingOperand
    else
      let mask := (← self).mask
      let mode? := (a.value? "mode").map (fun text => Mode.change? mask true 0o777 text)
      let tell (path : Text) : Eval Unit := do
        if a.has "verbose" then printLine (Text.ofString
          ((← self).name.toString ++ ": created directory " ++ quoted path))
      match mode? with
      | some none => do
        say ("invalid mode " ++ emphasized ((a.value? "mode").getD []))
        pure 1
      | _ =>
        forEach a.operands fun path => do
          if a.has "parents" then makeWay path (mode?.bind id) tell
          else
            match ← makeDirectory path (mode?.bind id) with
            | .ok () => do
              tell path
              pure true
            | .error e => blameCreation path e

/-- Removes an empty directory; whoever is in it is in no directory then. -/
def removeDirectory (path : Text) : Eval (Except SystemError Unit) := do
  let s ← get
  let m := s.machine
  match m.files.removeDirectory m.directory (pathOf path) with
  | .error e => pure (.error e)
  | .ok files => do
    let place := match m.files.findNode m.directory (pathOf path) false with
      | .ok (place, _) => place
      | .error _ => []
    set (s.withMachine (Machine.forget { m with files } place))
    pure (.ok ())

/-- The paths of the directories above a relative path, the nearest first. -/
def waysAbove (path : Text) : (fuel : Nat) → List Text
  | 0 => []
  | fuel + 1 =>
    let parent := directoryName path
    if parent = ['.'] ∨ parent = ['/'] then [] else parent :: waysAbove parent fuel

def rmdir (args : List Text) : Eval Nat :=
  withArguments [flag 'p' "parents", flag 'v' "verbose", longFlag "ignore-fail-on-non-empty"] args
    fun a => do
    if a.operands.isEmpty then missingOperand
    else
      let remove (kind : String) (path : Text) : Eval Bool := do
        if a.has "verbose" then printLine (Text.ofString
          ((← self).name.toString ++ ": removing directory, " ++ quoted path))
        match ← removeDirectory path with
        | .ok () => pure true
        | .error e =>
          if e = .notEmpty ∧ a.has "ignore-fail-on-non-empty" then pure true
          else blame ("failed to remove " ++ kind ++ quoted path ++ ": " ++ errorText e)
      forEach a.operands fun path => do
        let first ← remove "" path
        if a.has "parents" ∧ first then
          (waysAbove (dropSlashes path) (path.length + 1)).foldlM
            (fun ok path => if ok then remove "directory " path else pure false) true
        else pure first

/-! ## Links -/

/-- Gives a file another name. -/
def giveName (source target : Text) (followLast : Bool) : Eval (Except SystemError Unit) :=
  change fun m =>
    match m.files.findNode m.directory (pathOf source) followLast,
        m.files.findLast m.directory (pathOf target) with
    | .error e, _ => .error e
    | _, .error e => .error e
    | .ok (_, node), .ok last =>
      match last.name with
      | none => .error .alreadyThere
      | some name =>
        match last.lookup m.files name with
        | .error e => .error e
        | .ok (some _) => .error .alreadyThere
        | .ok none =>
          if last.slash then .error .noEntry
          else if !last.mayChange then .error .noAccess
          else .ok (m.files.put (last.parent ++ [name]) node)

/-- The operands of a program that works on files with a target. -/
structure Targets where
  sources : List Text
  target : Text
  /-- The new names are in the target. -/
  inside : Bool

/-- Sorts out what the last operand means, or tells what is wrong with the operands. -/
def targetsOf (a : Arguments) : Eval (Except Nat Targets) := do
  let check (path : Text) (sources : List Text) (name : String) : Eval (Except Nat Targets) := do
    match ← nodeAt? path true with
    | .ok node =>
      if node.isDirectory then pure (.ok ⟨sources, path, true⟩)
      else
        say (name ++ quoted path ++ ": " ++ errorText .notDirectory)
        pure (.error 1)
    | .error e =>
      say (name ++ quoted path ++ ": " ++ errorText e)
      pure (.error 1)
  match a.value? "target-directory", a.operands with
  | none, [] => return .error (← misuse "missing file operand")
  | some _, [] => return .error (← misuse "missing file operand")
  | some directory, sources => check directory sources "target directory "
  | none, [only] =>
    return .error (← misuse ("missing destination file operand after " ++ quoted only))
  | none, operands =>
    let target := operands.getLastD []
    let sources := operands.dropLast
    if a.has "no-target-directory" then
      match sources with
      | [_] => pure (.ok ⟨sources, target, false⟩)
      | _ => return .error (← extraOperand (operands.getD 2 []))
    else if ← leadsToDirectory target then pure (.ok ⟨sources, target, true⟩)
    else if sources.length = 1 then pure (.ok ⟨sources, target, false⟩)
    else check target sources "target "

/-- The path that a source gets as its new one. -/
def Targets.pathFor (t : Targets) (source : Text) : Text :=
  if t.inside then joinName t.target (lastName source) else t.target

def linkFlags : List Flag := [
  flag 's' "symbolic", flag 'f' "force", flag 'n' "no-dereference", flag 'v' "verbose",
  flag 'r' "relative", flag 'L' "logical", flag 'P' "physical", flag 'i' "interactive",
  flag 'T' "no-target-directory", setting 't' "target-directory", flag 'b', setting 'S' "suffix",
  flag 'd' "directory", flag 'F']

/-- The target of a link with a path of its own, as seen from where the link is. -/
def relativeTarget (m : Machine) (source link : Text) : Text :=
  match realPath? m .nothing source, realPath? m .nothing (directoryName link) with
  | .ok source, .ok directory => wayBetween (namesOf directory) (namesOf source)
  | _, _ => source

def makeLink (a : Arguments) (source target : Text) : Eval Bool := do
  let isSymbolic := a.has "symbolic"
  let kind := if isSymbolic then "symbolic link " else "hard link "
  let node ← nodeAt? source (a.has "logical")
  match if isSymbolic then .ok (.link "") else node with
  | .error e => blame ("failed to access " ++ quoted source ++ ": " ++ errorText e)
  | .ok (.directory _) => blame (shown source ++ ": hard link not allowed for directory")
  | .ok _ => do
    let isDirectory := match ← nodeAt? target with
      | .ok node => node.isDirectory
      | .error _ => false
    if a.has "force" ∧ !isDirectory then
      let _ ← act (.remove (pathOf target))
    let m := (← get).machine
    let text := if a.has "relative" then relativeTarget m source target else source
    let made ← if isSymbolic then
        change (fun m => m.files.makeLink m.directory text.toString (pathOf target))
      else giveName source target (a.has "logical")
    match made with
    | .ok () => do
      if a.has "verbose" then
        let arrow := if isSymbolic then " -> " else " => "
        printLine (Text.ofString (quoted target ++ arrow ++ quoted text))
      pure true
    | .error e =>
      let detail := if e = .alreadyThere ∨ (isSymbolic ∧ !source.isEmpty) then ""
        else (if isSymbolic then " -> " else " => ") ++ quoted source
      blame ("failed to create " ++ kind ++ quoted target ++ detail ++ ": " ++ errorText e)

def ln (args : List Text) : Eval Nat :=
  withArguments linkFlags args fun a => do
    let targets ← match a.value? "target-directory", a.operands with
      | none, [only] => pure (.ok ⟨[only], ['.'], true⟩)
      | none, [source, target] => do
        match a.has "no-dereference", ← nodeAt? target with
        | true, .ok (.link _) => pure (.ok ⟨[source], target, false⟩)
        | _, _ => targetsOf a
      | _, _ => targetsOf a
    match targets with
    | .error code => pure code
    | .ok targets =>
      forEach targets.sources (fun source => makeLink a source (targets.pathFor source))

/-! ## Times -/

def touchFlags : List Flag := [
  flag 'a', flag 'c' "no-create", setting 'd' "date", flag 'f', flag 'h' "no-dereference",
  flag 'm', setting 'r' "reference", setting 't', longFlag "time" .value]

/-- The time of what a path leads to. -/
def modifiedAt (path : Text) (followLast : Bool := true) : Eval (Except SystemError Int) := do
  let now := (← get).machine.now
  return (← nodeAt? path followLast).map (fun node => (FileSystem.statusOf now node).modified)

/-- The time that options ask for, or the code of a failure. -/
def timeFor (a : Arguments) : Eval (Except Nat Int) := do
  let now := (← get).machine.now
  let base : Except Nat Int ← match a.value? "reference" with
    | none => pure (.ok now)
    | some path => do
      match ← modifiedAt path (!a.has "no-dereference") with
      | .ok time => pure (.ok time)
      | .error e => do
        say ("failed to get attributes of " ++ quoted path ++ ": " ++ errorText e)
        pure (.error 1)
  let refuse (text : Text) : Eval (Except Nat Int) := do
    say ("invalid date format " ++ emphasized text)
    pure (.error 1)
  match base, a.value? "date", a.value? "t" with
  | .error code, _, _ => pure (.error code)
  | .ok base, some text, _ =>
    match readDate? base text with
    | some (time, _) => pure (.ok time)
    | none => refuse text
  | .ok base, none, some text =>
    match readStamp? base text with
    | some time => pure (.ok time)
    | none => refuse text
  | .ok base, none, none => pure (.ok base)

def touch (args : List Text) : Eval Nat :=
  withArguments touchFlags args fun a => do
    match ← timeFor a with
    | .error code => pure code
    | .ok time =>
      if a.operands.isEmpty then misuse "missing file operand"
      else
        let onlyAccess := (a.has "a" && !a.has "m")
          || (a.value? "time").any (fun word => word.head? = some 'a')
        let change (path : Text) (followLast : Bool) : Eval Bool := do
          if !onlyAccess then setModified path time followLast
          pure true
        forEach a.operands fun path => do
          let followLast := !a.has "no-dereference"
          match ← nodeAt? path followLast with
          | .ok _ => change path followLast
          | .error .noEntry =>
            if a.has "no-create" ∨ !followLast then pure true
            else
              match ← openFile .append path with
              | .ok _ => change path true
              | .error .isDirectory =>
                blame ("setting times of " ++ quoted path ++ ": " ++ errorText .noEntry)
              | .error e => blame ("cannot touch " ++ quoted path ++ ": " ++ errorText e)
          | .error e => blame ("cannot touch " ++ quoted path ++ ": " ++ errorText e)

/-! ## Modes -/

def chmodFlags : List Flag := [
  flag 'R' "recursive", flag 'v' "verbose", flag 'c' "changes", flag 'f' "silent",
  longFlag "quiet", longFlag "reference" .value, longFlag "preserve-root",
  longFlag "no-preserve-root"]

/-- Letters of modes that look like options. -/
def isModeOption (arg : Text) : Bool :=
  match arg with
  | '-' :: c :: _ => "rwxXstugoa0123456789,+=".toList.contains c
  | _ => false

/-- Four octal digits and nine letters. -/
def modeText (mode : Nat) : String :=
  String.ofList (fixedDigits 8 4 mode) ++ " ("
    ++ String.ofList ((Mode.listing '-' mode).drop 1) ++ ")"

/-- A mode in digits leaves the special bits of a directory alone unless it has five digits. -/
def changedMode? (mask : Nat) (node : Node) (text : Text) : Option Nat :=
  let isDigits := text.all isDigitChar
  let kept := if node.isDirectory ∧ isDigits ∧ text.length < 5 then node.mode &&& 0o6000 else 0
  (Mode.change? mask node.isDirectory node.mode text).map (· ||| kept)

/-- Changes the mode of what a path leads to, and of all that is below it if that is wanted. -/
def changeModes (a : Arguments) (wanted : Node → Option Nat) (isOption : Bool)
    (naive : Node → Option Nat) : (fuel : Nat) → (isNamed : Bool) → Text → Eval Bool
  | 0, _, _ => pure true
  | fuel + 1, isNamed, path => do
    let isQuiet := a.has "silent" ∨ a.has "quiet"
    let refuse (text : String) : Eval Bool := if isQuiet then pure false else blame text
    match ← nodeAt? path false, ← nodeAt? path true with
    | .error e, _ => refuse ("cannot access " ++ quoted path ++ ": " ++ errorText e)
    | .ok (.link _), .error _ =>
      if isNamed then refuse ("cannot operate on dangling symlink " ++ quoted path) else pure true
    | .ok first, found => do
      match found with
      | .error _ => pure true
      | .ok node =>
        if first ≠ node ∧ !isNamed then pure true
        else
          let mode := (wanted node).getD node.mode
          setMode path mode
          if a.has "verbose" ∨ (a.has "changes" ∧ mode ≠ node.mode) then
            printLine (Text.ofString ("mode of " ++ quoted path ++ if mode = node.mode then
                " retained as " ++ modeText mode
              else " changed from " ++ modeText node.mode ++ " to " ++ modeText mode))
          let expected := (naive node).getD mode
          let ok ← if isOption ∧ mode &&& (0o7777 ^^^ expected) ≠ 0 then
              refuse (shown path ++ ": new permissions are "
                ++ String.ofList (Mode.listing '-' mode) ++ ", not "
                ++ String.ofList (Mode.listing '-' expected))
            else pure true
          if node.isDirectory ∧ a.has "recursive" then
            let names := (namesIn (← get).machine path).mergeSort textLe
            names.foldlM (fun ok name => do
              pure ((← changeModes a wanted isOption naive fuel false (joinName path name)) && ok)) ok
          else pure ok

/-- Directories in one another. -/
def maxDepth : Nat := 4096

def chmod (args : List Text) : Eval Nat := do
  let modeArgs := (args.takeWhile (· ≠ ['-', '-'])).filter isModeOption
  let others := args.filter (fun arg => !modeArgs.contains arg)
  withArguments chmodFlags others fun a => do
    let mask := (← self).mask
    let reference : Except SystemError (Option Node) ← match a.value? "reference" with
      | none => pure (.ok none)
      | some path => Except.map some <$> nodeAt? path true
    match reference with
    | .error e => do
      say ("failed to get attributes of " ++ quoted ((a.value? "reference").getD []) ++ ": "
        ++ errorText e)
      pure 1
    | .ok (some node) =>
      if a.operands.isEmpty then missingOperand
      else
        forEach a.operands
          (changeModes a (fun _ => some node.mode) false (fun _ => some node.mode) maxDepth true)
    | .ok none =>
      let (text?, paths) := match modeArgs with
        | [] => (a.operands.head?, a.operands.drop 1)
        | texts => (some (List.intercalate [','] texts), a.operands)
      match text? with
      | none => missingOperand
      | some text =>
        if paths.isEmpty then misuse ("missing operand after " ++ emphasized text)
        else if (Mode.change? mask false 0 text).isNone then misuse ("invalid mode: " ++ emphasized text)
        else
          forEach paths (changeModes a (changedMode? mask · text) (!modeArgs.isEmpty)
            (changedMode? 0 · text) maxDepth true)

/-! ## Sizes and names -/

/-- A size with an optional sign of how it counts. -/
def truncate (args : List Text) : Eval Nat :=
  withArguments [flag 'c' "no-create", setting 's' "size", setting 'r' "reference",
      flag 'o' "io-blocks"] args fun a => do
    let text := (a.value? "size").getD []
    let sign := text.headD ' '
    let hasSign := "+-<>/%".toList.contains sign
    let reference : Option Node ← match a.value? "reference" with
      | some path => Except.toOption <$> nodeAt? path true
      | none => pure none
    match reference.map Node.size <|> size? (if hasSign then text.drop 1 else text) with
    | none =>
      if text.isEmpty then misuse "you must specify either '--size' or '--reference'"
      else do
        say ("Invalid number: " ++ emphasized text)
        pure 1
    | some n =>
      if a.operands.isEmpty then misuse "missing file operand"
      else
        forEach a.operands fun path => do
          let isThere := (← nodeAt? path true).isOk
          if !isThere ∧ a.has "no-create" then pure true
          else
            match ← openFile .append path with
            | .error e => blame ("cannot open " ++ quoted path ++ " for writing: " ++ errorText e)
            | .ok _ => do
              let _ ← change fun m =>
                match m.files.findNode m.directory (pathOf path) with
                | .ok (place, .file data) =>
                  let old := data.content.length
                  let size := match sign with
                    | '+' => old + n
                    | '-' => old - n
                    | '<' => min old n
                    | '>' => max old n
                    | _ => n
                  let content := data.content.take size
                    ++ List.replicate (size - data.content.length) 0
                  .ok ((m.files.put place
                    (.file { data with content, modified := m.now })).spread place)
                | _ => .ok m.files
              pure true

/-- A new file or directory with a name of its own. -/
def mktemp (args : List Text) : Eval Nat :=
  withArguments [flag 'd' "directory", flag 'u' "dry-run", flag 'q' "quiet", setting 'p', flag 't',
      longFlag "tmpdir" .optional, longFlag "suffix" .value] args fun a => do
    let base := ((a.value? "p").orElse (fun _ => a.value? "tmpdir")).filter (!·.isEmpty)
    let usual := (((← self).getText? "TMPDIR").filter (!·.isEmpty)).getD "/tmp".toList
    let template := a.operands.headD "tmp.XXXXXXXXXX".toList
    let needsBase := a.operands.isEmpty ∨ base.isSome ∨ a.has "tmpdir" ∨ a.has "t"
    let template := (if needsBase then joinName (base.getD usual) template else template)
      ++ (a.value? "suffix").getD []
    let count := ((template.reverse.dropWhile (· ≠ 'X')).takeWhile (· = 'X')).length
    if count < 3 then
      say ("too few X's in template " ++ emphasized template)
      pure 1
    else
      let number := (toString (((← get).nextProcess + 1) * 7919 + (← get).nextChannel)).toList
      let letters := number.map (fun c => Char.ofNat (c.toNat + 17))
      let tail := (template.reverse.takeWhile (· ≠ 'X')).reverse
      let start := template.take (template.length - tail.length - count)
      let path := start ++ (letters ++ List.replicate count 'q').take count ++ tail
      let kind := if a.has "directory" then "directory" else "file"
      let made ← if a.has "dry-run" then pure (.ok ())
        else if a.has "directory" then makeDirectory path (some 0o700)
        else do
          match ← openFile .fresh path with
          | .ok _ => do
            setMode path 0o600
            pure (.ok ())
          | .error e => pure (.error e)
      match made with
      | .ok () => do
        printLine path
        pure 0
      | .error e => do
        say ("failed to create " ++ kind ++ " via template " ++ emphasized template ++ ": " ++ errorText e)
        pure 1

end Slipway.Tool
