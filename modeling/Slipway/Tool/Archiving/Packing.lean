import Slipway.Tool.Archiving.Plan

/-!
# Putting files into archives

Files and trees become members, one after the other; a file that is met again under another name
becomes a link to the first one.
-/

namespace Slipway.Tool.Archiving

open Shell

/-- What was put into an archive so far. -/
structure Packing where
  /-- The bytes of members, the latest first. -/
  written : List Bytes := []
  /-- Files with several names, and the names of their members. -/
  links : List (Nat × Text) := []
  told : Told := []
  ok : Bool := true
  width : Nat := ownerWidth
  /-- Paths of what is in the archive, the latest first. -/
  packed : List Text := []

/-! ## Owners and times -/

/-- The number of a user, and the name. -/
def userNamed (name : Text) : Nat × Text :=
  match userLines.findSome? (fun line =>
    match splitAtChar ':' line.toList with
    | user :: _ :: number :: _ => if user = name then decimal? number else none
    | _ => none) with
  | some number => (number, name)
  | none => (0, name)

def userNumbered (number : Nat) : Nat × Text :=
  (number, (userLines.findSome? (fun line =>
    match splitAtChar ':' line.toList with
    | user :: _ :: n :: _ => if decimal? n = some number then some user else none
    | _ => none)).getD [])

/-- An owner as an option tells it: by name, by number, or both. -/
def ownerOf (given : Option Text) : Nat × Text :=
  match given with
  | none => (0, "root".toList)
  | some given =>
    let name := given.takeWhile (· ≠ ':')
    match given.drop (name.length + 1) with
    | [] =>
      match decimal? (if name.head? = some '+' then name.drop 1 else name) with
      | some number => userNumbered number
      | none => userNamed name
    | number => ((decimal? number).getD 0, name)

/-- The time that all members get, if an option says so. -/
def fixedTime (p : Plan) : Eval (Option Int) := do
  match p.value? "mtime" with
  | none => pure none
  | some text =>
    if text.head? = some '/' ∨ text.head? = some '.' then
      return (← modifiedAt text).toOption
    else return (readDate? (← get).machine.now text).map (·.1)

/-! ## Members -/

def storedName (p : Plan) (use : NameUse) (told : Told) (name : Text) : Eval (Text × Told) := do
  let (name, told) ← makeSafe p use told name
  pure (p.transform use name, told)

def memberMode (p : Plan) (node : Node) : Nat :=
  match p.value? "mode" with
  | none => node.mode
  | some text => (Mode.change? 0 node.isDirectory node.mode text).getD node.mode

/-- Makes a member of what is at a path. A file with several names is remembered. -/
def addMember (p : Plan) (toErrors : Bool) (path : Text) (node : Node) (content : Bytes)
    (s : Packing) : Eval Packing := do
  let m := (← get).machine
  let (name, told) ← storedName p .file s.told path
  let (owner, ownerName) := ownerOf (p.value? "owner")
  let (group, groupName) := ownerOf (p.value? "group")
  let modified := match ← fixedTime p with
    | some time => if p.has "clamp-mtime" then min time (timeOf m node) else time
    | none => timeOf m node
  let ending := if node.isDirectory ∧ name.getLast? ≠ some '/' then ['/'] else []
  let isNumeric := p.has "numeric-owner"
  let member : Tar.Member := {
    name := (name ++ ending).toBytes, mode := memberMode p node, owner, group
    kind := match node with
      | .directory _ => .directory
      | .link _ => .symbolicLink
      | .device _ => .other 51
      | _ => .file
    ownerName := if isNumeric then [] else ownerName.toBytes
    groupName := if isNumeric then [] else groupName.toBytes, modified := modified.toNat, content }
  let several := match node with
    | .file data => !p.has "hard-dereference" && 1 < nameCount m.files [] (.file data)
    | _ => false
  let serial := FileSystem.serialOf node
  let first := if several then s.links.lookup serial else none
  let (member, told) ← match node, first with
    | .link target, _ =>
      pure ({ member with target := (p.transform .symbolicLink (Text.ofString target)).toBytes }, told)
    | _, some first => do
      let (target, told) ← storedName p .hardLink told first
      pure ({ member with kind := .hardLink, target := target.toBytes, content := [] }, told)
    | _, none => pure (member, told)
  let shownPath := if p.has "show-transformed-names" then name else path
  let slash := if node.isDirectory ∧ shownPath.getLast? ≠ some '/' then ['/'] else []
  let width ← announce p toErrors p.verbosity s.width member (shownPath ++ slash)
  pure { s with
    written := member.toBytes :: s.written, told, width, packed := path :: s.packed
    links := if several ∧ first.isNone then (serial, path) :: s.links else s.links }

/-- A failure that leaves the rest of the work possible. -/
def missed (s : Packing) (name : Text) (task : String) (e : SystemError) : Eval Packing := do
  say (Text.toString (listedName name) ++ ": Cannot " ++ task ++ ": " ++ errorText e)
  pure { s with ok := false }

/-- The time of the newest member of a name in an archive. -/
def storedTime? (stored : List Tar.Stored) (name : Text) : Option Nat :=
  (stored.reverse.find? (fun s => Text.ofBytes s.member.name = name)).map (·.member.modified)

/-- Puts what is at a path into the archive, with all that is below it. The archive itself is left
out, and so is what is not newer than `old` members. -/
def pack (p : Plan) (patterns : List Text) (own : Option Nat) (old : List Tar.Stored)
    (toErrors : Bool) : (fuel : Nat) → Text → Packing → Eval Packing
  | 0, _, s => pure s
  | fuel + 1, path, s => do
    if isExcluded p patterns path then return s
    match ← nodeAt? path (p.has "dereference") with
    | .error e => missed s path "stat" e
    | .ok node =>
      match node with
      | .directory _ => do
        let s ← addMember p toErrors path node [] s
        if p.has "no-recursion" then return s
        (← sortedNames path).foldlM (fun s name =>
          pack p patterns own old toErrors fuel (joinName path name) s) s
      | .file data => do
        if own = some data.serial then
          say (Text.toString (listedName path) ++ ": file is the archive; not dumped")
          return s
        if p.operation = .update ∧ (storedTime? old path).any (fun time => data.modified ≤ time) then
          return s
        match ← openFile .read path with
        | .error e => missed s path "open" e
        | .ok id =>
          match ← readAll id with
          | .error e => missed s path "read" e
          | .ok content => addMember p toErrors path node content s
      | node => addMember p toErrors path node [] s

/-! ## Names from the arguments -/

def withoutEnd (name : Text) : Text :=
  let rest := (name.reverse.dropWhile (· = '/')).reverse
  if rest.isEmpty then name.take 1 else rest

/-- Goes into a directory, or tells why the work ends. -/
def enterDirectory (path : Text) : Eval (Option Nat) := do
  let s ← get
  match s.machine.enter? (pathOf path) with
  | some machine => do
    set { s with machine }
    pure none
  | none => do
    let e := match s.machine.files.findNode s.machine.directory (pathOf path) with
      | .ok (_, .directory _) => SystemError.noAccess
      | .ok _ => .notDirectory
      | .error e => e
    return some (← giveUp (Text.toString (listedName path) ++ ": Cannot open: " ++ errorText e))

/-- The names in a file, one in a line or up to a NUL. -/
def namesFrom (p : Plan) (file : Text) : Eval (Except SystemError (List Text)) := do
  match ← contentOf file with
  | .error e => pure (.error e)
  | .ok bytes =>
    let separator := if p.has "null" then '\x00' else '\n'
    return .ok ((splitAtChar separator (Text.ofBytes bytes)).filter (!·.isEmpty))

/-- Options that count only for the names behind them. -/
def positional? (step : String × Text) : Option String :=
  let shownValue := " " ++ emphasized step.2
  if step.1 = "exclude" ∨ step.1 = "exclude-from" then some ("--" ++ step.1 ++ shownValue)
  else if step.1 = "directory" then some ("-C" ++ shownValue)
  else if ["no-recursion", "recursion", "anchored", "no-anchored", "wildcards", "no-wildcards",
      "wildcards-match-slash", "no-wildcards-match-slash", "ignore-case", "no-ignore-case"].contains
      step.1 then
    some ("--" ++ step.1)
  else none

def isName (step : String × Text) : Bool :=
  step.1 = operandKey || step.1 = "files-from" || step.1 = "add-file"

/-- Tells of options behind the last name. -/
def tellUnused (p : Plan) : Eval Bool := do
  let unused := ((p.steps.reverse.takeWhile (!isName ·)).reverse).filterMap positional?
  if unused.isEmpty ∨ !p.steps.any isName then pure true
  else
    say ("The following options were used after any non-optional arguments in archive create or "
      ++ "update mode.  These options are positional and affect only arguments that follow them.  "
      ++ "Please, rearrange them properly.")
    unused.forM fun text => say (text ++ " has no effect")
    pure false

/-- The patterns that an option tells. -/
def patternsOf (p : Plan) (step : String × Text) : Eval (List Text) := do
  if step.1 = "exclude" then pure [step.2]
  else if step.1 = "exclude-from" then
    return match ← namesFrom p step.2 with
      | .ok names => names
      | .error _ => []
  else pure []

/-- Packs all that is named. The result is the code of a failure that ends the work, or what was
packed. -/
def packAll (p : Plan) (own : Option Nat) (old : List Tar.Stored) (toErrors : Bool) :
    Eval (Except Nat Packing) := do
  let mut patterns : List Text := []
  let mut result : Except Nat Packing := .ok {}
  for step in p.steps do
    match result with
    | .error _ => pure ()
    | .ok s =>
      patterns := patterns ++ (← patternsOf p step)
      let excluded := patterns
      let packOne (s : Packing) (name : Text) : Eval Packing :=
        pack p excluded own old toErrors maxDepth (withoutEnd name) s
      if step.1 = "directory" then
        if let some code ← enterDirectory step.2 then result := .error code
      else if step.1 = "files-from" then
        match ← namesFrom p step.2 with
        | .error e =>
          result := .error (← giveUp (Text.toString (listedName step.2) ++ ": Cannot open: "
            ++ errorText e))
        | .ok names => result := .ok (← names.foldlM packOne s)
      else if isName step then result := .ok (← packOne s step.2)
  match result with
  | .error code => pure (.error code)
  | .ok s => do
    let ok ← tellUnused p
    pure (.ok { s with ok := s.ok && ok })

/-- Removes what was packed, the innermost first. -/
def removePacked (s : Packing) : Eval Bool := do
  s.packed.foldlM (fun ok path => do
    let result ← if ← leadsToDirectory path then removeDirectory path
      else act (.remove (pathOf path))
    match result with
    | .ok () => pure ok
    | .error e => do
      say (Text.toString (listedName path) ++ ": Cannot unlink: " ++ errorText e)
      pure false) true

end Slipway.Tool.Archiving
