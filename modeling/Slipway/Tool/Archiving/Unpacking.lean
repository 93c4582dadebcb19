import Slipway.Tool.Archiving.Packing

/-!
# Taking files out of archives

Which members are wanted, what they become among the files, and how they compare with the files that
are there.
-/

namespace Slipway.Tool.Archiving

open Shell

/-! ## Wanted members -/

/-- A name that is looked for, and the directory where its members go. -/
structure Wanted where
  name : Text
  directory : Location
  isFound : Bool := false

def Wanted.fits (p : Plan) (w : Wanted) (member : Text) : Bool :=
  let member := withoutEnd member
  if p.has "wildcards" ∧ isPattern (lettersOf false w.name) then
    (leadingNames member).any (fitsGlob w.name)
  else (leadingNames member).any (· = w.name)

/-- The names that are looked for. The result is the code of a failure, or the names with the
directory that was reached behind them. -/
def wantedNames (p : Plan) : Eval (Except Nat (List Wanted)) := do
  let start := (← get).machine.directory
  let mut result : Except Nat (List Wanted) := .ok []
  for step in p.steps do
    match result with
    | .error _ => pure ()
    | .ok found =>
      if step.1 = "directory" then
        if p.operation ≠ .list then
          if let some code ← enterDirectory step.2 then result := .error code
      else
        let here := (← get).machine.directory
        if step.1 = "files-from" then
          match ← namesFrom p step.2 with
          | .error e =>
            result := .error (← giveUp (Text.toString (listedName step.2) ++ ": Cannot open: "
              ++ errorText e))
          | .ok names =>
            result := .ok (found ++ names.map (fun name =>
              { name := withoutEnd name, directory := here }))
        else if isName step then
          result := .ok (found ++ [{ name := withoutEnd step.2, directory := here }])
  match result with
  | .error code => pure (.error code)
  | .ok found => do
    let s ← get
    let found := if found.isEmpty then [] else found
    if !found.isEmpty then
      set { s with machine := { s.machine with directory := start } }
    pure (.ok found)

/-- Tells of names that were not found. -/
def tellMissing (p : Plan) (wanted : List Wanted) : Eval Bool := do
  let missing := wanted.filter (!·.isFound)
  let isGlob (w : Wanted) := isPattern (lettersOf false w.name)
  let mut warned := p.has "wildcards" || p.has "no-wildcards"
  for w in missing do
    if isGlob w ∧ !warned then
      say "Pattern matching characters used in file names"
      say "Use --wildcards to enable pattern matching, or --no-wildcards to suppress this warning"
      warned := true
    say (Text.toString (listedName w.name) ++ ": Not found in archive")
  pure missing.isEmpty

/-! ## Extracting -/

/-- The state of a work on members. -/
structure Unpacking where
  wanted : List Wanted
  told : Told := []
  ok : Bool := true
  width : Nat := ownerWidth

/-- What is done with something that is in the way. -/
inductive OldFiles
  | replaced
  | kept
  | skipped
  | overwritten
  deriving DecidableEq

def Plan.oldFiles (p : Plan) : OldFiles :=
  match p.lastOf ["keep-old-files", "skip-old-files", "overwrite"] with
  | some "keep-old-files" => .kept
  | some "skip-old-files" => .skipped
  | some _ => .overwritten
  | none => .replaced

/-- Makes the directories above a path that are not there. -/
def makeAbove (path : Text) : Eval Unit :=
  (wayTo path).dropLast.forM fun place => do
    let _ ← makeDirectory place none

/-- Removes what is in the way. -/
def clearWay (path : Text) : Eval Bool := do
  let result ← match ← nodeAt? path with
    | .ok (.directory _) => removeDirectory path
    | _ => act (.remove (pathOf path))
  pure result.isOk

/-- The end of an attempt to make something. -/
inductive Attempt (α : Type)
  | made (value : α)
  | left
  | failed (e : SystemError)

/-- Makes something. Missing directories are made first, and what is in the way is dealt with as the
plan says. -/
def attemptMaking {α : Type} (old : OldFiles) (path : Text)
    (make : Eval (Except SystemError α)) : (tries : Nat) → Eval (Attempt α)
  | 0 => return match ← make with
    | .ok value => .made value
    | .error e => .failed e
  | tries + 1 => do
    match ← make with
    | .ok value => pure (.made value)
    | .error .noEntry => do
      makeAbove path
      attemptMaking old path make tries
    | .error .alreadyThere =>
      if old = .skipped then pure .left
      else if old = .kept then pure (.failed .alreadyThere)
      else if ← clearWay path then attemptMaking old path make tries
      else pure (.failed .alreadyThere)
    | .error e => pure (.failed e)

/-- The mode that a member has among the files. -/
def extractedMode (p : Plan) (m : Tar.Member) : Eval Nat := do
  if p.has "no-same-permissions" ∧ !p.has "preserve-permissions" then newMode (m.mode &&& 0o777)
  else pure m.mode

def extractFile (p : Plan) (path : Text) (m : Tar.Member) : Eval (Attempt Unit) := do
  let old := p.oldFiles
  if p.has "unlink-first" then let _ ← clearWay path
  let opening : Opening := if old = .overwritten then .write else .fresh
  match ← attemptMaking old path (openFile opening path) 3 with
  | .left => pure .left
  | .failed e => pure (.failed e)
  | .made id => do
    match ← (if m.content.isEmpty then pure (.ok ()) else writeTo id m.content) with
    | .error e => pure (.failed e)
    | .ok () => do
      setMode path (← extractedMode p m)
      if !p.has "touch" then setModified path m.modified
      pure (.made ())

def extractDirectory (p : Plan) (path : Text) (m : Tar.Member) : Eval (Attempt Unit) := do
  let mode ← extractedMode p m
  match ← nodeAt? path (p.has "keep-directory-symlink") with
  | .ok (.directory _) => do
    if p.oldFiles = .replaced ∧ !p.has "no-overwrite-dir" then setMode path mode
    pure (.made ())
  | _ => attemptMaking p.oldFiles path (makeDirectory path (some mode)) 3

/-- Where a link leads, under the name that its member has among the files. -/
def extractLink (p : Plan) (path : Text) (m : Tar.Member) : Eval (Attempt Unit) :=
  let target := p.transform .symbolicLink (Text.ofBytes m.target)
  attemptMaking p.oldFiles path
    (change (fun machine =>
      machine.files.makeLink machine.directory target.toString (pathOf path))) 3

def whatFailed (m : Tar.Member) (target : Text) : String :=
  match m.kind with
  | .directory => "mkdir"
  | .symbolicLink => "create symlink to " ++ emphasized (Text.ofBytes m.target)
  | .hardLink => "hard link to " ++ emphasized target
  | _ => "open"

/-- Makes what a member stands for, under a name. -/
def place (p : Plan) (name : Text) (m : Tar.Member) (u : Unpacking) : Eval Unpacking := do
  let (target, told) ← if m.kind = .hardLink then do
      let (target, told) ← makeSafe p .hardLink u.told
        (p.transform .hardLink (Text.ofBytes m.target))
      pure (stripParts p.strip target, told)
    else pure ([], u.told)
  let u := { u with told }
  let result ← match m.kind with
    | .directory => extractDirectory p name m
    | .symbolicLink => extractLink p name m
    | .hardLink => do
      if ← isSameFile target name then pure (.made ())
      else attemptMaking p.oldFiles name (giveName target name false) 3
    | _ => extractFile p name m
  match result with
  | .made () | .left => pure u
  | .failed e =>
    if m.kind = .directory ∧ e = .alreadyThere ∧ p.oldFiles = .kept then pure u
    else
      say (Text.toString (listedName name) ++ ": Cannot " ++ whatFailed m target ++ ": "
        ++ errorText e)
      pure { u with ok := false }

/-- The one directory that everything goes into, if that is wanted. It is named for the archive unless
it has a name of its own. -/
def topDirectory? (p : Plan) : Option Text :=
  (p.value? "one-top-level").map fun given =>
    if !given.isEmpty then given
    else
      let name := lastName p.archive
      let endings := [".tar.gz", ".tgz", ".taz", ".tar.bz2", ".tar.xz", ".tar"]
      match endings.find? (fun ending => ending.toList.isSuffixOf name) with
      | some ending => name.take (name.length - ending.length)
      | none => name

def belowTop (p : Plan) (name : Text) : Text :=
  match topDirectory? p with
  | some top =>
    if name.isEmpty ∨ name = top ∨ (top ++ ['/']).isPrefixOf name then name
    else if name = ['.'] then top else joinName top name
  | none => name

def extractMember (p : Plan) (stored : Tar.Stored) (u : Unpacking) : Eval Unpacking := do
  let m := stored.member
  let original := Text.ofBytes m.name
  let (safe, told) ← makeSafe p .file u.told (p.transform .file (withoutEnd original))
  let name := belowTop p (stripParts p.strip safe)
  let u := { u with told }
  if name.isEmpty then return u
  let shownPath := if p.has "show-transformed-names" then
      name ++ (if m.kind = .directory then ['/'] else [])
    else original
  let width ← announce p (p.has "to-stdout") p.verbosity u.width m shownPath
  let u := { u with width }
  if p.has "to-stdout" then
    if m.kind = .file then
      let _ ← emit 1 m.content
    return u
  place p name m u

def listMember (p : Plan) (stored : Tar.Stored) (u : Unpacking) : Eval Unpacking := do
  let m := stored.member
  let original := Text.ofBytes m.name
  let (safe, told) ← makeSafe p .file u.told (p.transform .file (withoutEnd original))
  let name := if p.has "show-transformed-names" then
      stripParts p.strip safe ++ (if m.kind = .directory then ['/'] else [])
    else original
  let width ← announce p false (p.verbosity + 1) u.width m name
  pure { u with told, width }

/-! ## Comparing -/

/-- How a member differs from the file of its name. -/
def compareMember (p : Plan) (stored : Tar.Stored) (u : Unpacking) : Eval Unpacking := do
  let m := stored.member
  let name := Text.ofBytes m.name
  let width ← announce p false p.verbosity u.width m name
  let u := { u with width }
  let differ (text : String) : Eval Unpacking := do
    printLine (listedName name ++ ": ".toList ++ text.toList)
    pure { u with ok := false }
  match ← nodeAt? (withoutEnd name) with
  | .error e => do
    say (Text.toString (listedName name) ++ ": Warning: Cannot stat: " ++ errorText e)
    pure { u with ok := false }
  | .ok node =>
    match node, m.kind with
    | .directory mode, .directory =>
      if mode ≠ m.mode then differ "Mode differs" else pure u
    | .link target, .symbolicLink =>
      if (Text.ofString target).toBytes ≠ m.target then differ "Symlink differs" else pure u
    | .file _, .hardLink => pure u
    | .file data, .file => do
      let u ← if data.mode ≠ m.mode then differ "Mode differs" else pure u
      let u ← if data.modified ≠ m.modified then
          return { ← differ "Mod time differs" with ok := false }
        else pure u
      if data.content.length ≠ m.content.length then differ "Size differs"
      else if data.content ≠ m.content then differ "Contents differ"
      else pure u
    | _, _ => differ "File type differs"

/-! ## Going through an archive -/

/-- Does something with each wanted member. -/
def forMembers (p : Plan) (work : Tar.Stored → Unpacking → Eval Unpacking) (patterns : List Text)
    (stored : List Tar.Stored) (u : Unpacking) : Eval Unpacking :=
  stored.foldlM (fun u item => do
    let name := Text.ofBytes item.member.name
    if isExcluded p patterns (withoutEnd name) then pure u
    else if u.wanted.isEmpty then work item u
    else
      match u.wanted.find? (fun w => w.fits p name) with
      | none => pure u
      | some w => do
        let wanted := u.wanted.map (fun other =>
          if other.name = w.name then { other with isFound := true } else other)
        let s ← get
        if p.operation = .extract then
          set { s with machine := { s.machine with directory := w.directory } }
        work item { u with wanted }) u

end Slipway.Tool.Archiving
