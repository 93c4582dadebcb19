import Slipway.Console.Command
import Slipway.Proofs.Preflight

/-!
# Setting up

Before a release begins, its root and its toolchain are found. That only asks about files, so it
leaves the world as it was, and when no question is refused the answers are those of the machine.
So is the version, which the first line of a file decides.
-/

namespace Slipway

open FileSystem World

variable {σ α ε : Type} {runner : Runner σ} {may : Refusals} {w w' : World σ}

/-! ## Asking about files -/

/-- The actions that ask about files, and tell nothing. -/
def Action.Looks : Action → Prop
  | .file action => action.Asks
  | _ => False

/-- A system that answers every question about files. -/
def Refusals.Candid (may : Refusals) : Prop := ∀ a : FileAction, a.Asks → ¬ may a

theorem Refusals.never_candid : Refusals.never.Candid := fun _ _ h => h

theorem World.Runs.still {p : Program α} {r : α} (h : w.Runs runner may p r w')
    (hp : p.Only Action.Looks) : w' = w := by
  refine h.only (R := fun w w' => w' = w) hp (fun w => rfl) (fun h h' => h'.trans h) ?_
  intro a w₁ r w₂ ha hw
  cases a with
  | file a =>
    obtain ⟨m, hm, rfl⟩ := hw
    rw [Machine.performs_asks hm ha]
  | _ => exact ha.elim

theorem runs_candid {a : FileAction} {r : a.Reply} (hmay : may.Candid) (ha : a.Asks)
    (h : w.Runs runner may (Program.file a) r w') : r = (w.machine.reply a).1 ∧ w' = w := by
  rw [runs_file] at h
  obtain ⟨m, hm, rfl⟩ := h
  obtain rfl := Machine.performs_asks hm ha
  rcases hm with hm | ⟨hrefused, -⟩
  · exact ⟨congrArg Prod.fst hm, rfl⟩
  · exact absurd hrefused (hmay a ha)

/-- What a program that only asks finds out on a machine. -/
def Machine.answers {α : Type} (m : Machine) (p : Program α) : α :=
  (World.run idleRunner { machine := m, runner := () } p).1

theorem World.Runs.answers {α : Type} {p : Program α} {r : α} (hmay : may.Candid)
    (hp : p.Only Action.Asks) (h : w.Runs runner may p r w') : r = w.machine.answers p := by
  unfold Machine.answers
  suffices ∀ v : World Unit, v.machine = w.machine → r = (v.run idleRunner p).1 from this _ rfl
  induction p generalizing w with
  | done a => exact fun _ _ => h.1
  | ask action next ih =>
    intro v hv
    obtain ⟨reply, w₁, ha, hrest⟩ := h
    have hmachine : w₁.machine = w.machine := (ha.untouched hp.1).1
    have hreply : (v.reply idleRunner action).1 = reply ∧
        (v.reply idleRunner action).2.machine = w.machine := by
      cases action with
      | file a =>
        obtain ⟨hr, -⟩ := runs_candid hmay hp.1 ((runs_perform _ _).mpr ha)
        subst hr
        refine ⟨by simp only [World.reply, hv], ?_⟩
        simp only [World.reply, hv]
        have hplain : w.machine.Performs may a (w.machine.reply a).1 (w.machine.reply a).2 :=
          Or.inl rfl
        exact Machine.performs_asks hplain hp.1
      | start i => exact hp.1.elim
      | _ => exact ⟨(Prod.mk.inj ha).1.symm, hv⟩
    have hrun : v.run idleRunner (.ask action next)
        = (v.reply idleRunner action).2.run idleRunner (next (v.reply idleRunner action).1) := rfl
    rw [hrun, hreply.1]
    exact ih reply (hp.2 reply) hrest _ (hreply.2.trans hmachine.symm)

/-! ## The version -/

/-- The path leads to a file with this content, which may be read. -/
def Machine.Offers (m : Machine) (path : Path) (content : Bytes) : Prop :=
  ∃ place data, m.files.findNode m.directory path = .ok (place, .file data) ∧
    ownerReads data.mode = true ∧ data.content = content

/-- What a file says about the version, and nothing else, decides how resolving it ends. -/
theorem runs_resolveVersion_iff {path : Path} {content : Bytes} {r : Except SetupError String}
    (hmay : may.Candid) (hfile : w.machine.Offers path content) :
    (∃ w', w.Runs runner may (resolveVersion path).run r w') ↔
      r = versionOfLine path (firstLine content) := by
  obtain ⟨place, data, hfind, hreads, rfl⟩ := hfile
  obtain ⟨w₁, hrun, -⟩ : ∃ w₁, w.Runs runner may (resolveVersion path).run
      (versionOfLine path (firstLine data.content)) w₁ ∧ _ := resolveVersion_ends hfind hreads
  constructor
  · rintro ⟨w', h⟩
    rw [h.answers hmay (resolveVersion_only path), hrun.answers hmay (resolveVersion_only path)]
  · rintro rfl
    exact ⟨w₁, hrun⟩

/-- The version is the first line of its file, and nothing but that. It is refused as unreadable
just when that line is no text, and as empty when nothing stands before the line's end. -/
theorem version_is_first_line {path : Path} {content : Bytes} (hmay : may.Candid)
    (hfile : w.machine.Offers path content) :
    ∃ r, (∀ r', (∃ w', w.Runs runner may (resolveVersion path).run r' w') ↔ r' = r) ∧
      (∃ line, FirstLineOf content line ∧
        ((∃ e, r = .error (.versionFileUnreadable path e)) ↔ ¬ ∃ text, line = Utf8.encode text) ∧
        ∀ text, line = Utf8.encode text → ∃ version, Unended text version ∧
          r = if version = "" then .error (.versionFileEmpty path) else .ok version) ∧
      (∀ version, r = .ok version → '\n' ∉ version.toList) ∧
      (∀ (v : World σ) (before rest other : Bytes), content = before ++ lineFeed :: rest →
        v.machine.Offers path (before ++ lineFeed :: other) →
        ∀ r', (∃ v', v.Runs runner may (resolveVersion path).run r' v') ↔ r' = r) ∧
      ∀ version, version ≠ "" → '\n' ∉ version.toList →
        (∀ rest, content = Utf8.encode (version ++ "\r\n") ++ rest → r = .ok version) ∧
        (content = Utf8.encode version → r = .ok version) ∧
        ∀ rest, content = Utf8.encode (version ++ "\n") ++ rest →
          (r = .ok version ↔ version.toList.getLast? ≠ some '\r') := by
  refine ⟨versionOfLine path (firstLine content), fun r' => runs_resolveVersion_iff hmay hfile,
    ⟨firstLine content, firstLineOf_firstLine content, ?_, ?_⟩, ?_, ?_, ?_⟩
  · constructor
    · rintro ⟨e, he⟩ ⟨text, htext⟩
      rw [htext, versionOfLine_encode] at he
      split_ifs at he
      cases he
    · intro hno
      exact ⟨_, versionOfLine_invalid fun text htext => hno ⟨text, htext⟩⟩
  · intro text htext
    have hline := firstLineOf_firstLine content
    rw [htext] at hline ⊢
    exact ⟨_, unended_dropLineEnd hline, versionOfLine_encode path text⟩
  · intro version hversion
    exact (isFirstLine_of_version hversion).no_lineFeed
  · rintro v before rest other rfl hother r'
    have hsame : firstLine (before ++ lineFeed :: other) = firstLine (before ++ lineFeed :: rest) := by
      have hmem : lineFeed ∈ before ++ [lineFeed] := by simp
      rw [List.append_cons before lineFeed other, List.append_cons before lineFeed rest,
        firstLine_append hmem, firstLine_append hmem]
    rw [runs_resolveVersion_iff hmay hother, hsame]
  · intro version hne hno
    refine ⟨?_, ?_, ?_⟩
    · rintro rest rfl
      exact version_returned rest hne hno
    · rintro rfl
      exact version_whole hne hno
    · rintro rest rfl
      exact version_fed rest hne hno

/-- Nothing but a version file, whose first line ends as on other systems and whose second one is
no text. -/
def versionedWorld : World Unit :=
  { machine := { files := { entries := [(["version.txt"],
      .file ⟨1, Utf8.encode "1.2.3\r\n" ++ [0xFF], newFileMode, 0⟩)], nextSerial := 2 } },
    runner := () }

theorem carriage_return_dropped :
    versionedWorld.machine.Offers ⟨"/version.txt"⟩ (Utf8.encode "1.2.3\r\n" ++ [0xFF]) ∧
      ∃ w', versionedWorld.Runs idleRunner Refusals.never (resolveVersion ⟨"/version.txt"⟩).run
        (.ok "1.2.3") w' := by
  have hfile : versionedWorld.machine.Offers ⟨"/version.txt"⟩
      (Utf8.encode "1.2.3\r\n" ++ [0xFF]) :=
    ⟨["version.txt"], ⟨1, Utf8.encode "1.2.3\r\n" ++ [0xFF], newFileMode, 0⟩, by decide, by decide,
      rfl⟩
  obtain ⟨r, hruns, -, -, -, hgiven⟩ : ∃ r, (∀ r', (∃ w', versionedWorld.Runs idleRunner
      Refusals.never (resolveVersion ⟨"/version.txt"⟩).run r' w') ↔ r' = r) ∧ _ :=
    version_is_first_line Refusals.never_candid hfile
  have hversion : r = .ok "1.2.3" := (hgiven "1.2.3" (by decide) (by decide)).1 [0xFF] rfl
  exact ⟨hfile, (hruns _).mpr hversion.symm⟩

/-! ## The root -/

/-- The root that is asked for, by an option, by a variable, or by where the program is. -/
def chosenRoot (env : Environment) (choice : Option Path) (m : Machine) :
    Except SetupError Path :=
  match choice with
  | some path => .ok path
  | none =>
    match env.getNonempty? rootVariable with
    | some text => .ok ⟨text⟩
    | none => m.currentDirectory.mapError (SetupError.invalidRoot ⟨"."⟩)

/-- The resolved form of the root that is asked for. -/
def foundRoot (env : Environment) (choice : Option Path) (m : Machine) :
    Except SetupError Path :=
  match chosenRoot env choice m with
  | .error e => .error e
  | .ok path => (m.files.canonicalize m.directory path).mapError (SetupError.invalidRoot path)

theorem resolveRoot_only (env : Environment) (choice : Option Path) :
    (resolveRoot env choice).run.Only Action.Looks := by
  unfold resolveRoot
  split
  · exact Stage.only_pure _
  · split
    · exact Stage.only_pure _
    · exact Stage.only_orElse (only_file trivial)

theorem fromRoot_only (root : Path) : (Settings.fromRoot root).run.Only Action.Looks :=
  Stage.only_bind (Stage.only_orElse (only_file trivial)) (fun _ => Stage.only_pure _)

theorem runs_resolveRoot {env : Environment} {choice : Option Path} {r : Except SetupError Path}
    (hmay : may.Candid) (h : w.Runs runner may (resolveRoot env choice).run r w') :
    r = chosenRoot env choice w.machine := by
  cases choice with
  | some path => exact h.1
  | none =>
    unfold resolveRoot at h
    unfold chosenRoot
    cases hset : env.getNonempty? rootVariable with
    | some text =>
      simp only [hset] at h
      exact h.1
    | none =>
      simp only [hset] at h
      rw [runs_orElse] at h
      obtain ⟨x, hask, rfl⟩ := h
      obtain ⟨rfl, -⟩ := runs_candid (a := .currentDirectory) hmay trivial hask
      rfl

theorem runs_fromRoot_candid {root : Path} {r : Except SetupError Settings} (hmay : may.Candid)
    (h : w.Runs runner may (Settings.fromRoot root).run r w') :
    r = ((w.machine.files.canonicalize w.machine.directory root).mapError
      (SetupError.invalidRoot root)).map Settings.below := by
  rw [Settings.fromRoot, runs_stage_bind] at h
  rcases h with ⟨canonical, w₁, hfound, rfl, -⟩ | ⟨e, hfound, rfl⟩
  · rw [runs_orElse_ok] at hfound
    obtain ⟨hreply, -⟩ := runs_candid (a := .canonicalize root) hmay trivial hfound
    rw [show w.machine.files.canonicalize w.machine.directory root = .ok canonical from hreply.symm]
    rfl
  · obtain ⟨e', rfl, hfailed⟩ := runs_orElse_error.mp hfound
    obtain ⟨hreply, -⟩ := runs_candid (a := .canonicalize root) hmay trivial hfailed
    rw [show w.machine.files.canonicalize w.machine.directory root = .error e' from hreply.symm]
    rfl

/-! ## The toolchain -/

theorem firstExecutable_only (paths : List Path) :
    (firstExecutable paths).Only Action.Looks := by
  induction paths with
  | nil => exact Program.only_pure _
  | cons path rest ih =>
    refine Program.only_bind (only_file trivial) (fun executable => ?_)
    split
    · exact Program.only_pure _
    · exact ih

theorem search_only (env : Environment) (program : String) :
    (search env program).run.Only Action.Looks := by
  unfold search
  split
  · exact Stage.only_throw _
  · refine Stage.only_bind (Stage.only_lift (firstExecutable_only _)) (fun found => ?_)
    cases found <;> trivial

theorem resolveToolchain_only (env : Environment) (choice : Option Path) :
    (resolveToolchain env choice).run.Only Action.Looks := by
  unfold resolveToolchain
  split
  · exact Stage.only_pure _
  · split
    · exact Stage.only_pure _
    · exact search_only _ _

/-- Whether a path is an executable file of the machine. -/
def Machine.executes (m : Machine) (path : Path) : Bool :=
  m.files.satisfies m.directory path isExecutableNode

/-- What the search path leads to. -/
def searched (env : Environment) (program : String) (m : Machine) : Except SetupError Path :=
  match env.get? "PATH" with
  | none =>
    .error (.toolchainNotFound program
      "no path to search and provided name is not an absolute path")
  | some path =>
    match (candidates env path program).find? m.executes with
    | some found => .ok found
    | none => .error (.toolchainNotFound program "cannot find binary path")

/-- The toolchain that is asked for, by an option or by a variable, or the one that the search path
leads to. -/
def foundToolchain (env : Environment) (choice : Option Path) (m : Machine) :
    Except SetupError Path :=
  match choice with
  | some path => .ok path
  | none =>
    match env.getNonempty? toolchainVariable with
    | some text => .ok ⟨text⟩
    | none => searched env toolchainProgram m

theorem runs_firstExecutable {paths : List Path} {r : Option Path} (hmay : may.Candid)
    (h : w.Runs runner may (firstExecutable paths) r w') : r = paths.find? w.machine.executes := by
  induction paths with
  | nil => exact h.1
  | cons path rest ih =>
    rw [firstExecutable, runs_bind] at h
    obtain ⟨executable, w₁, hask, h⟩ := h
    obtain ⟨hreply, rfl⟩ := runs_candid (a := .isExecutable path) hmay trivial hask
    rw [List.find?_cons, show w₁.machine.executes path = executable from hreply.symm]
    cases executable with
    | false => exact ih h
    | true => exact h.1

theorem runs_search {env : Environment} {program : String} {r : Except SetupError Path}
    (hmay : may.Candid) (h : w.Runs runner may (search env program).run r w') :
    r = searched env program w.machine := by
  unfold search at h
  unfold searched
  cases hpath : env.get? "PATH" with
  | none =>
    simp only [hpath] at h
    exact h.1
  | some path =>
    simp only [hpath] at h
    rw [runs_lift_bind] at h
    obtain ⟨found, w₁, hfound, h⟩ := h
    obtain rfl := runs_firstExecutable hmay hfound
    dsimp only
    generalize List.find? w.machine.executes _ = found at h ⊢
    cases found <;> exact h.1

theorem runs_resolveToolchain {env : Environment} {choice : Option Path}
    {r : Except SetupError Path} (hmay : may.Candid)
    (h : w.Runs runner may (resolveToolchain env choice).run r w') :
    r = foundToolchain env choice w.machine := by
  cases choice with
  | some path => exact h.1
  | none =>
    unfold resolveToolchain at h
    unfold foundToolchain
    cases hset : env.getNonempty? toolchainVariable with
    | some text =>
      simp only [hset] at h
      exact h.1
    | none =>
      simp only [hset] at h
      exact runs_search hmay h

/-! ## The configuration -/

/-- Settings with the choices of a request. -/
def Settings.requested (settings : Settings) (request : ReleaseRequest) : Settings where
  __ := settings
  collision := if request.force then .overwrite else .fail
  checksum := request.checksum

theorem configure_eq (env : Environment) (request : ReleaseRequest) :
    configure env request = (do
      let root ← resolveRoot env request.root
      let settings ← Settings.fromRoot root
      let toolchain ← resolveToolchain env request.toolchain
      Stage.note (.resolvedConfiguration settings.root toolchain)
      pure (settings.requested request, toolchain)) :=
  rfl

/-! ## The command -/

/-- What a run tells about its result, and how it ends. -/
def tellResult (palette : Palette) (format : OutputFormat) (began : Nat) :
    Except RunError Report → Program ExitStatus
  | .ok report => do
    let ended ← Program.perform .clock
    tellReport palette format (ended - began) report
    pure .success
  | .error e => do
    complainAll [palette.error (errorChain e.causes)]
    pure .failure

/-- The actions that only tell. -/
def Action.Tells : Action → Prop
  | .print _ | .complain _ | .clock => True
  | _ => False

theorem printAll_only (lines : List String) : (printAll lines).Only Action.Tells := by
  induction lines with
  | nil => exact Program.only_pure _
  | cons line rest ih => exact Program.only_bind (Program.only_perform trivial) (fun _ => ih)

theorem complainAll_only (lines : List String) : (complainAll lines).Only Action.Tells := by
  induction lines with
  | nil => exact Program.only_pure _
  | cons line rest ih => exact Program.only_bind (Program.only_perform trivial) (fun _ => ih)

theorem tellReport_only (palette : Palette) (format : OutputFormat) (elapsed : Nat)
    (report : Report) : (tellReport palette format elapsed report).Only Action.Tells := by
  cases format with
  | json => exact printAll_only _
  | text => exact Program.only_bind (complainAll_only _) (fun _ => printAll_only _)

theorem tellResult_only (palette : Palette) (format : OutputFormat) (began : Nat)
    (result : Except RunError Report) :
    (tellResult palette format began result).Only Action.Tells := by
  cases result with
  | error e => exact Program.only_bind (complainAll_only _) (fun _ => Program.only_pure _)
  | ok report =>
    refine Program.only_bind (Program.only_perform trivial) (fun ended => ?_)
    exact Program.only_bind (tellReport_only _ _ _ _) (fun _ => Program.only_pure _)

theorem runRequest_eq (env : Environment) (host : Host) (request : ReleaseRequest) :
    runRequest env host request = (do
      let began ← Program.perform .clock
      let result ← (releaseFor env host request).run
      tellResult (Palette.ofEnvironment env) request.output began result) := by
  unfold runRequest
  refine congrArg (Program.perform .clock >>= ·) (funext fun began => ?_)
  refine congrArg ((releaseFor env host request).run >>= ·) (funext fun result => ?_)
  cases result <;> rfl

theorem command_of_request {env : Environment} {host : Host} {arguments : List String}
    {request : ReleaseRequest} (h : ReleaseRequest.ofArguments arguments = .ok request) :
    command env host arguments
      = (runRequest env host request).logged (LogFilter.choose env request.verbose) := by
  simp only [command, h]

end Slipway
