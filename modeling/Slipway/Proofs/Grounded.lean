import Slipway.Proofs.Stages

/-!
# Programs that do not look where they are

A program that gives only absolute paths to the system and never asks for the current directory runs
in the same way in every directory. All the stages of a release are such programs when the paths in
its settings are absolute.
-/

namespace Slipway

open FileSystem World

variable {σ τ α β ε δ : Type} {runner : Runner σ} {may : Refusals} {w w' v : World σ}
  {settings : Settings} {m m' n : Machine}

/-! ## Absolute paths -/

namespace Path

theorem isAbsolute_join_left {p : Path} (h : p.isAbsolute = true) (right : String) :
    (p.join right).isAbsolute = true := by
  by_cases hr : isAbsolute ⟨right⟩ = true
  · rw [join, if_pos hr]
    exact hr
  · rw [isAbsolute_join hr]
    exact h

theorem isAbsolute_withFileName {p : Path} (h : p.isAbsolute = true) (name : String) :
    (p.withFileName name).isAbsolute = true := by
  unfold withFileName
  split
  · rename_i up _ hup
    exact isAbsolute_join_left ((stepsOf_parent? hup).1.trans h) name
  · exact isAbsolute_join_left h name

end Path

/-! ## Actions -/

/-- The paths that a file action is given. -/
def FileAction.paths : FileAction → List Path
  | .canonicalize path | .pathExists path | .isRegularFile path | .isDirectory path
  | .isExecutable path | .makeDirectory path | .openRead path | .openWrite _ path
  | .describe path | .remove path => [path]
  | .rename origin destination => [origin, destination]
  | .currentDirectory | .read _ _ _ | .write _ _ _ | .describeOpen _ => []

/-- The actions that are the same in every current directory. -/
def FileAction.Anywhere (a : FileAction) : Prop :=
  a ≠ .currentDirectory ∧ ∀ path ∈ a.paths, path.isAbsolute = true

/-- Such actions and events, which are what a release is made of. -/
def Action.Anywhere : Action → Prop
  | .file action => action.Anywhere
  | .start _ | .note _ => True
  | .print _ | .complain _ | .clock => False

/-- The replies that a system can give: a resolved path is absolute. -/
def Action.Proper : (a : Action) → a.Reply → Prop
  | .file (.canonicalize _), reply => ∀ path, reply = .ok path → path.isAbsolute = true
  | _, _ => True

theorem Action.Reads.anywhere {file : Handle} {a : Action} (h : a.Reads file) : a.Anywhere := by
  cases a with
  | file a => cases a <;> first | exact h.elim | exact ⟨by simp, by simp [FileAction.paths]⟩
  | _ => exact h.elim

/-! ## Machines and worlds that differ in the current directory -/

structure Machine.Alike (m n : Machine) : Prop where
  files : n.files = m.files
  now : n.now = m.now

/-- What a process does depends on the files, and not on the directory that it is started in. -/
def Runner.Placeless (runner : Runner σ) : Prop :=
  ∀ i m n s, m.Alike n →
    (runner i n s).1 = (runner i m s).1 ∧ (runner i m s).2.1.Alike (runner i n s).2.1 ∧
      (runner i n s).2.2 = (runner i m s).2.2

structure World.Alike (w v : World σ) : Prop where
  machine : w.machine.Alike v.machine
  runner : v.runner = w.runner
  started : v.started = w.started
  messages : v.messages = w.messages
  lines : v.lines = w.lines

theorem Machine.Alike.symm (h : m.Alike n) : n.Alike m := ⟨h.files.symm, h.now.symm⟩

theorem World.Alike.symm (h : w.Alike v) : v.Alike w :=
  ⟨h.machine.symm, h.runner.symm, h.started.symm, h.messages.symm, h.lines.symm⟩

/-! ## One action -/

section Paths

variable (fs : FileSystem) (here there : Location) {path : Path} (h : path.isAbsolute = true)

include h

theorem find_anywhere (follow : Bool) : fs.find here path follow = fs.find there path follow := by
  simp only [find, startOf, h, if_true]

theorem findNode_anywhere : fs.findNode here path = fs.findNode there path := by
  simp only [findNode, find_anywhere fs here there h]

theorem findLast_anywhere : fs.findLast here path = fs.findLast there path := by
  simp only [findLast, startOf, h, if_true]

theorem canonicalize_anywhere : fs.canonicalize here path = fs.canonicalize there path := by
  simp only [canonicalize, startOf, h, if_true, Bool.not_true, Bool.false_eq_true, false_and]

end Paths

namespace Machine

theorem change_alike (hm : m.Alike n) (r : Except SystemError FileSystem) :
    (n.change r).1 = (m.change r).1 ∧ (m.change r).2.Alike (n.change r).2 := by
  cases r with
  | error e => exact ⟨rfl, hm⟩
  | ok files => exact ⟨rfl, rfl, hm.now⟩

theorem opened_alike (hm : m.Alike n) (r : Except SystemError (FileSystem × Handle)) :
    (n.opened r).1 = (m.opened r).1 ∧ (m.opened r).2.Alike (n.opened r).2 := by
  cases r with
  | error e => exact ⟨rfl, hm⟩
  | ok found => exact ⟨rfl, rfl, hm.now⟩

theorem renamed_alike (hm : m.Alike n)
    (r : Except SystemError (FileSystem × Location × Location)) :
    (n.renamed r).1 = (m.renamed r).1 ∧ (m.renamed r).2.Alike (n.renamed r).2 := by
  cases r with
  | error e => exact ⟨rfl, hm⟩
  | ok moved =>
    simp only [renamed]
    split
    · exact ⟨rfl, hm⟩
    · exact ⟨rfl, rfl, hm.now⟩

theorem reply_anywhere {a : FileAction} (ha : a.Anywhere) (hm : m.Alike n) :
    (n.reply a).1 = (m.reply a).1 ∧ (m.reply a).2.Alike (n.reply a).2 := by
  have hnode : ∀ path ∈ a.paths,
      m.files.findNode n.directory path = m.files.findNode m.directory path :=
    fun path hp => findNode_anywhere _ _ _ (ha.2 path hp)
  have hlast : ∀ path ∈ a.paths,
      m.files.findLast n.directory path = m.files.findLast m.directory path :=
    fun path hp => findLast_anywhere _ _ _ (ha.2 path hp)
  -- Every action looks its paths up first, and the rest of its answer depends on the files alone.
  cases a with
  | currentDirectory => exact absurd rfl ha.1
  | canonicalize path =>
    have hsame := canonicalize_anywhere m.files n.directory m.directory
      (ha.2 path (by simp [FileAction.paths]))
    simp only [reply, hm.files, hsame, true_and]
    exact hm
  | pathExists path | isRegularFile path | isDirectory path | isExecutable path | openRead path
  | describe path =>
    have hsame := hnode path (by simp [FileAction.paths])
    simp only [reply, hm.files, hm.now, exists?, satisfies, FileSystem.openRead,
      FileSystem.describe, hsame, true_and]
    exact hm
  | read file offset count | describeOpen file =>
    simp only [reply, hm.files, hm.now, true_and]
    exact hm
  | write file offset bytes =>
    simp only [reply, hm.files, hm.now]
    exact change_alike hm _
  | makeDirectory path =>
    have hsame := hlast path (by simp [FileAction.paths])
    simp only [reply, hm.files, FileSystem.makeDirectory, hsame]
    exact change_alike hm _
  | remove path =>
    have hsame := hlast path (by simp [FileAction.paths])
    simp only [reply, hm.files, FileSystem.remove, hsame]
    exact change_alike hm _
  | openWrite creation path =>
    have hfresh := hlast path (by simp [FileAction.paths])
    have hany := find_anywhere m.files n.directory m.directory
      (ha.2 path (by simp [FileAction.paths])) true
    simp only [reply, hm.files, hm.now, FileSystem.openWrite, openFresh, openAny, hfresh, hany]
    exact opened_alike hm _
  | rename origin destination =>
    have hold := hlast origin (by simp [FileAction.paths])
    have hnew := hlast destination (by simp [FileAction.paths])
    simp only [reply, hm.files, renameWith, hold, hnew]
    exact renamed_alike hm _

theorem Performs.anywhere {a : FileAction} {r : a.Reply} (h : m.Performs may a r m')
    (ha : a.Anywhere) (hm : m.Alike n) : ∃ n', n.Performs may a r n' ∧ m'.Alike n' := by
  rcases h with h | ⟨hmay, hfailed, rfl | hcut⟩
  · obtain ⟨hr, hafter⟩ := reply_anywhere ha hm
    rw [Prod.ext_iff] at h
    obtain ⟨rfl, rfl⟩ := h
    exact ⟨(n.reply a).2, Or.inl (Prod.ext hr.symm rfl), hafter⟩
  · exact ⟨n, Or.inr ⟨hmay, hfailed, Or.inl rfl⟩, hm⟩
  · cases hcut with
    | write part wrote =>
      refine ⟨_, Or.inr ⟨hmay, hfailed, Or.inr (.write part ?_)⟩, rfl, hm.now⟩
      rw [hm.files, hm.now]
      exact wrote

end Machine

theorem canonicalize_isAbsolute {fs : FileSystem} {here : Location} {path found : Path}
    (h : fs.canonicalize here path = .ok found) : found.isAbsolute = true := by
  unfold canonicalize at h
  split at h <;> try contradiction
  split at h <;> try contradiction
  split at h <;> try contradiction
  obtain ⟨place, -, rfl⟩ := map_eq_ok h
  exact isAbsolute_pathOf place

theorem World.Answers.proper {a : Action} {r : a.Reply} (h : w.Answers runner may a r w') :
    a.Proper r := by
  cases a with
  | file a =>
    obtain ⟨m, hperf, rfl⟩ := h
    cases a <;> try trivial
    rintro path rfl
    exact canonicalize_isAbsolute (Machine.performs_ok hperf (by simp [FileAction.failure])).1.symm
  | _ => trivial

theorem World.Answers.anywhere {a : Action} {r : a.Reply} (hrunner : runner.Placeless)
    (h : w.Answers runner may a r w') (ha : a.Anywhere) (hw : w.Alike v) :
    ∃ v', v.Answers runner may a r v' ∧ w'.Alike v' := by
  cases a with
  | file a =>
    obtain ⟨m, hperf, rfl⟩ := h
    obtain ⟨n, hperf', hn⟩ := hperf.anywhere ha hw.machine
    exact ⟨_, ⟨n, hperf', rfl⟩, hn, hw.runner, hw.started, hw.messages, hw.lines⟩
  | start i =>
    obtain ⟨rfl, rfl⟩ := Prod.mk.inj h
    obtain ⟨hr, hmachine, hstate⟩ := hrunner i _ _ w.runner hw.machine
    refine ⟨(v.reply runner (.start i)).2, ?_, ?_, ?_, ?_, hw.messages, hw.lines⟩
    · simp only [Answers, reply, hw.runner, hr]
    · simpa only [reply, hw.runner] using hmachine
    · simpa only [reply, hw.runner] using hstate
    · simp only [reply, hw.started]
  | note event =>
    obtain ⟨rfl, rfl⟩ := Prod.mk.inj h
    refine ⟨_, rfl, hw.machine, hw.runner, hw.started, ?_, hw.lines⟩
    rw [hw.messages]
  | _ => exact ha.elim

/-! ## Programs -/

namespace Program

/-- Whatever the replies, the program goes on with actions that are the same everywhere, and `post`
holds of its result. -/
def Grounded (post : α → Prop) : Program α → Prop
  | .done a => post a
  | .ask action next =>
    action.Anywhere ∧ ∀ reply, action.Proper reply → (next reply).Grounded post

variable {post : α → Prop} {p : Program α}

theorem Grounded.mono {other : α → Prop} (h : p.Grounded post) (hpost : ∀ a, post a → other a) :
    p.Grounded other := by
  induction p with
  | done a => exact hpost a h
  | ask action next ih => exact ⟨h.1, fun reply hreply => ih reply (h.2 reply hreply)⟩

theorem Grounded.bind {after : β → Prop} {f : α → Program β} (h : p.Grounded post)
    (hf : ∀ a, post a → (f a).Grounded after) : (p >>= f).Grounded after := by
  change (p.bind f).Grounded after
  induction p with
  | done a => exact hf a h
  | ask action next ih => exact ⟨h.1, fun reply hreply => ih reply (h.2 reply hreply)⟩

theorem grounded_perform {a : Action} (h : a.Anywhere) :
    (perform a).Grounded a.Proper :=
  ⟨h, fun _ hreply => hreply⟩

theorem Only.grounded {kind : Action → Prop} (h : p.Only kind)
    (hkind : ∀ a, kind a → a.Anywhere) : p.Grounded (fun _ => True) := by
  induction p with
  | done a => trivial
  | ask action next ih => exact ⟨hkind _ h.1, fun reply _ => ih reply (h.2 reply)⟩

end Program

theorem World.Runs.anywhere {p : Program α} {post : α → Prop} {r : α} (hrunner : runner.Placeless)
    (h : w.Runs runner may p r w') (hp : p.Grounded post) (hw : w.Alike v) :
    post r ∧ ∃ v', v.Runs runner may p r v' ∧ w'.Alike v' := by
  induction p generalizing w v with
  | done a =>
    obtain ⟨rfl, rfl⟩ := h
    exact ⟨hp, v, ⟨rfl, rfl⟩, hw⟩
  | ask action next ih =>
    obtain ⟨reply, w₁, ha, hrest⟩ := h
    obtain ⟨v₁, ha', hw₁⟩ := ha.anywhere hrunner hp.1 hw
    obtain ⟨hpost, v', hrest', hw'⟩ := ih reply hrest (hp.2 reply ha.proper) hw₁
    exact ⟨hpost, v', ⟨reply, v₁, ha', hrest'⟩, hw'⟩

/-- Nothing was printed, and only events were told. -/
def World.Quiet (w w' : World σ) : Prop :=
  w'.lines = w.lines ∧ ∃ events : List Event, w'.messages = events.map Message.event ++ w.messages

theorem World.Quiet.refl (w : World σ) : w.Quiet w := ⟨rfl, [], rfl⟩

theorem World.Quiet.trans {w'' : World σ} (h : w.Quiet w') (h' : w'.Quiet w'') : w.Quiet w'' := by
  obtain ⟨hlines, first, hfirst⟩ := h
  obtain ⟨hlines', later, hlater⟩ := h'
  exact ⟨hlines'.trans hlines, later ++ first, by
    rw [hlater, hfirst, List.map_append, List.append_assoc]⟩

theorem World.Runs.quiet {p : Program α} {post : α → Prop} {r : α}
    (h : w.Runs runner may p r w') (hp : p.Grounded post) : w.Quiet w' := by
  induction p generalizing w with
  | done a =>
    obtain ⟨rfl, rfl⟩ := h
    exact Quiet.refl _
  | ask action next ih =>
    obtain ⟨reply, w₁, ha, hrest⟩ := h
    have hstep : w.Quiet w₁ := by
      cases action with
      | file a =>
        obtain ⟨m, -, rfl⟩ := ha
        exact ⟨rfl, [], rfl⟩
      | start i =>
        obtain ⟨-, rfl⟩ := Prod.mk.inj ha
        exact ⟨rfl, [], rfl⟩
      | note event =>
        obtain ⟨-, rfl⟩ := Prod.mk.inj ha
        exact ⟨rfl, [event], rfl⟩
      | _ => exact hp.1.elim
    exact hstep.trans (ih reply hrest (hp.2 reply ha.proper))

/-! ## Stages -/

namespace Stage

/-- A grounded stage; `post` holds of what it ends well with. -/
def Grounded (s : Stage ε α) (post : α → Prop) : Prop :=
  s.run.Grounded (fun r => ∀ a, r = .ok a → post a)

variable {s : Stage ε α} {post : α → Prop}

theorem grounded_pure {a : α} (h : post a) : (pure a : Stage ε α).Grounded post := by
  rintro _ ⟨⟩
  exact h

theorem grounded_throw (e : ε) : (throw e : Stage ε α).Grounded post := by
  rintro _ ⟨⟩

theorem Grounded.bind {after : β → Prop} {f : α → Stage ε β} (h : s.Grounded post)
    (hf : ∀ a, post a → (f a).Grounded after) : (s >>= f).Grounded after := by
  unfold Grounded
  rw [ExceptT.run_bind]
  refine Program.Grounded.bind h (fun r hr => ?_)
  cases r with
  | error e => rintro _ ⟨⟩
  | ok a => exact hf a (hr a rfl)

theorem Grounded.orElse (h : s.Grounded post) (wrap : ε → δ) : (s.orElse wrap).Grounded post := by
  refine Program.Grounded.bind h (fun r hr => ?_)
  cases r with
  | error e => rintro _ ⟨⟩
  | ok a =>
    rintro _ ⟨⟩
    exact hr a rfl

theorem grounded_lift {p : Program α} (h : p.Grounded post) :
    Stage.Grounded (ExceptT.lift p : Stage ε α) post := by
  refine Program.Grounded.bind h (fun a ha => ?_)
  rintro _ ⟨⟩
  exact ha

theorem grounded_of_only {kind : Action → Prop} (h : s.run.Only kind)
    (hkind : ∀ a, kind a → a.Anywhere) : s.Grounded (fun _ => True) :=
  (h.grounded hkind).mono (fun _ _ _ _ => trivial)

theorem grounded_note (event : Event) : (note event : Stage ε Unit).Grounded (fun _ => True) :=
  have honly : (note event : Stage ε Unit).run.Only Action.Anywhere := only_note trivial
  grounded_of_only honly (fun _ h => h)

theorem grounded_ofExcept (r : Except ε α) : (ofExcept r).Grounded (fun _ => True) :=
  fun _ _ => trivial

end Stage

theorem file_grounded {a : FileAction} (h : a.Anywhere) :
    (Program.file a).Grounded (fun _ => True) :=
  (Program.grounded_perform (a := .file a) h).mono (fun _ _ => trivial)

theorem attempt_grounded {p : Program (Except SystemError α)} (h : p.Grounded (fun _ => True)) :
    (Stage.attempt p).Grounded (fun _ => True) :=
  Program.Grounded.mono h (fun _ _ _ _ => trivial)

/-! ## Whole files -/

theorem anywhere_of_paths {a : FileAction} {path : Path} (hpaths : a.paths = [path])
    (h : path.isAbsolute = true) : a.Anywhere := by
  refine ⟨fun hcurrent => ?_, fun other hother => ?_⟩
  · rw [hcurrent] at hpaths
    exact absurd hpaths (by simp [FileAction.paths])
  · rw [hpaths, List.mem_singleton] at hother
    exact hother ▸ h

theorem hashFile_grounded {path : Path} (h : path.isAbsolute = true) :
    (hashFile path).Grounded (fun _ => True) :=
  (attempt_grounded (file_grounded (a := .openRead path) (anywhere_of_paths rfl h))).bind (fun file _ =>
    Stage.grounded_of_only (hashOpen_only file) (fun _ h => h.anywhere))

theorem writePieces_grounded (file : Handle) (offset : Nat) (pieces : List Bytes) :
    (writePieces file offset pieces).Grounded (fun _ => True) := by
  induction pieces generalizing offset with
  | nil => exact Stage.grounded_pure trivial
  | cons piece rest ih =>
    have hwrite : FileAction.Anywhere (.write file offset piece) :=
      ⟨by simp, by simp [FileAction.paths]⟩
    exact (attempt_grounded (file_grounded hwrite)).bind (fun _ _ => ih _)

theorem makeDirectories_grounded {path : Path} (h : path.isAbsolute = true) :
    (makeDirectories path).Grounded (fun _ => True) := by
  refine Stage.grounded_of_only (makeLineage_only _) (fun a ha => ?_)
  have habs : ∀ made ∈ lineage path, made.isAbsolute = true :=
    fun made hmade => (stepsOf_lineage hmade).1.trans h
  cases a with
  | file a =>
    cases a with
    | makeDirectory made | isDirectory made => exact anywhere_of_paths rfl (habs made ha)
    | _ => exact ha.elim
  | _ => trivial

/-! ## Before the build -/

theorem resolveVersion_grounded {path : Path} (h : path.isAbsolute = true) :
    (resolveVersion path).Grounded (fun _ => True) := by
  have hopen := file_grounded (a := .openRead path) (anywhere_of_paths rfl h)
  refine ((attempt_grounded hopen).orElse _).bind (fun file _ => ?_)
  have hreads : ∀ a : Action, a.Reads file → a.Anywhere := fun _ h => h.anywhere
  have hstatus : (Program.file (.describeOpen file)).Only (Action.Reads file) := only_file rfl
  refine ((attempt_grounded (hstatus.grounded hreads)).orElse _).bind (fun status _ => ?_)
  refine ((Stage.grounded_of_only (readFirstLine_only _ _ _ _) hreads).orElse _).bind
    (fun line _ => ?_)
  refine (Stage.grounded_ofExcept _).bind (fun version _ => ?_)
  exact (Stage.grounded_note _).bind (fun _ _ => Stage.grounded_pure trivial)

theorem firstExisting_grounded {paths : List Path} (h : ∀ path ∈ paths, path.isAbsolute = true) :
    (firstExisting paths).Grounded (fun _ => True) := by
  induction paths with
  | nil => trivial
  | cons path rest ih =>
    obtain ⟨hpath, hrest⟩ := List.forall_mem_cons.mp h
    refine (file_grounded (anywhere_of_paths rfl hpath)).bind (fun there _ => ?_)
    split
    · trivial
    · exact ih hrest

/-! ## Build, tests and package -/

theorem launch_grounded (i : Invocation) : (launch i).Grounded (fun _ => True) := by
  refine (Stage.grounded_note _).bind (fun _ _ => ?_)
  have hstart := Program.grounded_perform (a := .start i) trivial
  refine (attempt_grounded (hstart.mono fun _ _ => trivial)).bind (fun output _ => ?_)
  refine (Stage.grounded_note _).bind (fun _ _ => ?_)
  dsimp only
  split
  · exact (Stage.grounded_note _).bind (fun _ _ => Stage.grounded_pure trivial)
  · exact Stage.grounded_pure trivial

theorem relocate_grounded (os : Os) (h : settings.buildDir.isAbsolute = true) :
    (relocate settings os).Grounded (fun path => path.isAbsolute = true) := by
  have hproduced : (producedPath settings os).isAbsolute = true := Path.isAbsolute_join_left h _
  have hcanonical : (canonicalPath settings os).isAbsolute = true := Path.isAbsolute_join_left h _
  have hmoves : FileAction.Anywhere
      (.rename (producedPath settings os) (canonicalPath settings os)) :=
    ⟨by simp, by simp [FileAction.paths, hproduced, hcanonical]⟩
  have hask := file_grounded (a := .isRegularFile (producedPath settings os))
    (anywhere_of_paths rfl hproduced)
  have hfound := Program.grounded_perform (a := .file (.canonicalize (canonicalPath settings os)))
    (anywhere_of_paths rfl hcanonical)
  refine (Stage.grounded_lift hask).bind (fun regular _ => ?_)
  dsimp only
  split
  · refine ((attempt_grounded (file_grounded hmoves)).orElse _).bind (fun _ _ => ?_)
    refine (Stage.grounded_lift hfound).bind (fun reply hreply => ?_)
    cases reply with
    | error e => exact Stage.grounded_pure hcanonical
    | ok path => exact Stage.grounded_pure (hreply path rfl)
  · exact Stage.grounded_throw _

theorem build_grounded (toolchain : Path) (request : BuildRequest)
    (h : settings.buildDir.isAbsolute = true) :
    (build toolchain settings request).Grounded (fun made => made.path.isAbsolute = true) := by
  refine (Stage.grounded_note _).bind (fun _ _ => ?_)
  refine (Stage.grounded_note _).bind (fun _ _ => ?_)
  refine ((launch_grounded _).orElse _).bind (fun output _ => ?_)
  dsimp only
  split
  · refine (relocate_grounded _ h).bind (fun path hpath => ?_)
    exact (Stage.grounded_note _).bind (fun _ _ => Stage.grounded_pure hpath)
  · exact Stage.grounded_throw _

theorem verify_grounded (artifact : Artifact) :
    (verify artifact).Grounded (fun verified => verified.artifact = artifact) := by
  refine (Stage.grounded_note _).bind (fun _ _ => ?_)
  have hformat : (runFormatTest artifact.path).Grounded (fun _ => True) := by
    refine (Stage.grounded_note _).bind (fun _ _ => ?_)
    refine ((launch_grounded _).orElse _).bind (fun output _ => ?_)
    exact (Stage.grounded_ofExcept _).bind (fun _ _ => Stage.grounded_pure trivial)
  have hstrict : (runStrictTest artifact.path).Grounded (fun _ => True) := by
    refine (Stage.grounded_note _).bind (fun _ _ => ?_)
    refine ((launch_grounded _).orElse _).bind (fun output _ => ?_)
    refine (Stage.grounded_ofExcept _).bind (fun _ _ => ?_)
    exact (Stage.grounded_note _).bind (fun _ _ => Stage.grounded_pure trivial)
  refine hformat.bind (fun format _ => hstrict.bind (fun strict _ => ?_))
  exact (Stage.grounded_note _).bind (fun _ _ => Stage.grounded_pure rfl)

theorem createFile_grounded {path : Path} (h : path.isAbsolute = true) :
    (createFile settings path).Grounded (fun _ => True) :=
  (attempt_grounded (file_grounded (a := .openWrite settings.collision.creation path)
    (anywhere_of_paths rfl h))).orElse _

theorem writeArchive_grounded (file binary : Handle) (entry : String) :
    (writeArchive file binary entry).Grounded (fun _ => True) := by
  have hrecords := (collectRecords_only binary entry).grounded (fun _ h => h.anywhere)
  refine (Stage.grounded_lift hrecords).bind (fun found _ => ?_)
  obtain ⟨records, collected⟩ := found
  refine (Stage.grounded_lift ((writePieces_grounded _ _ _).mono fun _ _ => trivial)).bind
    (fun written _ => ?_)
  cases collected with
  | error e => exact Stage.grounded_throw e
  | ok u => exact Stage.grounded_ofExcept written

theorem writeChecksum_grounded {path : Path} (name : String) (h : path.isAbsolute = true) :
    (writeChecksum settings path name).Grounded (fun _ => True) := by
  have hsidecar : (checksumPath path).isAbsolute = true := Path.isAbsolute_withFileName h _
  refine ((hashFile_grounded h).orElse _).bind (fun hash _ => ?_)
  refine (createFile_grounded hsidecar).bind (fun file _ => ?_)
  refine (Stage.grounded_lift ((writePieces_grounded _ _ _).mono fun _ _ => trivial)).bind
    (fun written _ => ?_)
  cases written with
  | error e =>
    have hremove := file_grounded (a := .remove (checksumPath path))
      (anywhere_of_paths rfl hsidecar)
    exact (Stage.grounded_lift hremove).bind (fun _ _ => Stage.grounded_throw _)
  | ok u => exact (Stage.grounded_note _).bind (fun _ _ => Stage.grounded_pure trivial)

theorem fillPackage_grounded (settings : Settings) {path : Path} (artifact : Path)
    (file binary : Handle) (name entry : String) (h : path.isAbsolute = true) :
    (fillPackage settings file binary artifact path name entry).Grounded (fun _ => True) := by
  refine ((writeArchive_grounded _ _ _).orElse _).bind (fun _ _ => ?_)
  have hstatus := file_grounded (a := .describe path) (anywhere_of_paths rfl h)
  refine ((attempt_grounded hstatus).orElse _).bind (fun status _ => ?_)
  split
  · exact (writeChecksum_grounded _ h).bind (fun _ _ => Stage.grounded_pure trivial)
  · exact Stage.grounded_pure trivial

section Package

variable {verified : VerifiedArtifact} (hpackages : settings.packagesDir.isAbsolute = true)
  (hbinary : verified.artifact.path.isAbsolute = true)

include hpackages hbinary

theorem packInto_grounded (replaced : Bool) :
    (packInto settings verified replaced).Grounded (fun _ => True) := by
  have hpath : (packagePath settings verified.artifact.request).isAbsolute = true :=
    Path.isAbsolute_join_left hpackages _
  have hopen := file_grounded (a := .openRead _) (anywhere_of_paths rfl hbinary)
  have hremove := file_grounded (a := .remove _) (anywhere_of_paths rfl hpath)
  refine ((attempt_grounded hopen).orElse _).bind (fun binary _ => ?_)
  refine (createFile_grounded hpath).bind (fun file _ => ?_)
  have hfill := fillPackage_grounded settings verified.artifact.path file binary
    (verified.artifact.request.platform.packageName settings.product)
    (verified.artifact.request.os.executable settings.product) hpath
  refine (Stage.grounded_lift (hfill.mono fun _ _ => trivial)).bind (fun filled _ => ?_)
  rcases filled with e | ⟨size, written⟩
  · refine (Stage.grounded_lift hremove).bind (fun _ _ => ?_)
    exact (Stage.grounded_note _).bind (fun _ _ => Stage.grounded_throw _)
  · exact (Stage.grounded_note _).bind (fun _ _ => Stage.grounded_pure trivial)

theorem package_grounded : (package settings verified).Grounded (fun _ => True) := by
  have hthere := file_grounded (a := .pathExists (packagePath settings verified.artifact.request))
    (anywhere_of_paths rfl (Path.isAbsolute_join_left hpackages _))
  rw [package_eq]
  refine (Stage.grounded_note _).bind (fun _ _ => ?_)
  refine ((makeDirectories_grounded hpackages).orElse _).bind (fun _ _ => ?_)
  refine (Stage.grounded_lift hthere).bind (fun replaced _ => ?_)
  split
  · exact (Stage.grounded_note _).bind (fun _ _ => packInto_grounded hpackages hbinary _)
  · exact packInto_grounded hpackages hbinary _

end Package

/-! ## The whole release -/

theorem ensureAvailable_grounded (request : BuildRequest)
    (h : settings.packagesDir.isAbsolute = true) :
    (ensureAvailable settings request).Grounded (fun _ => True) := by
  have hpath : (packagePath settings request).isAbsolute = true := Path.isAbsolute_join_left h _
  have htargets : ∀ path ∈ packageTargets settings request, path.isAbsolute = true := by
    unfold packageTargets
    dsimp only
    split
    · exact List.forall_mem_cons.mpr
        ⟨hpath, List.forall_mem_singleton.mpr (Path.isAbsolute_withFileName hpath _)⟩
    · exact List.forall_mem_singleton.mpr hpath
  unfold ensureAvailable
  split
  · exact Stage.grounded_pure trivial
  · refine (Stage.grounded_lift (firstExisting_grounded htargets)).bind (fun found _ => ?_)
    cases found with
    | none => exact Stage.grounded_pure trivial
    | some path => exact Stage.grounded_throw _

/-- All paths that a release works with are absolute. -/
structure Settings.Absolute (settings : Settings) : Prop where
  version : settings.versionFile.isAbsolute = true
  build : settings.buildDir.isAbsolute = true
  packages : settings.packagesDir.isAbsolute = true

theorem Settings.Absolute.below {root : Path} (h : root.isAbsolute = true) :
    (Settings.below root).Absolute :=
  ⟨Path.isAbsolute_join_left h _, Path.isAbsolute_join_left h _, Path.isAbsolute_join_left h _⟩

/-- A release below absolute paths is the same in every current directory. -/
theorem release_grounded (toolchain : Path) (host : Host) (arch : Arch) (h : settings.Absolute) :
    (release settings toolchain host arch).Grounded (fun _ => True) := by
  cases host with
  | error name => exact Stage.grounded_throw _
  | ok os =>
    rw [release_supported]
    refine ((resolveVersion_grounded h.version).orElse _).bind (fun version _ => ?_)
    refine (Stage.grounded_note _).bind (fun _ _ => ?_)
    refine ((ensureAvailable_grounded _ h.packages).orElse _).bind (fun _ _ => ?_)
    refine ((build_grounded _ _ h.build).orElse _).bind (fun artifact hartifact => ?_)
    refine ((verify_grounded artifact).orElse _).bind (fun verified hverified => ?_)
    have hpackage := package_grounded h.packages (hverified ▸ hartifact)
    refine (hpackage.orElse _).bind (fun made _ => ?_)
    exact (Stage.grounded_note _).bind (fun _ _ => Stage.grounded_pure trivial)

end Slipway
