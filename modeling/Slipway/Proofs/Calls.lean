import Slipway.Proofs.TestedBinary

/-!
# Stages called in any order

Builds, tests and packagings of one project, one after another, each with an artifact that an earlier
one returned. All builds for a system put their binary at one place, so a package is made of what
the latest build left there, tested or not.
-/

namespace Slipway

open FileSystem World

variable {σ : Type} {runner : Runner σ} {may : Refusals} {w w' : World σ} {R : Location}
  {fs fs' : FileSystem}

/-! ## What packaging puts anywhere -/

/-- What is new is a directory or a file. -/
def FilesOnly (fs fs' : FileSystem) : Prop :=
  ∀ q node, fs'.node? q = some node →
    node.isDirectory ∨ node.isRegular ∨ fs.node? q = some node

theorem FilesOnly.refl (fs : FileSystem) : FilesOnly fs fs := fun _ _ h => Or.inr (Or.inr h)

theorem FilesOnly.trans {fs'' : FileSystem} (h : FilesOnly fs fs') (h' : FilesOnly fs' fs'') :
    FilesOnly fs fs'' := by
  intro q node hq
  rcases h' q node hq with hdir | hfile | hold
  · exact Or.inl hdir
  · exact Or.inr (Or.inl hfile)
  · exact h q node hold

theorem FilesOnly.link {q : Location} {target : String} (h : FilesOnly fs fs')
    (hq : fs'.node? q = some (.link target)) : fs.node? q = some (.link target) := by
  simpa [Node.isDirectory, Node.isRegular] using h q _ hq

theorem FilesOnly.device {q : Location} {d : Device} (h : FilesOnly fs fs')
    (hq : fs'.node? q = some (.device d)) : fs.node? q = some (.device d) := by
  simpa [Node.isDirectory, Node.isRegular] using h q _ hq

theorem FilesOnly.direct {place : Location} (h : FilesOnly fs fs') (hd : fs.Direct place) :
    fs'.Direct place :=
  fun q hq target hlink => hd q hq target (h.link hlink)

theorem FilesOnly.ordinary {place : Location} (h : FilesOnly fs fs') (ho : fs.Ordinary place) :
    fs'.Ordinary place :=
  ⟨fun target hlink => ho.1 target (h.link hlink), fun d hd => ho.2 d (h.device hd)⟩

theorem FileSystem.SameOff.filesOnly {place : Location} (h : SameOff place fs fs')
    (hplace : ¬ Fixed place → ∀ node, fs'.node? place = some node →
      node.isDirectory ∨ node.isRegular) : FilesOnly fs fs' := by
  intro q node hq
  by_cases hp : q = place
  · subst hp
    by_cases hfixed : Fixed q
    · rw [node?_of_fixed hfixed] at hq ⊢
      exact Or.inr (Or.inr hq)
    · exact (hplace hfixed node hq).imp_right Or.inl
  · rw [h q hp] at hq
    exact Or.inr (Or.inr hq)

theorem put_filesOnly {place : Location} {data : FileData} :
    FilesOnly fs (fs.put place (.file data)) := by
  have hsame : SameOff place fs (fs.put place (.file data)) := fun q hq => node?_put_of_ne hq
  refine hsame.filesOnly (fun hfixed node hnode => Or.inr ?_)
  rw [node?_put_self hfixed, Option.some.injEq] at hnode
  rw [← hnode]
  rfl

theorem createAt_filesOnly {place : Location} {mode : Nat} {now : Int} {file : Handle}
    (h : fs.createAt place mode now = .ok (fs', file)) : FilesOnly fs fs' := by
  obtain ⟨hfile, -⟩ := createAt_ok h
  have hfiles : fs' = (fs.createFile place mode now).1 := congrArg Prod.fst hfile
  rw [hfiles]
  exact put_filesOnly

theorem openWrite_filesOnly {here : Location} {creation : Creation} {path : Path} {now : Int}
    {file : Handle} (h : fs.openWrite here creation path now = .ok (fs', file)) :
    FilesOnly fs fs' := by
  cases creation with
  | fresh =>
    simp only [openWrite, openFresh] at h
    split at h
    · simp at h
    · split at h
      · simp at h
      · split_ifs at h
        split at h
        · simp at h
        · simp at h
        · exact createAt_filesOnly h
  | emptied =>
    simp only [openWrite, openAny] at h
    split_ifs at h
    · split at h <;> simp at h
    · split at h
      · simp at h
      · unfold openExisting at h
        split at h
        · simp at h
        · simp only [if_true] at h
          split_ifs at h
          obtain ⟨rfl, -⟩ := Prod.mk.inj (Except.ok.inj h)
          exact put_filesOnly
        · simp at h
        · obtain ⟨rfl, -⟩ := Prod.mk.inj (Except.ok.inj h)
          exact FilesOnly.refl _
        · simp at h
        · simp at h
      · exact createAt_filesOnly h

theorem write_filesOnly {file : Handle} {offset : Nat} {bytes : Bytes} {now : Int}
    (h : fs.write file offset bytes now = .ok fs') : FilesOnly fs fs' := by
  unfold FileSystem.write at h
  split at h
  · split_ifs at h
    obtain rfl := Except.ok.inj h
    exact FilesOnly.refl _
  · rename_i data hopen
    obtain rfl := Except.ok.inj h
    obtain ⟨hnode, hserial⟩ := openNode?_eq.mp hopen
    refine SameOff.filesOnly (fun q hq => node?_updateOpen_of_ne hq)
      (fun _ node hafter => Or.inr ?_)
    rw [node?_updateOpen_self hnode hserial, Option.some.injEq] at hafter
    rw [← hafter]
    rfl
  · obtain rfl := Except.ok.inj h
    exact FilesOnly.refl _

theorem remove_filesOnly {here : Location} {path : Path} (h : fs.remove here path = .ok fs') :
    FilesOnly fs fs' := by
  unfold FileSystem.remove at h
  split at h
  · simp at h
  · split at h
    · simp at h
    · split at h
      · simp at h
      · simp at h
      · split_ifs at h
        obtain rfl := Except.ok.inj h
        refine SameOff.filesOnly (fun q hq => node?_erase_of_ne hq) (fun hfixed node hnode => ?_)
        rw [node?_erase_self hfixed] at hnode
        simp at hnode

theorem Machine.performs_filesOnly {m m' : Machine} {a : FileAction} {r : a.Reply}
    (h : m.Performs may a r m') (ha : Action.Stays (.file a)) : FilesOnly m.files m'.files := by
  cases a with
  | makeDirectory path =>
    rcases performs_makeDirectory h with ⟨-, rfl⟩ | ⟨-, files, hfs, rfl⟩
    · exact FilesOnly.refl _
    · obtain ⟨place, -, hdir, hsame⟩ := makeDirectory_ok hfs
      refine hsame.filesOnly (fun _ node hnode => Or.inl ?_)
      rw [hdir, Option.some.injEq] at hnode
      rw [← hnode]
      rfl
  | openWrite creation path =>
    rcases performs_openWrite h with ⟨-, rfl⟩ | ⟨files, file, -, hfs, rfl⟩
    · exact FilesOnly.refl _
    · exact openWrite_filesOnly hfs
  | write file offset bytes =>
    rcases performs_write h with ⟨-, rfl⟩ | ⟨kept, files, -, -, hfs, rfl⟩
    · exact FilesOnly.refl _
    · exact write_filesOnly hfs
  | remove path =>
    rcases performs_remove h with ⟨-, rfl, -⟩ | ⟨-, files, hfs, rfl⟩
    · exact FilesOnly.refl _
    · exact remove_filesOnly hfs
  | rename origin destination => exact ha.elim
  | _ => rw [performs_asks h trivial]; exact FilesOnly.refl _

theorem World.Runs.filesOnly {α : Type} {p : Program α} {r : α} (h : w.Runs runner may p r w')
    (hp : p.Only Action.Stays) : FilesOnly w.machine.files w'.machine.files := by
  refine h.only (R := fun w w' => FilesOnly w.machine.files w'.machine.files) hp
    (fun w => FilesOnly.refl _) FilesOnly.trans (fun {a w₁ r w₂} ha hw => ?_)
  cases a with
  | file a =>
    obtain ⟨m, hm, rfl⟩ := hw
    exact Machine.performs_filesOnly hm ha
  | start i => exact ha.elim
  | _ => have hw := congrArg Prod.snd hw; subst hw; exact FilesOnly.refl _

/-! ## Calls -/

/-- A stage, with what it was given and what it returned. -/
inductive StageCall
  | build (toolchain : Path) (request : BuildRequest) (result : Except BuildError Artifact)
  | verify (artifact : Artifact) (result : Except VerificationError VerifiedArtifact)
  | package (verified : VerifiedArtifact) (result : Except PackagingError Package)

/-- A call of a stage, with the machine as it found and left it. -/
structure Call where
  collision : CollisionPolicy
  checksum : Bool
  stage : StageCall
  before : Machine
  after : Machine

/-- The ways have no links, and no package stands for a link or a device. -/
structure Settled (R : Location) (m : Machine) : Prop where
  linkless : Linkless R m
  packages : ∀ name, m.files.Ordinary (packagesPlace R ++ [name])

/-- Processes keep the project settled, and the tests change no files. -/
structure Tame (runner : Runner σ) (R : Location) : Prop where
  settled : ∀ i m s, Settled R m → Settled R (runner i m s).2.1
  format : ∀ path m s, (runner (formatInvocation path) m s).2.1.files = m.files
  strict : ∀ path m s, (runner (strictInvocation path) m s).2.1.files = m.files

namespace Call

def IsBuild (c : Call) : Prop := ∃ toolchain request r, c.stage = .build toolchain request r

def Builds (c : Call) (artifact : Artifact) : Prop :=
  ∃ toolchain request, c.stage = .build toolchain request (.ok artifact)

def Verifies (c : Call) (verified : VerifiedArtifact) : Prop :=
  ∃ artifact, c.stage = .verify artifact (.ok verified)

/-- An earlier call returned what this one is given. -/
def Typed (c : Call) (earlier : List Call) : Prop :=
  match c.stage with
  | .build _ _ _ => True
  | .verify artifact _ => ∃ b ∈ earlier, b.Builds artifact
  | .package verified _ => ∃ d ∈ earlier, d.Verifies verified

theorem Verifies.not_isBuild {c : Call} {verified : VerifiedArtifact} (h : c.Verifies verified) :
    ¬ c.IsBuild := by
  obtain ⟨artifact, hverify⟩ := h
  rintro ⟨toolchain, request, r, hstage⟩
  simp [hverify] at hstage

theorem Builds.typed {c : Call} {artifact : Artifact} (h : c.Builds artifact)
    (earlier : List Call) : c.Typed earlier := by
  obtain ⟨toolchain, request, hstage⟩ := h
  simp [Typed, hstage]

/-- The call is a run of its stage in a world. -/
def RunsIn (c : Call) (R : Location) (runner : Runner σ) (may : Refusals) (w w' : World σ) : Prop :=
  match c.stage with
  | .build toolchain request r =>
    w.Runs runner may (build toolchain (rootSettings R c.collision c.checksum) request).run r w'
  | .verify artifact r => w.Runs runner may (verify artifact).run r w'
  | .package verified r =>
    w.Runs runner may (package (rootSettings R c.collision c.checksum) verified).run r w'

/-- The call was made, with some runner. -/
inductive Happens (R : Location) (may : Refusals) (c : Call) : Prop
  | runs {σ : Type} {runner : Runner σ} {w w' : World σ} (tame : Tame runner R)
    (before : w.machine = c.before) (after : w'.machine = c.after)
    (run : c.RunsIn R runner may w w')

/-- The two tests of the call passed, with this at the place of the binary. -/
inductive TestedOn (R : Location) (c : Call) (verified : VerifiedArtifact) (binary : Node) : Prop
  | passed {σ : Type} {runner : Runner σ} {w w₁ w' : World σ} {formatted rejected : ProcessOutput}
    (before : w.machine = c.before) (after : w'.machine = c.after)
    (called : w.Called runner (formatInvocation verified.artifact.path) (.ok formatted) w₁)
    (success : formatted.code = some 0)
    (stdout : formatted.stdout = Utf8.encode formatExpected)
    (called' : w₁.Called runner (strictInvocation verified.artifact.path) (.ok rejected) w')
    (failure : rejected.code ≠ some 0)
    (there : ∀ m ∈ [w.machine, w₁.machine, w'.machine],
      m.files.node? (binaryPlace R verified.artifact.request.os) = some binary)

/-- The call's toolchain was asked for the artifact, and this is what it published. -/
inductive Published (R : Location) (c : Call) (artifact : Artifact) (binary : Node) : Prop
  | made {σ : Type} {runner : Runner σ} {w w₁ : World σ} {toolchain : Path} {output : ProcessOutput}
    (before : w.machine = c.before)
    (called : w.Called runner (publishInvocation toolchain
      (rootSettings R c.collision c.checksum) artifact.request) (.ok output) w₁)
    (success : output.code = some 0)
    (produced : w₁.machine.files.node? (producedPlace R artifact.request.os) = some binary)

end Call

/-- Calls made one after another, the latest first. -/
inductive Calls (R : Location) (may : Refusals) (m : Machine) : List Call → Machine → Prop
  | none : Calls R may m [] m
  | next {calls : List Call} {c : Call} (earlier : Calls R may m calls c.before)
    (typed : c.Typed calls) (happens : c.Happens R may) : Calls R may m (c :: calls) c.after

/-! ## What one call does -/

variable {c : Call}

theorem Tested.files {artifact : Artifact} {r : Except VerificationError VerifiedArtifact}
    (htame : Tame runner R) (h : Tested runner artifact w w' r) :
    w'.machine.files = w.machine.files := by
  have hformat : ∀ {x : Except SystemError ProcessOutput} {w₁ : World σ},
      w.Called runner (formatInvocation artifact.path) x w₁ →
        w₁.machine.files = w.machine.files := fun called => by
    rw [← htame.format artifact.path w.machine w.runner, called.1]
  have hstrict : ∀ {x : Except SystemError ProcessOutput} {w₁ : World σ},
      w₁.Called runner (strictInvocation artifact.path) x w' →
        w'.machine.files = w₁.machine.files := fun {_ w₁} called => by
    rw [← htame.strict artifact.path w₁.machine w₁.runner, called.1]
  cases h with
  | format called about => exact hformat called
  | strict called called' about => exact (hstrict called').trans (hformat called)
  | passed called success stdout called' failure => exact (hstrict called').trans (hformat called)

theorem Settled.of_files {m m' : Machine} (h : Settled R m) (hsame : m'.files = m.files) :
    Settled R m' := by
  obtain ⟨⟨hpackages, hproduced, hbinary⟩, hordinary⟩ := h
  rw [← hsame] at hpackages
  refine ⟨⟨hpackages, fun os => ?_, fun os => ?_⟩, fun name => ?_⟩
  · rw [hsame]
    exact hproduced os
  · rw [hsame]
    exact hbinary os
  · rw [hsame]
    exact hordinary name

theorem Settled.filesOnly {m m' : Machine} (h : Settled R m) (hf : FilesOnly m.files m'.files) :
    Settled R m' where
  linkless := ⟨hf.direct h.linkless.packages, fun os => hf.direct (h.linkless.produced os),
    fun os => hf.direct (h.linkless.binary os)⟩
  packages name := hf.ordinary (h.packages name)

theorem Moved.settled {m m' : Machine} {os : Os} (hm : Moved R os m m') (h : Settled R m) :
    Settled R m' where
  linkless := hm.linkless h.linkless
  packages name := (h.packages name).of_same (hm.packages name)

theorem World.Called.settled {i : Invocation} {r : Except SystemError ProcessOutput}
    (htame : Tame runner R) (hs : Settled R w.machine) (h : w.Called runner i r w') :
    Settled R w'.machine := by
  have hkept := htame.settled i w.machine w.runner hs
  rwa [h.1] at hkept

theorem Packaged.binary_kept {collision : CollisionPolicy} {checksum : Bool}
    {verified : VerifiedArtifact} {here : Location} {r : Except PackagingError Package} (os : Os)
    (hR : Plain R) (hd : fs.Direct (packagesPlace R))
    (h : Packaged (rootSettings R collision checksum) verified may here fs fs' r) :
    fs'.node? (binaryPlace R os) = fs.node? (binaryPlace R os) := by
  have hsame : ∀ {place : Location} {name : String},
      fs.Reaches here (rootSettings R collision checksum).packagesDir place →
        SameBut place name fs fs' → fs'.node? (binaryPlace R os) = fs.node? (binaryPlace R os) := by
    intro place name hreach hsame
    obtain rfl := place_of_packagesDir hR hd hreach
    exact hsame _ (binaryPlace_ne _ _) (binaryPlace_ne _ _)
  cases h with
  | untouched same => rw [same]
  | dropped named reaches fresh changeable same gone sidecar => exact hsame reaches same
  | made named reaches refused fresh same stands found archived finished reported =>
    exact hsame reaches same

theorem binaryPlace_not_above (os : Os) : ¬ binaryPlace R os <+: packagesPlace R := fun h =>
  (buildPlace_apart R).1 ((List.prefix_append _ _).trans h)

theorem runs_package_binary {collision : CollisionPolicy} {checksum : Bool}
    {verified : VerifiedArtifact} {r : Except PackagingError Package} (os : Os) (hR : Plain R)
    (hs : Settled R w.machine)
    (h : w.Runs runner may (package (rootSettings R collision checksum) verified).run r w') :
    w'.machine.files.node? (binaryPlace R os) = w.machine.files.node? (binaryPlace R os) := by
  obtain ⟨fs, halong, hdirect, hpackaged⟩ :=
    runs_package_along hR hs.linkless.packages (fun _ => hs.packages) h
  refine (hpackaged.binary_kept os hR hdirect).trans ?_
  rcases halong (binaryPlace R os) with hsame | ⟨habove, -⟩
  · exact hsame
  · exact absurd habove (binaryPlace_not_above os)

namespace Call

theorem Happens.settled (hR : Plain R) (hs : Settled R c.before) (h : c.Happens R may) :
    Settled R c.after := by
  obtain ⟨htame, hbefore, hafter, hrun⟩ := h
  rw [← hbefore] at hs
  rw [← hafter]
  unfold RunsIn at hrun
  split at hrun
  · cases runs_build hrun with
    | failed called => exact called.settled htame hs
    | moved called success seen renamed machine idle found =>
      have hs₁ := called.settled htame hs
      rw [machine]
      exact (moved_of_renamed hR hs₁.linkless.build renamed).settled hs₁
  · exact hs.of_files ((runs_verify hrun).files htame)
  · exact hs.filesOnly (hrun.filesOnly (package_only _ _))

/-- Only a build changes what is at the place of the binary. -/
theorem Happens.binary_kept (os : Os) (hR : Plain R) (hs : Settled R c.before) (h : c.Happens R may)
    (hbuild : ¬ c.IsBuild) :
    c.after.files.node? (binaryPlace R os) = c.before.files.node? (binaryPlace R os) := by
  obtain ⟨htame, hbefore, hafter, hrun⟩ := h
  rw [← hbefore] at hs ⊢
  rw [← hafter]
  unfold RunsIn at hrun
  split at hrun
  · rename_i hstage
    exact absurd ⟨_, _, _, hstage⟩ hbuild
  · rw [(runs_verify hrun).files htame]
  · exact runs_package_binary os hR hs hrun

/-- The tests of a call that verified an artifact ran on what is at the place of the binary. -/
theorem Happens.tested {verified : VerifiedArtifact} {binary : Node} (hv : c.Verifies verified)
    (h : c.Happens R may)
    (hbinary : c.after.files.node? (binaryPlace R verified.artifact.request.os) = some binary) :
    c.TestedOn R verified binary := by
  obtain ⟨artifact, hstage⟩ := hv
  obtain ⟨htame, hbefore, hafter, hrun⟩ := h
  simp only [RunsIn, hstage] at hrun
  have htested := runs_verify hrun
  have hfiles := htested.files htame
  rw [← hafter] at hbinary
  cases htested with
  | @passed w₁ formatted rejected called success stdout called' failure =>
    refine .passed hbefore hafter called success stdout called' failure (fun m hm => ?_)
    have hstrict := htame.strict artifact.path w₁.machine w₁.runner
    rw [called'.1] at hstrict
    simp only [List.mem_cons, List.not_mem_nil, or_false] at hm
    rcases hm with rfl | rfl | rfl
    · rw [← hfiles]
      exact hbinary
    · rw [← hstrict]
      exact hbinary
    · exact hbinary

/-- A call that built an artifact left what was published for it at the place of the binary. -/
theorem Happens.published {artifact : Artifact} (hR : Plain R) (hs : Settled R c.before)
    (hb : c.Builds artifact) (h : c.Happens R may) :
    artifact.path = pathOf (binaryPlace R artifact.request.os) ∧
      ∀ binary, c.after.files.node? (binaryPlace R artifact.request.os) = some binary →
        c.Published R artifact binary := by
  obtain ⟨toolchain, request, hstage⟩ := hb
  obtain ⟨htame, hbefore, hafter, hrun⟩ := h
  simp only [RunsIn, hstage] at hrun
  rw [← hbefore] at hs
  cases runs_build hrun with
  | @moved w₁ output path moved called success seen renamed machine idle found =>
    have hs₁ := called.settled htame hs
    have hmoved := moved_of_renamed hR hs₁.linkless.build renamed
    rw [← machine] at hmoved
    refine ⟨path_of_found hR ((hmoved.linkless hs₁.linkless).binary _) found,
      fun binary hbinary => .made hbefore called success ?_⟩
    rw [← hmoved.binary, hafter]
    exact hbinary

/-- The package is the archive of what was at the place of the binary. -/
structure Ships (R : Location) (c : Call) (verified : VerifiedArtifact) (made : Package)
    (binary : Node) : Prop where
  named : made.path = pathOf (packagePlace R verified.artifact.request.platform)
  there : c.before.files.node? (binaryPlace R verified.artifact.request.os) = some binary
  archived : ∃ data, c.after.files.findNode c.after.directory made.path
      = .ok (packagePlace R verified.artifact.request.platform, .file data) ∧
    ArchivedFrom (verified.artifact.request.os.executable productName) (some binary) data.content

theorem Happens.ships {verified : VerifiedArtifact} {made : Package} (hR : Plain R)
    (hs : Settled R c.before)
    (hpath : verified.artifact.path = pathOf (binaryPlace R verified.artifact.request.os))
    (hstage : c.stage = .package verified (.ok made)) (h : c.Happens R may) :
    ∃ binary, c.Ships R verified made binary := by
  obtain ⟨htame, hbefore, hafter, hrun⟩ := h
  simp only [RunsIn, hstage] at hrun
  rw [← hbefore] at hs
  obtain ⟨fs, halong, hdirect, hpackaged⟩ :=
    runs_package_along hR hs.linkless.packages (fun _ => hs.packages) hrun
  obtain ⟨hmade, -, binary, data, hbinary, hfound, harchived⟩ :=
    hpackaged.shipped c.after.directory hR hdirect
      (halong.grows.direct (hs.linkless.binary _)) hpath
  refine ⟨binary, hmade, ?_, data, hafter ▸ hfound, harchived⟩
  rw [← hbefore, ← hbinary]
  rcases halong (binaryPlace R verified.artifact.request.os) with hsame | ⟨habove, -⟩
  · exact hsame.symm
  · exact absurd habove (binaryPlace_not_above _)

theorem Happens.artifact_eq {artifact : Artifact} {verified : VerifiedArtifact}
    (hstage : c.stage = .verify artifact (.ok verified)) (h : c.Happens R may) :
    verified.artifact = artifact := by
  obtain ⟨htame, hbefore, hafter, hrun⟩ := h
  simp only [RunsIn, hstage] at hrun
  exact (runs_verify hrun).artifact_eq

end Call

/-! ## Calls one after another -/

namespace Calls

variable {m m' : Machine} {calls earlier later between before : List Call} {d b : Call}

theorem settled (hR : Plain R) (hs : Settled R m) (h : Calls R may m calls m') : Settled R m' := by
  induction h with
  | none => exact hs
  | next earlier typed happens ih => exact happens.settled hR ih

theorem at_call (h : Calls R may m (later ++ c :: earlier) m') :
    Calls R may m earlier c.before ∧ c.Typed earlier ∧ c.Happens R may := by
  induction later generalizing m' with
  | nil =>
    cases h with
    | next earlier typed happens => exact ⟨earlier, typed, happens⟩
  | cons d later ih =>
    cases h with
    | next earlier typed happens => exact ih earlier

/-- As long as nothing is built, the binary is as a call left it. -/
theorem binary_kept (os : Os) (hR : Plain R) (hs : Settled R m)
    (h : Calls R may m (between ++ d :: before) m') (hnone : ∀ b ∈ between, ¬ b.IsBuild) :
    m'.files.node? (binaryPlace R os) = d.after.files.node? (binaryPlace R os) := by
  induction between generalizing m' with
  | nil =>
    cases h with
    | next earlier typed happens => rfl
  | cons c between ih =>
    cases h with
    | next earlier typed happens =>
      rw [happens.binary_kept os hR (earlier.settled hR hs) (hnone c List.mem_cons_self)]
      exact ih earlier (fun b hb => hnone b (List.mem_cons_of_mem _ hb))

theorem published {artifact : Artifact} (hR : Plain R) (hs : Settled R m)
    (h : Calls R may m (later ++ b :: earlier) m') (hb : b.Builds artifact) :
    artifact.path = pathOf (binaryPlace R artifact.request.os) ∧
      ∀ binary, b.after.files.node? (binaryPlace R artifact.request.os) = some binary →
        b.Published R artifact binary := by
  obtain ⟨hearlier, -, happens⟩ := h.at_call
  exact happens.published hR (hearlier.settled hR hs) hb

theorem verified_built {verified : VerifiedArtifact} (hR : Plain R) (hs : Settled R m)
    (h : Calls R may m (later ++ d :: before) m') (hd : d.Verifies verified) :
    (∃ b ∈ before, b.Builds verified.artifact) ∧
      verified.artifact.path = pathOf (binaryPlace R verified.artifact.request.os) := by
  obtain ⟨hbefore, htyped, happens⟩ := h.at_call
  obtain ⟨artifact, hstage⟩ := hd
  simp only [Call.Typed, hstage] at htyped
  obtain rfl := happens.artifact_eq hstage
  obtain ⟨b, hb, hbuilds⟩ := htyped
  obtain ⟨front, back, rfl⟩ := List.append_of_mem hb
  exact ⟨⟨b, hb, hbuilds⟩, (hbefore.published hR hs hbuilds).1⟩

end Calls

/-- A package is the archive of what the latest build for its system published. That is what the
tests ran on unless something was built after them, and it was published for the architecture in the
package's name unless something was built after the artifact. -/
theorem package_holds_latest_build {m m' : Machine} {later earlier : List Call}
    {verified : VerifiedArtifact} {made : Package} (hR : Plain R) (hs : Settled R m)
    (h : Calls R may m (later ++ c :: earlier) m')
    (hmade : c.stage = .package verified (.ok made)) :
    (∃ d ∈ earlier, d.Verifies verified) ∧ (∃ b ∈ earlier, b.Builds verified.artifact) ∧
      ∃ binary, c.Ships R verified made binary ∧
        (∀ between d before, earlier = between ++ d :: before → d.Verifies verified →
          (∀ b ∈ between, ¬ b.IsBuild) → d.TestedOn R verified binary) ∧
        ∀ between b before artifact, earlier = between ++ b :: before → b.Builds artifact →
          artifact.request.os = verified.artifact.request.os →
          (∀ b' ∈ between, ¬ b'.IsBuild) → b.Published R artifact binary := by
  obtain ⟨hearlier, htyped, happens⟩ := h.at_call
  simp only [Call.Typed, hmade] at htyped
  obtain ⟨d, hd, hverifies⟩ := htyped
  obtain ⟨front, back, rfl⟩ := List.append_of_mem hd
  obtain ⟨⟨b, hb, hbuilds⟩, hpath⟩ := hearlier.verified_built hR hs hverifies
  obtain ⟨binary, hships⟩ := happens.ships hR (hearlier.settled hR hs) hpath hmade
  refine ⟨⟨d, hd, hverifies⟩, ⟨b, ?_, hbuilds⟩, binary, hships, ?_, ?_⟩
  · exact List.mem_append_right _ (List.mem_cons_of_mem _ hb)
  · intro between d' before heq hverifies' hnone
    rw [heq] at hearlier
    obtain ⟨-, -, happens'⟩ := hearlier.at_call
    refine happens'.tested hverifies' ?_
    rw [← hearlier.binary_kept _ hR hs hnone]
    exact hships.there
  · intro between b' before artifact heq hbuilds' hos hnone
    rw [heq] at hearlier
    refine (hearlier.published hR hs hbuilds').2 binary ?_
    rw [hos, ← hearlier.binary_kept _ hR hs hnone]
    exact hships.there

/-! ## The calls of the fresh project -/

section Ready

-- The lineage of a path that is given in part takes long to unfold, and no proof needs it here.
seal lineage

variable {p : Platform} {version : String} {m : Machine} {content : Bytes} {checksum : Bool}

theorem tame_honestRunner (R : Location) (os : Os) (content : Bytes) :
    Tame (honestRunner R os content id) R where
  settled i m s hs := by
    unfold honestRunner
    split_ifs
    · refine ⟨⟨publish_direct hs.linkless.packages,
        fun os => publish_direct (hs.linkless.produced os),
        fun os => publish_direct (hs.linkless.binary os)⟩, fun name => ?_⟩
      exact (hs.packages name).of_same
        (publish_sameOff R os content m.files _ (packages_ne_build name _))
    · exact hs
    · exact hs
  format path m s := by simp [honestRunner, formatInvocation]
  strict path m s := by simp [honestRunner, strictInvocation, strictFlag]

/-- What a build publishes for a ready project. -/
def publishedData (m : Machine) (content : Bytes) : FileData :=
  ⟨m.files.nextSerial, content, newDirectoryMode, 0⟩

/-- The artifact of a ready project. -/
def artifactOf (R : Location) (p : Platform) (version : String) : Artifact :=
  ⟨pathOf (binaryPlace R p.os), p.arch, version, p.os⟩

theorem Ready.build_call (may : Refusals) (content : Bytes) (h : Ready R p version m.files)
    (hfree : Buildable R p.os m.files) :
    ∃ c : Call, c.before = m ∧ c.Builds (artifactOf R p version) ∧ c.Happens R may ∧
      (∀ arch, Ready R ⟨p.os, arch⟩ version m.files → Ready R ⟨p.os, arch⟩ version c.after.files) ∧
      c.after.files.node? (binaryPlace R p.os) = some (.file (publishedData m content)) ∧
      ∀ name, c.after.files.node? (packagesPlace R ++ [name])
        = m.files.node? (packagesPlace R ++ [name]) := by
  let w : World Unit := { machine := m, runner := () }
  have hw : Ready R p version w.machine.files := h
  let published : Machine := { m with files := publish R p.os content m.files }
  obtain ⟨w', hrun, hmoved⟩ : ∃ w', w.Runs (honestRunner R p.os content id) may
      (build ⟨"/opt/dotnet"⟩ (rootSettings R .fail false) ⟨p.arch, version, p.os⟩).run
      (.ok (artifactOf R p version)) w' ∧ Moved R p.os published w'.machine := hw.builds hfree
  refine ⟨⟨.fail, false, .build ⟨"/opt/dotnet"⟩ ⟨p.arch, version, p.os⟩
    (.ok (artifactOf R p version)), m, w'.machine⟩, rfl, ⟨_, _, rfl⟩,
    .runs (tame_honestRunner R p.os content) rfl rfl hrun, fun arch harch => ?_, ?_, fun name => ?_⟩
  · have hready : Ready R ⟨p.os, arch⟩ version published.files := harch.published content
    have hmoved' : Moved R (⟨p.os, arch⟩ : Platform).os published w'.machine := hmoved
    exact hmoved'.ready hready
  · exact hmoved.binary.trans (publish_self R p.os content m.files)
  · exact (hmoved.packages name).trans
      (publish_sameOff R p.os content m.files _ (packages_ne_build name _))

theorem verify_call (R : Location) (may : Refusals) (os : Os) (artifact : Artifact) (m : Machine) :
    ∃ (c : Call) (outcomes : List SmokeTestOutcome), c.before = m ∧ c.after = m ∧
      c.stage = .verify artifact (.ok ⟨artifact, outcomes⟩) ∧ c.Happens R may := by
  let w : World Unit := { machine := m, runner := () }
  obtain ⟨outcomes, w', hrun, hm, -⟩ : ∃ outcomes w', w.Runs (honestRunner R os [] id) may
      (verify artifact).run (.ok ⟨artifact, outcomes⟩) w' ∧ w'.machine = m ∧ w'.runner = () :=
    verify_ends (s := ()) (m := m) rfl (judgeFormat_expected _) rfl rfl
  exact ⟨⟨.fail, false, .verify artifact (.ok ⟨artifact, outcomes⟩), m, m⟩, outcomes, rfl, rfl, rfl,
    .runs (tame_honestRunner R os []) rfl hm hrun⟩

theorem Ready.package_call (may : Refusals) (outcomes : List SmokeTestOutcome) {data : FileData}
    (h : Ready R p version m.files)
    (hbinary : m.files.node? (binaryPlace R p.os) = some (.file data))
    (hreads : ownerReads data.mode = true) (hnone : Unpackaged R p false m.files) :
    ∃ (c : Call) (made : Package), c.before = m ∧
      c.stage = .package ⟨artifactOf R p version, outcomes⟩ (.ok made) ∧ c.Happens R may := by
  let w : World Unit := { machine := m, runner := () }
  let verified : VerifiedArtifact := ⟨artifactOf R p version, outcomes⟩
  have hw : Ready R p version w.machine.files := h
  have hverified : verified.artifact = artifactOf R p version := rfl
  obtain ⟨w₁, hdirs, hdir, hsame⟩ := hw.makes (honestRunner R p.os [] id) may .fail false
  have hready := hw.elsewhere (fun q hq => hsame q (fun heq => hq (heq ▸ List.prefix_refl _))) hdir
  have hbinary₁ : w₁.machine.files.node? (binaryPlace R p.os) = some (.file data) :=
    (hsame _ (packagesPlace_ne _).symm).trans hbinary
  obtain ⟨made, w', hrun, -⟩ := package_succeeds hdirs
    (hready.packable hverified hdir hbinary₁ hreads
      (hnone.of_same fun name => hsame _ (ne_packagesPlace name)))
  exact ⟨⟨.fail, false, .package verified (.ok made), m, w'.machine⟩, made, rfl, rfl,
    .runs (tame_honestRunner R p.os []) rfl rfl hrun⟩

end Ready

theorem freshProject_settled : Settled ["work"] freshWorld.machine where
  linkless := linkless_of_ordinary (fun q _ => (freshProject_ordinary q).1)
    (fun q _ => freshProject_ordinary q)
  packages _ := freshProject_ordinary _

theorem fresh_calls (content : Bytes) : ∃ (b d : Call) (outcomes : List SmokeTestOutcome),
    Calls ["work"] Refusals.never freshWorld.machine [d, b] d.after ∧
      b.Builds (artifactOf ["work"] ⟨.linux, .amd64⟩ "1.2.3") ∧
      d.Verifies ⟨artifactOf ["work"] ⟨.linux, .amd64⟩ "1.2.3", outcomes⟩ ∧
      (∀ arch, Ready ["work"] ⟨.linux, arch⟩ "1.2.3" d.after.files) ∧
      d.after.files.node? (binaryPlace ["work"] .linux)
        = some (.file (publishedData freshWorld.machine content)) ∧
      Unpackaged ["work"] ⟨.linux, .amd64⟩ false d.after.files := by
  let p : Platform := ⟨.linux, .amd64⟩
  have hready : Ready ["work"] p "1.2.3" freshWorld.machine.files := freshProject_ready p
  obtain ⟨b, hbefore, hbuilds, hb, hkept, hbinary, hpackages⟩ :=
    hready.build_call Refusals.never content (freshProject_buildable p.os)
  obtain ⟨d, outcomes, hd, hd', hverify, hhappens⟩ :=
    verify_call ["work"] Refusals.never p.os (artifactOf ["work"] p "1.2.3") b.after
  have hnone : Unpackaged ["work"] p false freshWorld.machine.files :=
    freshProject_unpackaged p false
  have hcalls : Calls ["work"] Refusals.never freshWorld.machine [b] b.after :=
    .next (hbefore ▸ .none) (hbuilds.typed _) hb
  have htyped : d.Typed [b] := by
    rw [Call.Typed, hverify]
    exact ⟨b, List.mem_cons_self, hbuilds⟩
  refine ⟨b, d, outcomes, .next (hd ▸ hcalls) htyped hhappens, hbuilds, ⟨_, hverify⟩,
    fun arch => ?_, ?_, ?_⟩
  · rw [hd']
    exact hkept arch (freshProject_ready _)
  · rw [hd']
    exact hbinary
  · rw [hd']
    exact hnone.of_same hpackages

/-- The first package of the fresh project holds what was built for it and tested. -/
theorem first_package_holds_tested_build :
    ∃ (c d b : Call) (m' : Machine) (verified : VerifiedArtifact) (made : Package) (binary : Node),
      Settled ["work"] freshWorld.machine ∧
      Calls ["work"] Refusals.never freshWorld.machine [c, d, b] m' ∧
      c.stage = .package verified (.ok made) ∧ c.Ships ["work"] verified made binary ∧
      d.TestedOn ["work"] verified binary ∧ b.Published ["work"] verified.artifact binary := by
  obtain ⟨b, d, outcomes, hcalls, hbuilds, hverifies, hready, hbinary, hnone⟩ := fresh_calls [0x7f]
  obtain ⟨c, made, hc, hpackage, hhappens⟩ :=
    (hready .amd64).package_call Refusals.never outcomes hbinary (by decide) hnone
  have htyped : c.Typed [d, b] := by
    rw [Call.Typed, hpackage]
    exact ⟨d, List.mem_cons_self, hverifies⟩
  have hall : Calls ["work"] Refusals.never freshWorld.machine ([] ++ c :: [d, b]) c.after :=
    .next (hc ▸ hcalls) htyped hhappens
  obtain ⟨-, -, binary, hships, htested, hpublished⟩ :=
    package_holds_latest_build (by decide) freshProject_settled hall hpackage
  exact ⟨c, d, b, c.after, _, made, binary, freshProject_settled, hall, hpackage, hships,
    htested [] d [b] rfl hverifies (by simp), hpublished [d] b [] _ rfl hbuilds rfl
      (by simpa using hverifies.not_isBuild)⟩

/-! ## A build between the tests and the packaging -/

/-- The trailer of compressed bytes tells how many there were. -/
theorem compress_length {content content' : Bytes}
    (h : Gzip.compress content = Gzip.compress content') :
    littleEndian 4 content.length = littleEndian 4 content'.length := by
  unfold Gzip.compress Gzip.trailer at h
  rw [← List.append_assoc, ← List.append_assoc] at h
  exact (List.append_inj' h rfl).2

/-- Just too much for one block of an archive. -/
def largeContent : Bytes := List.replicate 513 0x7f

theorem archivedFrom_differ {content : Bytes} {m m' : Machine}
    (h : ArchivedFrom (Os.linux.executable productName)
      (some (.file (publishedData m largeContent))) content) :
    ¬ ArchivedFrom (Os.linux.executable productName) (some (.file (publishedData m' [0x7f])))
      content := by
  rintro ⟨-, h'⟩
  obtain ⟨long, hlong, hcontent⟩ := h.2 _ rfl
  obtain ⟨short, hshort, hcontent'⟩ := h' _ rfl
  have hsame := compress_length (hcontent.symm.trans hcontent')
  have hlong : archiveOf (Os.linux.executable productName)
      ⟨0, largeContent, newDirectoryMode, 0⟩ = .ok long := hlong
  have hshort : archiveOf (Os.linux.executable productName)
      ⟨0, [0x7f], newDirectoryMode, 0⟩ = .ok short := hshort
  have hlengths : (archiveOf (Os.linux.executable productName)
        ⟨0, largeContent, newDirectoryMode, 0⟩).map List.length = .ok 2560 ∧
      (archiveOf (Os.linux.executable productName)
        ⟨0, [0x7f], newDirectoryMode, 0⟩).map List.length = .ok 2048 := by decide +kernel
  rw [hlong, hshort] at hlengths
  rw [Except.ok.inj hlengths.1, Except.ok.inj hlengths.2] at hsame
  revert hsame
  decide

/-- A package of the fresh project whose binary was built anew after the tests, for the other
architecture: it is the archive of what no test ran on. -/
theorem rebuilt_package_untested :
    ∃ (c b' d b : Call) (m' : Machine) (verified : VerifiedArtifact) (made : Package)
      (tested shipped : Node),
      Settled ["work"] freshWorld.machine ∧
      Calls ["work"] Refusals.never freshWorld.machine [c, b', d, b] m' ∧
      c.stage = .package verified (.ok made) ∧ verified.artifact.request.arch = .amd64 ∧
      d.Verifies verified ∧ d.TestedOn ["work"] verified tested ∧
      b'.Published ["work"] (artifactOf ["work"] ⟨.linux, .arm64⟩ "1.2.3") shipped ∧
      ∃ data, c.after.files.findNode c.after.directory made.path
          = .ok (packagePlace ["work"] ⟨.linux, .amd64⟩, .file data) ∧
        ArchivedFrom (Os.linux.executable productName) (some shipped) data.content ∧
        ¬ ArchivedFrom (Os.linux.executable productName) (some tested) data.content := by
  obtain ⟨b, d, outcomes, hcalls, hbuilds, hverifies, hready, hbinary, hnone⟩ := fresh_calls [0x7f]
  obtain ⟨b', hb', hbuilds', hhappens', hkept, hbinary', hpackages⟩ :=
    (hready .arm64).build_call Refusals.never largeContent (buildable_of_file hbinary)
  obtain ⟨c, made, hc, hpackage, hhappens⟩ := (hkept .amd64 (hready .amd64)).package_call
    Refusals.never outcomes hbinary' (by decide : ownerReads newDirectoryMode = true)
    (hnone.of_same hpackages)
  have htyped : c.Typed [b', d, b] := by
    rw [Call.Typed, hpackage]
    exact ⟨d, by simp, hverifies⟩
  have hagain : Calls ["work"] Refusals.never freshWorld.machine [b', d, b] b'.after :=
    .next (hb' ▸ hcalls) (hbuilds'.typed _) hhappens'
  have hsettled := hagain.settled (by decide) freshProject_settled
  obtain ⟨shipped, hships⟩ := hhappens.ships (by decide) (hc ▸ hsettled) rfl hpackage
  have hshipped : shipped
      = .file (publishedData d.after largeContent) :=
    Option.some.inj (hships.there.symm.trans (hc ▸ hbinary'))
  obtain ⟨data, hfound, harchived⟩ := hships.archived
  have hcalls' : Calls ["work"] Refusals.never freshWorld.machine ([] ++ d :: [b]) d.after := hcalls
  have hagain' : Calls ["work"] Refusals.never freshWorld.machine ([] ++ b' :: [d, b]) b'.after :=
    hagain
  refine ⟨c, b', d, b, c.after, _, made, _, shipped, freshProject_settled,
    .next (hc ▸ hagain) htyped hhappens, hpackage, rfl, hverifies,
    hcalls'.at_call.2.2.tested hverifies hbinary,
    (hagain'.published (by decide) freshProject_settled hbuilds').2 _ (hshipped ▸ hbinary'),
    data, hfound, harchived, ?_⟩
  rw [hshipped] at harchived
  exact archivedFrom_differ harchived

end Slipway
