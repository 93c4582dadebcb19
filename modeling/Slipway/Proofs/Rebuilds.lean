import Slipway.Proofs.Relocation

/-!
# Builds one after another

The build directory is never cleaned, so a build can find an output that it did not publish itself.
Such an output is one that a failed build left: a build that succeeds moves its output away.
-/

namespace Slipway

open FileSystem World

variable {may : Refusals} {settings : Settings} {os : Os} {m : Machine}

/-! ## One build -/

/-- One build of a history, with the machine as it found it, after its publish process, and as it
left it. -/
structure BuildCall where
  request : BuildRequest
  before : Machine
  published : Machine
  after : Machine
  /-- How the publish process ended. -/
  answer : Except SystemError ProcessOutput
  result : Except BuildError Artifact

namespace BuildCall

/-- The call is a run of a build, with some toolchain. -/
def Happens (settings : Settings) (may : Refusals) (c : BuildCall) : Prop :=
  ∃ (σ : Type) (runner : Runner σ) (toolchain : Path) (w w' : World σ) (s : σ),
    w.machine = c.before ∧ w'.machine = c.after ∧
    runner (publishInvocation toolchain settings c.request) c.before w.runner
      = (c.answer, c.published, s) ∧
    w.Runs runner may (build toolchain settings c.request).run c.result w'

/-- The publish process exited with 0. -/
def ExitsZero (c : BuildCall) : Prop := ∃ output, c.answer = .ok output ∧ output.code = some 0

def Succeeds (c : BuildCall) : Prop := ∃ artifact, c.result = .ok artifact

end BuildCall

/-- The toolchain's default-named output is seen in the build directory. -/
def Machine.HasOutput (settings : Settings) (os : Os) (m : Machine) : Prop :=
  m.files.satisfies m.directory (producedPath settings os) Node.isRegular = true

/-- What one call does to the default-named output. -/
inductive BuildCall.Ends (settings : Settings) (os : Os) (c : BuildCall) : Prop
  /-- The output is as the publish process left it. -/
  | failed {e : BuildError} (result : c.result = .error e) (after : c.after = c.published)
    (missing : c.ExitsZero → ¬ c.published.HasOutput settings os →
      e = .missingOutput (producedPath settings os))
  /-- The output was there, and was moved away. -/
  | succeeded {artifact : Artifact} (result : c.result = .ok artifact) (code : c.ExitsZero)
    (found : c.published.HasOutput settings os) (gone : ¬ c.after.HasOutput settings os)

theorem executable_injective (os : Os) : Function.Injective os.executable := by
  intro stem stem' h
  unfold Os.executable at h
  have hchars := congrArg String.toList h
  rw [String.toList_append, String.toList_append] at hchars
  exact String.toList_inj.mp (List.append_cancel_right hchars)

theorem not_satisfies_of_not_exists {m : Machine} {path : Path} {p : Node → Bool}
    (h : m.files.exists? m.directory path = false) :
    m.files.satisfies m.directory path p ≠ true := by
  unfold FileSystem.exists? at h
  unfold FileSystem.satisfies
  split
  · rename_i hfound
    rw [hfound] at h
    simp [Except.isOk, Except.toBool] at h
  · simp

theorem BuildCall.Happens.ends {c : BuildCall} (hproduct : IsName settings.product)
    (houtput : IsName settings.toolchainOutput) (hne : settings.product ≠ settings.toolchainOutput)
    (hsound : c.published.Sound) (h : c.Happens settings may) :
    c.Ends settings c.request.os := by
  obtain ⟨σ, runner, toolchain, w, w', s, hbefore, hafter, hcall, hrun⟩ := h
  have hpublished : ∀ {r : Except SystemError ProcessOutput} {w₁ : World σ},
      w.Called runner (publishInvocation toolchain settings c.request) r w₁ →
        r = c.answer ∧ w₁.machine = c.published := by
    rintro r w₁ ⟨hr, -⟩
    rw [hbefore, hcall] at hr
    obtain ⟨rfl, hm⟩ := Prod.mk.inj hr
    exact ⟨rfl, (Prod.mk.inj hm).1.symm⟩
  have hbuilt := runs_build hrun
  generalize hr : c.result = r at hbuilt
  cases hbuilt with
  | failed called missing =>
    obtain ⟨rfl, hm⟩ := hpublished called
    refine .failed hr (hafter.symm.trans hm) (fun ⟨output, ho, hcode⟩ hnone => ?_)
    rw [← hm] at hnone
    exact missing output ho hcode (by simpa [Machine.HasOutput] using hnone)
  | @moved w₁ output path moved called success seen renamed machine idle found =>
    obtain ⟨hanswer, hm⟩ := hpublished called
    rw [hm] at seen renamed machine
    refine .succeeded hr ⟨output, hanswer.symm, success⟩ seen ?_
    have hnames : c.request.os.executable settings.toolchainOutput
        ≠ c.request.os.executable settings.product :=
      fun heq => hne (executable_injective _ heq).symm
    rw [← hafter, machine]
    exact not_satisfies_of_not_exists (hsound.old_name_free (isName_executable houtput _)
      (isName_executable hproduct _) hnames seen renamed)

/-! ## Histories of builds -/

/-- The calls happen one after another from the machine `m` on, all for one system, and nothing
happens between them. What a publish process leaves is a sound machine. -/
def Rebuilds (settings : Settings) (may : Refusals) (os : Os) : Machine → List BuildCall → Prop
  | _, [] => True
  | m, c :: rest =>
    c.before = m ∧ c.request.os = os ∧ c.published.Sound ∧ c.Happens settings may ∧
      Rebuilds settings may os c.after rest

/-- Among the calls, one published an output; since then none succeeded, and it was always there. -/
def LeftBy (settings : Settings) (os : Os) (calls : List BuildCall) : Prop :=
  ∃ front c back, calls = front ++ c :: back ∧
    ¬ c.before.HasOutput settings os ∧ c.published.HasOutput settings os ∧ ¬ c.Succeeds ∧
    ∀ b ∈ back, ¬ b.Succeeds ∧ b.before.HasOutput settings os

theorem leftBy_snoc {calls : List BuildCall} {c : BuildCall}
    (hends : c.Ends settings os) (hbefore : c.before.HasOutput settings os → LeftBy settings os calls)
    (hafter : c.after.HasOutput settings os) : LeftBy settings os (calls ++ [c]) := by
  cases hends with
  | succeeded result code found gone => exact absurd hafter gone
  | failed result after missing =>
    have hfailed : ¬ c.Succeeds := by
      rintro ⟨artifact, hok⟩
      simp [hok] at result
    by_cases hthere : c.before.HasOutput settings os
    · obtain ⟨front, c', back, rfl, hnew, hpublished, hfailed', hback⟩ := hbefore hthere
      refine ⟨front, c', back ++ [c], by simp, hnew, hpublished, hfailed', fun b hb => ?_⟩
      rcases List.mem_append.mp hb with hb | hb
      · exact hback b hb
      · obtain rfl := List.mem_singleton.mp hb
        exact ⟨hfailed, hthere⟩
    · exact ⟨calls, c, [], rfl, hthere, after ▸ hafter, hfailed, by simp⟩

/-- Whatever output a call finds before its publish process, an earlier call left it. -/
theorem Rebuilds.left {pre rest : List BuildCall} {c : BuildCall}
    (hproduct : IsName settings.product) (houtput : IsName settings.toolchainOutput)
    (hne : settings.product ≠ settings.toolchainOutput)
    (h : Rebuilds settings may os m (pre ++ c :: rest)) (done : List BuildCall)
    (hm : m.HasOutput settings os → LeftBy settings os done) :
    c.Ends settings os ∧ (c.before.HasOutput settings os → LeftBy settings os (done ++ pre)) := by
  induction pre generalizing m done with
  | nil =>
    obtain ⟨rfl, rfl, hsound, hhappens, -⟩ := h
    exact ⟨hhappens.ends hproduct houtput hne hsound, by simpa using hm⟩
  | cons first pre ih =>
    obtain ⟨rfl, rfl, hsound, hhappens, hrest⟩ := h
    have hfirst := hhappens.ends hproduct houtput hne hsound
    have hleft := ih hrest (done ++ [first]) (leftBy_snoc hfirst hm)
    rwa [List.append_assoc, List.singleton_append] at hleft

/-- In a build directory without a default-named output at first, a build succeeds only with an
output that its own publish process made, or one that a failed build made before it and none took
since. With no output there it fails and says so. -/
theorem builds_take_new_output {calls pre rest : List BuildCall} {c : BuildCall}
    (hproduct : IsName settings.product) (houtput : IsName settings.toolchainOutput)
    (hne : settings.product ≠ settings.toolchainOutput) (hempty : ¬ m.HasOutput settings os)
    (hcalls : Rebuilds settings may os m calls) (hsplit : calls = pre ++ c :: rest) :
    (c.Succeeds → c.ExitsZero ∧ c.published.HasOutput settings os ∧
      ¬ c.after.HasOutput settings os ∧
      (¬ c.before.HasOutput settings os ∨ LeftBy settings os pre)) ∧
    (c.ExitsZero → ¬ c.published.HasOutput settings os →
      c.result = .error (.missingOutput (producedPath settings os))) := by
  subst hsplit
  obtain ⟨hends, hleft⟩ := hcalls.left hproduct houtput hne [] (fun hthere => absurd hthere hempty)
  cases hends with
  | failed result after missing =>
    refine ⟨fun ⟨artifact, hok⟩ => by simp [hok] at result, fun hexit hnone => ?_⟩
    rw [result, missing hexit hnone]
  | succeeded result code found gone =>
    refine ⟨fun _ => ⟨code, found, gone, ?_⟩, fun _ hnone => absurd found hnone⟩
    by_cases hthere : c.before.HasOutput settings os
    · exact Or.inr (hleft hthere)
    · exact Or.inl hthere

/-! ## A stale output -/

/-- The build of the fresh project for Linux with a toolchain that behaves as `runner` does. -/
def freshBuild (runner : Runner Unit) (m : Machine) : BuildCall :=
  let settings := rootSettings ["work"] .fail false
  let request : BuildRequest := ⟨.amd64, "1.2.3", .linux⟩
  let answered := runner (publishInvocation ⟨"/opt/dotnet"⟩ settings request) m ()
  let ended := World.run runner { machine := m, runner := () }
    (build ⟨"/opt/dotnet"⟩ settings request).run
  { request, before := m, published := answered.2.1, after := ended.2.machine,
    answer := answered.1, result := ended.1 }

theorem freshBuild_happens (runner : Runner Unit) (m : Machine) :
    (freshBuild runner m).Happens (rootSettings ["work"] .fail false) Refusals.never :=
  ⟨Unit, runner, _, _, _, _, rfl, rfl, rfl, runs_run _ _ _ _⟩

/-- Publishes and fails then. -/
def failingToolchain : Runner Unit := fun _ m s =>
  let output : Node := .file ⟨2, Utf8.encode "binary", 0o755, 0⟩
  (.ok { code := some 1 },
    { m with files := m.files.put (producedPlace ["work"] .linux) output }, s)

/-- Publishes nothing and succeeds. -/
def idleToolchain : Runner Unit := fun _ m s => (.ok { code := some 0 }, m, s)

def failedBuild : BuildCall := freshBuild failingToolchain freshWorld.machine
def staleBuild : BuildCall := freshBuild idleToolchain failedBuild.after

theorem staleBuild_rebuilds :
    Rebuilds (rootSettings ["work"] .fail false) Refusals.never .linux freshWorld.machine
      [failedBuild, staleBuild] :=
  ⟨rfl, rfl, Machine.sound_of_entries (by decide +kernel) (by decide +kernel), freshBuild_happens _ _,
    rfl, rfl, Machine.sound_of_entries (by decide +kernel) (by decide +kernel), freshBuild_happens _ _,
    trivial⟩

/-- The output of the failed build is taken by the next one. -/
theorem stale_output_left :
    (staleBuild.Succeeds → staleBuild.ExitsZero ∧
      staleBuild.published.HasOutput (rootSettings ["work"] .fail false) .linux ∧
      ¬ staleBuild.after.HasOutput (rootSettings ["work"] .fail false) .linux ∧
      (¬ staleBuild.before.HasOutput (rootSettings ["work"] .fail false) .linux ∨
        LeftBy (rootSettings ["work"] .fail false) .linux [failedBuild])) ∧
    (staleBuild.ExitsZero →
      ¬ staleBuild.published.HasOutput (rootSettings ["work"] .fail false) .linux →
      staleBuild.result
        = .error (.missingOutput (producedPath (rootSettings ["work"] .fail false) .linux))) :=
  builds_take_new_output (isName_product _ _ _) (isName_toolchainOutput _ _ _) (by decide +kernel)
    (by unfold Machine.HasOutput; decide +kernel) staleBuild_rebuilds
    List.singleton_append.symm

/-- A build succeeds although its publish process wrote nothing, in a build directory that had no
output at first. -/
theorem stale_output_taken :
    ¬ freshWorld.machine.HasOutput (rootSettings ["work"] .fail false) .linux ∧
    Rebuilds (rootSettings ["work"] .fail false) Refusals.never .linux freshWorld.machine
      [failedBuild, staleBuild] ∧
    staleBuild.ExitsZero ∧ staleBuild.published = staleBuild.before ∧ staleBuild.Succeeds := by
  refine ⟨by unfold Machine.HasOutput; decide +kernel, staleBuild_rebuilds, ⟨_, rfl, rfl⟩, rfl, ?_⟩
  have hresult : staleBuild.result = .ok ⟨⟨"/work/src/build/fxml"⟩, ⟨.amd64, "1.2.3", .linux⟩⟩ := by
    decide +kernel
  exact ⟨_, hresult⟩

end Slipway
