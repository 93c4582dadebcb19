import Slipway.Proofs.FailFast

/-!
# Releases one after another

Releases with the usual layout below one root, with any runners and any policies. Between two of
them anything may happen to the files, except below the directory of packages.
-/

namespace Slipway

open FileSystem World

variable {σ : Type} {runner : Runner σ} {may : Refusals} {w w' : World σ} {R : Location}

/-! ## What a release does to the layout -/

theorem Built.clear {toolchain : Path} {collision : CollisionPolicy} {checksum : Bool}
    {request : BuildRequest} {r : Except BuildError Artifact} (hR : Plain R)
    (hrunner : Spares runner (packagesPlace R) (Clear R)) (hclear : Clear R w.machine)
    (h : Built runner toolchain (rootSettings R collision checksum) request w w' r) :
    Clear R w'.machine := by
  cases h with
  | failed called => exact called.keeps hrunner hclear
  | @moved w₁ output path moved called success seen renamed machine idle found =>
    have hclear₁ := called.keeps hrunner hclear
    obtain ⟨place, hreach, hframe⟩ :=
      renamed_frame (isName_executable (isName_toolchainOutput R _ _) _)
        (isName_executable (isName_product R _ _) _) renamed
    obtain rfl := place_of_buildDir hR hclear₁.2 hreach
    have hsame : ∀ q, q <+: packagesPlace R ∨ q <+: buildPlace R →
        w'.machine.files.node? q = w₁.machine.files.node? q := fun q hq => by
      rw [machine]
      exact hframe q (not_behind_build hq) (not_behind_build hq)
    refine ⟨fun q hq target => ?_, fun q hq target => ?_⟩
    · rw [hsame q (Or.inl hq)]
      exact hclear₁.1 q hq target
    · rw [hsame q (Or.inr hq)]
      exact hclear₁.2 q hq target

theorem Tested.clear {artifact : Artifact} {r : Except VerificationError VerifiedArtifact}
    (hrunner : Spares runner (packagesPlace R) (Clear R)) (hclear : Clear R w.machine)
    (h : Tested runner artifact w w' r) : Clear R w'.machine := by
  cases h with
  | format called about => exact called.keeps hrunner hclear
  | strict called called' about => exact called'.keeps hrunner (called.keeps hrunner hclear)
  | passed called success stdout called' failure =>
    exact called'.keeps hrunner (called.keeps hrunner hclear)

/-- The directory of packages was added at most. -/
def Opened (P : Location) (fs fs' : FileSystem) : Prop :=
  ∀ q, P <+: q → fs'.node? q = fs.node? q ∨
    q = P ∧ fs.node? q = none ∧ fs'.node? q = some (.directory newDirectoryMode)

theorem GrowsAlong.opened {P : Location} {fs fs' : FileSystem} (h : GrowsAlong P fs fs') :
    Opened P fs fs' := by
  intro q hq
  rcases h q with hsame | ⟨hP, hnone, hdir⟩
  · exact Or.inl hsame
  · exact Or.inr ⟨hP.eq_of_length_le hq.length_le, hnone, hdir⟩

/-- How a release leaves the packages. It failed before it got to them, or it packaged. -/
inductive Leaves (R : Location) (may : Refusals) (collision : CollisionPolicy) (checksum : Bool)
    (host : Host) (arch : Arch) (fs fs' : FileSystem) : Except ReleaseError Report → Prop
  | early {e : ReleaseError} (same : SameBelow (packagesPlace R) fs fs') :
    Leaves R may collision checksum host arch fs fs' (.error e)
  | dropped {verified : VerifiedArtifact} {here : Location} {fs₁ : FileSystem} {e : PackagingError}
    (os : host = .ok verified.artifact.request.os) (cpu : verified.artifact.request.arch = arch)
    (opened : Opened (packagesPlace R) fs fs₁) (direct : fs₁.Direct (packagesPlace R))
    (packaged : Packaged (rootSettings R collision checksum) verified may here fs₁ fs' (.error e)) :
    Leaves R may collision checksum host arch fs fs' (.error (.packaging e))
  | made {verified : VerifiedArtifact} {here : Location} {fs₁ : FileSystem} {package : Package}
    {report : Report}
    (os : host = .ok verified.artifact.request.os) (cpu : verified.artifact.request.arch = arch)
    (opened : Opened (packagesPlace R) fs fs₁) (direct : fs₁.Direct (packagesPlace R))
    (packaged : Packaged (rootSettings R collision checksum) verified may here fs₁ fs'
      (.ok package))
    (reported : report.package = package ∧ report.platform = verified.artifact.request.os ∧
      report.arch = verified.artifact.request.arch) :
    Leaves R may collision checksum host arch fs fs' (.ok report)

theorem Ordinary.grows {fs fs' : FileSystem} {place : Location} (h : fs.Ordinary place)
    (hg : Grows fs fs') : fs'.Ordinary place := by
  rcases hg place with hsame | ⟨-, hdir⟩
  · exact h.of_same hsame
  · exact ordinary_of_directory hdir

theorem runs_package_along {verified : VerifiedArtifact} {collision : CollisionPolicy}
    {checksum : Bool} {r : Except PackagingError Package} (hR : Plain R)
    (hdirect : w.machine.files.Direct (packagesPlace R))
    (hordinary : collision = .overwrite → ∀ name, w.machine.files.Ordinary (packagesPlace R ++ [name]))
    (h : w.Runs runner may (package (rootSettings R collision checksum) verified).run r w') :
    ∃ fs, GrowsAlong (packagesPlace R) w.machine.files fs ∧ fs.Direct (packagesPlace R) ∧
      Packaged (rootSettings R collision checksum) verified may w.machine.directory fs
        w'.machine.files r := by
  have hs : ∀ fs, Grows w.machine.files fs → ∀ place,
      fs.Reaches w.machine.directory (rootSettings R collision checksum).packagesDir place →
      ∀ name, name = verified.artifact.request.platform.packageName
          (rootSettings R collision checksum).product →
        Replaceable (rootSettings R collision checksum) fs (place ++ [name]) ∧
          Replaceable (rootSettings R collision checksum) fs (place ++ [checksumName name]) := by
    intro fs hgrows place hreach name _
    obtain rfl := place_of_packagesDir hR (hgrows.direct hdirect) hreach
    exact ⟨fun hc => Ordinary.grows (hordinary hc _) hgrows,
      fun hc => Ordinary.grows (hordinary hc _) hgrows⟩
  obtain ⟨fs, hprepares, hpackaged⟩ := runs_package (isName_product R _ _).no_separator hs h
  have hsteps := stepsOf_packagesDir collision checksum hR
  have hplain : Plain (stepsOf (rootSettings R collision checksum).packagesDir) := by
    rw [hsteps]
    exact plain_packagesPlace hR
  have halong := hprepares.along (fun n hn => Or.inr (hplain n hn))
  rw [wayOf_of_plain _ (isAbsolute_packagesDir collision checksum) hplain, hsteps] at halong
  exact ⟨fs, halong hdirect, hprepares.grows.direct hdirect, hpackaged⟩

theorem runs_package_root {verified : VerifiedArtifact} {collision : CollisionPolicy}
    {checksum : Bool} {r : Except PackagingError Package} (hR : Plain R)
    (hclear : Clear R w.machine)
    (hordinary : collision = .overwrite → ∀ name, w.machine.files.Ordinary (packagesPlace R ++ [name]))
    (h : w.Runs runner may (package (rootSettings R collision checksum) verified).run r w') :
    ∃ fs, Grows w.machine.files fs ∧ Opened (packagesPlace R) w.machine.files fs ∧
      fs.Direct (packagesPlace R) ∧ Packaged (rootSettings R collision checksum) verified may
        w.machine.directory fs w'.machine.files r := by
  obtain ⟨fs, halong, hdirect, hpackaged⟩ := runs_package_along hR hclear.1 hordinary h
  exact ⟨fs, halong.grows, halong.opened, hdirect, hpackaged⟩

theorem SameBelow.opened {P : Location} {fs fs' fs'' : FileSystem} (h : SameBelow P fs fs')
    (h' : Opened P fs' fs'') : Opened P fs fs'' := by
  intro q hq
  rw [← h q hq]
  exact h' q hq

theorem runs_leaves {collision : CollisionPolicy} {checksum : Bool} {toolchain : Path}
    {host : Host} {arch : Arch} {r : Except ReleaseError Report} (hR : Plain R)
    (hrunner : Spares runner (packagesPlace R) (Clear R)) (hclear : Clear R w.machine)
    (hordinary : collision = .overwrite → ∀ name, w.machine.files.Ordinary (packagesPlace R ++ [name]))
    (h : w.Runs runner may (release (rootSettings R collision checksum) toolchain host arch).run
      r w') :
    Leaves R may collision checksum host arch w.machine.files w'.machine.files r := by
  have hbuild : ∀ {request : BuildRequest} {r : Except BuildError Artifact} {w₁ : World σ},
      Built runner toolchain (rootSettings R collision checksum) request w w₁ r →
        SameBelow (packagesPlace R) w.machine.files w₁.machine.files ∧ Clear R w₁.machine :=
    fun built => ⟨built.sameBelow hrunner (isName_product R _ _) (isName_toolchainOutput R _ _)
      (fun m hm => hm.apart hR) hclear, built.clear hR hrunner hclear⟩
  have hready : ∀ {w₂ : World σ}, SameBelow (packagesPlace R) w.machine.files w₂.machine.files →
      collision = .overwrite → ∀ name, w₂.machine.files.Ordinary (packagesPlace R ++ [name]) := by
    intro w₂ hsame hc name
    exact (hordinary hc name).of_same (hsame _ (List.prefix_append _ _))
  cases runs_release h with
  | unready same => exact .early (by rw [same.1]; exact SameBelow.refl _ _)
  | collided requested policy targets there unseen same =>
    exact .early (by rw [same.1]; exact SameBelow.refl _ _)
  | unbuilt requested free built => exact .early (hbuild built).1
  | rejected requested free built tested =>
    exact .early ((hbuild built).1.trans (tested.sameBelow hrunner))
  | @unpacked request artifact verified w₁ w₂ e requested free built tested packaged =>
    have hsame := (hbuild built).1.trans (tested.sameBelow hrunner)
    have hclear₂ := tested.clear hrunner (hbuild built).2
    obtain ⟨fs, -, hopened, hdirect, hpackaged⟩ :=
      runs_package_root hR hclear₂ (hready hsame) packaged
    have hrequest : verified.artifact.request = request := by
      rw [tested.artifact_eq, built.request_eq]
    exact .dropped (by rw [hrequest]; exact requested.os) (by rw [hrequest]; exact requested.arch)
      (hsame.opened hopened) hdirect hpackaged
  | @complete request artifact verified w₁ w₂ w₃ made requested free built tested packaged same =>
    have hsame := (hbuild built).1.trans (tested.sameBelow hrunner)
    have hclear₂ := tested.clear hrunner (hbuild built).2
    obtain ⟨fs, -, hopened, hdirect, hpackaged⟩ :=
      runs_package_root hR hclear₂ (hready hsame) packaged
    have hrequest : verified.artifact.request = request := by
      rw [tested.artifact_eq, built.request_eq]
    rw [← same.1] at hpackaged
    exact .made (by rw [hrequest]; exact requested.os) (by rw [hrequest]; exact requested.arch)
      (hsame.opened hopened) hdirect hpackaged ⟨rfl, by rw [hrequest]; rfl, by rw [hrequest]; rfl⟩

/-! ## Histories -/

/-- One release of a history, with the machine as it found and left it. -/
structure Attempt where
  collision : CollisionPolicy
  checksum : Bool
  toolchain : Path
  host : Host
  arch : Arch
  before : Machine
  after : Machine
  /-- The processes that it started, the latest first. -/
  started : List Invocation
  result : Except ReleaseError Report

/-- The attempt is a run, with some runner that leaves the packages and the layout alone. -/
def Attempt.Happens (R : Location) (may : Refusals) (a : Attempt) : Prop :=
  ∃ (σ : Type) (runner : Runner σ) (w w' : World σ), Spares runner (packagesPlace R) (Clear R) ∧
    w.machine = a.before ∧ w'.machine = a.after ∧ w'.started = a.started ++ w.started ∧
    w.Runs runner may (release (rootSettings R a.collision a.checksum) a.toolchain a.host
      a.arch).run a.result w'

/-- The attempts happened one after another, from a machine on. -/
def History (R : Location) (may : Refusals) : Machine → List Attempt → Prop
  | _, [] => True
  | m, a :: rest => SameBelow (packagesPlace R) m.files a.before.files ∧ Clear R a.before ∧
    a.Happens R may ∧ History R may a.after rest

/-- The attempt made a package for the platform. -/
def Attempt.packaged (a : Attempt) (p : Platform) : Bool :=
  match a.result with
  | .ok report => report.platform = p.os ∧ report.arch = p.arch
  | .error _ => false

theorem Attempt.packaged_iff {a : Attempt} {p : Platform} : a.packaged p ↔
    ∃ report, a.result = .ok report ∧ report.platform = p.os ∧ report.arch = p.arch := by
  unfold Attempt.packaged
  cases a.result <;> simp

theorem Attempt.Happens.leaves {a : Attempt} (h : a.Happens R may) (hR : Plain R)
    (hclear : Clear R a.before)
    (hordinary : a.collision = .overwrite →
      ∀ name, a.before.files.Ordinary (packagesPlace R ++ [name])) :
    Leaves R may a.collision a.checksum a.host a.arch a.before.files a.after.files a.result := by
  obtain ⟨σ, runner, w, w', hrunner, hbefore, hafter, -, h⟩ := h
  rw [← hbefore] at hclear hordinary ⊢
  rw [← hafter]
  exact runs_leaves hR hrunner hclear hordinary h

/-! ## The histories of the fresh project -/

theorem spares_clear {os : Os} {content : Bytes} {spoil : FileSystem → FileSystem}
    (hdirect : ∀ fs P, fs.Direct P → (spoil fs).Direct P)
    (hsame : ∀ fs, SameBelow (packagesPlace R) fs (spoil fs)) :
    Spares (honestRunner R os content spoil) (packagesPlace R) (Clear R) :=
  spares_honestRunner (fun _ h => ⟨publish_direct h.1, publish_direct h.2⟩)
    (fun m h => ⟨hdirect m.files _ h.1, hdirect m.files _ h.2⟩) hsame

theorem fresh_attempt (p : Platform) (checksum : Bool) : ∃ a : Attempt,
    History ["work"] Refusals.never freshWorld.machine [a] ∧ a.packaged p ∧ a.collision = .fail ∧
      a.checksum = checksum ∧ Ready ["work"] p "1.2.3" a.after.files ∧
      Stocked ["work"] p a.after.files := by
  have hready : Ready ["work"] p "1.2.3" freshWorld.machine.files := freshProject_ready p
  obtain ⟨report, w', hrun, hos, harch, hafter, hstocked⟩ := hready.releases Refusals.never
    ⟨"/opt/dotnet"⟩ .fail [0x7f] (freshProject_buildable p.os) (freshProject_unpackaged p checksum)
  refine ⟨⟨.fail, checksum, ⟨"/opt/dotnet"⟩, .ok p.os, p.arch, freshWorld.machine, w'.machine,
    w'.started, .ok report⟩, ⟨SameBelow.refl _ _, hready.clear, ?_, trivial⟩, ?_, rfl, rfl, hafter,
    hstocked⟩
  · exact ⟨Unit, honestRunner ["work"] p.os [0x7f] id, freshWorld, w',
      spares_clear (fun _ _ h => h) (SameBelow.refl _), rfl, rfl, (List.append_nil _).symm, hrun⟩
  · simp [Attempt.packaged, hos, harch]

end Slipway
