import Slipway.Proofs.Readiness

/-!
# The first failure ends a release

A release starts its three processes in order and stops at the first that fails. Until all three
have done what they should, nothing at the place of the packages changes.
-/

namespace Slipway

open FileSystem World

variable {σ : Type} {runner : Runner σ} {may : Refusals} {w w' : World σ} {settings : Settings}
  {toolchain : Path} {host : Host} {arch : Arch} {P : Location}

/-! ## The processes of a release -/

/-- The processes of a release that builds `binary`, in order. -/
def invocations (toolchain : Path) (settings : Settings) (request : BuildRequest)
    (binary : Path) : List Invocation :=
  [publishInvocation toolchain settings request, formatInvocation binary, strictInvocation binary]

/-- How many processes were started by a release that ends like this, unless it collided before. -/
def startsOf : Except ReleaseError Report → Nat
  | .error (.setup _) => 0
  | .error (.build _) => 1
  | .error (.verification e) =>
    match e.test with
    | .format => 2
    | .strictExitCode => 3
  | .error (.packaging _) => 3
  | .ok _ => 3

/-! ## Places that stay -/

/-- Everything at the place and below it is as it was. -/
def SameBelow (P : Location) (fs fs' : FileSystem) : Prop :=
  ∀ q, P <+: q → fs'.node? q = fs.node? q

theorem SameBelow.refl (P : Location) (fs : FileSystem) : SameBelow P fs fs := fun _ _ => rfl

theorem SameBelow.trans {fs fs' fs'' : FileSystem} (h : SameBelow P fs fs')
    (h' : SameBelow P fs' fs'') : SameBelow P fs fs'' :=
  fun q hq => (h' q hq).trans (h q hq)

/-- The build directory does not lead to `P`, nor to a place above it or below it. -/
def Apart (settings : Settings) (P : Location) (m : Machine) : Prop :=
  ∀ place, m.files.Reaches m.directory settings.buildDir place → ¬ place <+: P ∧ ¬ P <+: place

/-- Whatever process it runs, the runner leaves `P` alone and keeps `I` true. -/
structure Spares (runner : Runner σ) (P : Location) (I : Machine → Prop) : Prop where
  same : ∀ i m s, SameBelow P m.files (runner i m s).2.1.files
  keeps : ∀ i m s, I m → I (runner i m s).2.1

theorem spares_honestRunner {R : Location} {os : Os} {content : Bytes}
    {spoil : FileSystem → FileSystem} {I : Machine → Prop}
    (hpublish : ∀ m, I m → I { m with files := publish R os content m.files })
    (hspoil : ∀ m, I m → I { m with files := spoil m.files })
    (hsame : ∀ fs, SameBelow (packagesPlace R) fs (spoil fs)) :
    Spares (honestRunner R os content spoil) (packagesPlace R) I where
  same i m s := by
    unfold honestRunner
    split_ifs
    · exact fun q hq => publish_sameOff R os content m.files q (ne_build_of_packages hq)
    · exact SameBelow.refl _ _
    · exact hsame m.files
  keeps i m s hI := by
    unfold honestRunner
    split_ifs
    · exact hpublish m hI
    · exact hI
    · exact hspoil m hI

theorem apart_publish {R : Location} {os : Os} {content : Bytes} {m : Machine}
    (h : Apart settings P m) : Apart settings P { m with files := publish R os content m.files } :=
  fun place hreach => h place (hreach.keeps (publish_keeps R os content m.files))

theorem Clear.apart {R : Location} {m : Machine} {collision : CollisionPolicy} {checksum : Bool}
    (h : Clear R m) (hR : Plain R) :
    Apart (rootSettings R collision checksum) (packagesPlace R) m := by
  intro place hreach
  rw [place_of_buildDir hR h.2 hreach]
  exact buildPlace_apart R

theorem not_prefix_of_apart {place q : Location} {name : String} (hup : ¬ place <+: P)
    (hdown : ¬ P <+: place) (hq : P <+: q) : ¬ place ++ [name] <+: q := by
  intro h
  rcases List.prefix_or_prefix_of_prefix hq h with hP | hP
  · rcases List.prefix_concat_iff.mp hP with rfl | hP
    · exact hup (List.prefix_append _ _)
    · exact hdown hP
  · exact hup ((List.prefix_append _ _).trans hP)

section Frames

variable {I : Machine → Prop} (hrunner : Spares runner P I)

include hrunner

theorem World.Called.sameBelow {i : Invocation} {r : Except SystemError ProcessOutput}
    (h : w.Called runner i r w') : SameBelow P w.machine.files w'.machine.files := by
  have hsame := hrunner.same i w.machine w.runner
  rw [h.1] at hsame
  exact hsame

theorem World.Called.keeps {i : Invocation} {r : Except SystemError ProcessOutput}
    (h : w.Called runner i r w') (hI : I w.machine) : I w'.machine := by
  have hkeeps := hrunner.keeps i w.machine w.runner hI
  rw [h.1] at hkeeps
  exact hkeeps

theorem Built.sameBelow {request : BuildRequest} {r : Except BuildError Artifact}
    (hproduct : IsName settings.product) (houtput : IsName settings.toolchainOutput)
    (ha : ∀ m, I m → Apart settings P m) (hI : I w.machine)
    (h : Built runner toolchain settings request w w' r) :
    SameBelow P w.machine.files w'.machine.files := by
  cases h with
  | failed called => exact called.sameBelow hrunner
  | moved called success seen renamed machine idle found =>
    obtain ⟨place, hreach, hframe⟩ :=
      renamed_frame (isName_executable houtput _) (isName_executable hproduct _) renamed
    obtain ⟨hup, hdown⟩ := ha _ (called.keeps hrunner hI) place hreach
    refine (called.sameBelow hrunner).trans (fun q hq => ?_)
    rw [machine]
    exact hframe q (not_prefix_of_apart hup hdown hq) (not_prefix_of_apart hup hdown hq)

theorem Tested.sameBelow {artifact : Artifact} {r : Except VerificationError VerifiedArtifact}
    (h : Tested runner artifact w w' r) : SameBelow P w.machine.files w'.machine.files := by
  cases h with
  | format called about => exact called.sameBelow hrunner
  | strict called called' about =>
    exact (called.sameBelow hrunner).trans (called'.sameBelow hrunner)
  | passed called success stdout called' failure =>
    exact (called.sameBelow hrunner).trans (called'.sameBelow hrunner)

end Frames

/-! ## What was started -/

theorem Built.started {request : BuildRequest} {r : Except BuildError Artifact}
    (h : Built runner toolchain settings request w w' r) :
    w'.started = publishInvocation toolchain settings request :: w.started := by
  cases h with
  | failed called => exact called.2
  | moved called success seen renamed machine idle found => rw [idle.2, called.2]

theorem Tested.started {artifact : Artifact} {r : Except VerificationError VerifiedArtifact}
    (h : Tested runner artifact w w' r) :
    (∃ e, r = .error e ∧ e.test = .format) ∧
        w'.started = formatInvocation artifact.path :: w.started ∨
      (∀ e, r = .error e → e.test = .strictExitCode) ∧
        w'.started = strictInvocation artifact.path :: formatInvocation artifact.path :: w.started := by
  cases h with
  | @format e _ called about => exact Or.inl ⟨⟨e, rfl, about⟩, called.2⟩
  | strict called called' about =>
    refine Or.inr ⟨?_, by rw [called'.2, called.2]⟩
    rintro e he
    rw [← Except.error.inj he]
    exact about
  | passed called success stdout called' failure =>
    exact Or.inr ⟨by simp, by rw [called'.2, called.2]⟩

/-! ## The release -/

/-- A release that failed at the preflight, since something is in the way. -/
def Collided (runner : Runner σ) (may : Refusals) (settings : Settings) (host : Host) (arch : Arch)
    (w : World σ) (r : Except ReleaseError Report) : Prop :=
  settings.collision = .fail ∧ ∃ request path, Requested runner may settings host arch w request ∧
    path ∈ packageTargets settings request ∧
    w.machine.files.exists? w.machine.directory path = true ∧
    r = .error (.packaging (.packageExists path))

/-- What a release has done that ended with `r` after it had started `n` processes. -/
structure StoppedAfter (n : Nat) (runner : Runner σ) (may : Refusals) (settings : Settings)
    (toolchain : Path) (host : Host) (arch : Arch) (P : Location) (w w' : World σ)
    (r : Except ReleaseError Report) : Prop where
  count : n = startsOf r ∨ n = 0 ∧ Collided runner may settings host arch w r
  idle : n = 0 → w.Untouched w'
  started : 0 < n → ∃ request binary, Requested runner may settings host arch w request ∧
    w'.started = ((invocations toolchain settings request binary).take n).reverse ++ w.started ∧
    ∀ report, r = .ok report → report.artifact = binary ∧ report.version = request.version ∧
      report.arch = request.arch ∧ report.platform = request.os
  /-- Nothing is packaged before the binary has passed its tests. -/
  unpackaged : (∀ report, r ≠ .ok report) → (∀ e, r ≠ .error (.packaging e)) →
    SameBelow P w.machine.files w'.machine.files
  /-- Under the policy to fail, nothing that was there changes. -/
  kept : settings.collision = .fail → ∀ q node, P <+: q → w.machine.files.node? q = some node →
    w'.machine.files.node? q = some node
  /-- A packaging that fails leaves no file behind. -/
  clean : settings.collision = .fail → (∀ path, ¬ may (.remove path)) →
    ∀ e, r = .error (.packaging e) → ∀ q data, P <+: q →
      w'.machine.files.node? q = some (.file data) → w.machine.files.node? q = some (.file data)

theorem SameBelow.stopped {n : Nat} {r : Except ReleaseError Report}
    (h : SameBelow P w.machine.files w'.machine.files)
    (count : n = startsOf r ∨ n = 0 ∧ Collided runner may settings host arch w r)
    (idle : n = 0 → w.Untouched w')
    (started : 0 < n → ∃ request binary, Requested runner may settings host arch w request ∧
      w'.started = ((invocations toolchain settings request binary).take n).reverse ++ w.started)
    (failed : ∀ report, r ≠ .ok report) :
    StoppedAfter n runner may settings toolchain host arch P w w' r where
  count := count
  idle := idle
  started hn := by
    obtain ⟨request, binary, hrequest, hstarted⟩ := started hn
    exact ⟨request, binary, hrequest, hstarted, fun report hr => absurd hr (failed report)⟩
  unpackaged _ _ := h
  kept _ q node hq hnode := by rw [h q hq, hnode]
  clean _ _ _ _ q data hq hdata := by rwa [h q hq] at hdata

theorem runs_package_fail {verified : VerifiedArtifact} {r : Except PackagingError Package}
    (hproduct : IsName settings.product) (hc : settings.collision = .fail)
    (h : w.Runs runner may (package settings verified).run r w') :
    (∀ q node, w.machine.files.node? q = some node → w'.machine.files.node? q = some node) ∧
      ((∀ path, ¬ may (.remove path)) → ∀ e, r = .error e → ∀ q data,
        w'.machine.files.node? q = some (.file data) →
          w.machine.files.node? q = some (.file data)) := by
  have hs : ∀ fs place, Replaceable settings fs place := fun fs place ho => by
    rw [hc] at ho
    simp at ho
  obtain ⟨fs, hprepares, hpackaged⟩ :=
    runs_package hproduct.no_separator (fun fs _ _ _ _ _ => ⟨hs _ _, hs _ _⟩) h
  have hgrows := hprepares.grows
  refine ⟨fun q node hq => hpackaged.kept hc (hgrows.keep hq), ?_⟩
  rintro hmay e rfl q data hq
  have hmid := hpackaged.clean hc hmay hq
  rcases hgrows q with hsame | ⟨-, hdir⟩
  · rw [← hsame, hmid]
  · rw [hdir] at hmid
    simp at hmid

/-- A release starts a prefix of its processes, as many as its result tells, and touches no place of
packages before it has run them all. -/
theorem release_fails_fast {r : Except ReleaseError Report} (hproduct : IsName settings.product)
    (houtput : IsName settings.toolchainOutput) (hrunner : Spares runner P (Apart settings P))
    (hapart : Apart settings P w.machine)
    (h : w.Runs runner may (release settings toolchain host arch).run r w') :
    ∃ n, StoppedAfter n runner may settings toolchain host arch P w w' r := by
  cases runs_release h with
  | unready same =>
    have hsame : SameBelow P w.machine.files w'.machine.files := by
      rw [same.1]; exact SameBelow.refl _ _
    exact ⟨0, hsame.stopped (Or.inl rfl) (fun _ => same) (by simp) (by simp)⟩
  | @collided request before after path requested policy targets there unseen same =>
    have hsame : SameBelow P w.machine.files w'.machine.files := by
      rw [same.1]; exact SameBelow.refl _ _
    have hmem : path ∈ packageTargets settings request := by rw [targets]; simp
    exact ⟨0, hsame.stopped (Or.inr ⟨rfl, policy, request, path, requested, hmem, there, rfl⟩)
      (fun _ => same) (by simp) (by simp)⟩
  | @unbuilt request e requested free built =>
    have hsame := built.sameBelow hrunner hproduct houtput (fun _ => id) hapart
    exact ⟨1, hsame.stopped (Or.inl rfl) (by simp)
      (fun _ => ⟨request, default, requested, by simp [invocations, built.started]⟩) (by simp)⟩
  | @rejected request artifact w₁ e requested free built tested =>
    -- The first test stops the release after two processes, the second one after three.
    have hsame := (built.sameBelow hrunner hproduct houtput (fun _ => id) hapart).trans
      (tested.sameBelow hrunner)
    rcases tested.started with ⟨⟨e', he, habout⟩, hstarted⟩ | ⟨habout, hstarted⟩
    · obtain rfl := Except.error.inj he
      refine ⟨2, hsame.stopped (Or.inl (by simp [startsOf, habout])) (by simp)
        (fun _ => ⟨request, artifact.path, requested, ?_⟩) (by simp)⟩
      simp [invocations, hstarted, built.started]
    · refine ⟨3, hsame.stopped (Or.inl (by simp [startsOf, habout e rfl])) (by simp)
        (fun _ => ⟨request, artifact.path, requested, ?_⟩) (by simp)⟩
      simp [invocations, hstarted, built.started]
  | @unpacked request artifact verified w₁ w₂ e requested free built tested packaged =>
    -- Packaging starts nothing, so the three processes before it are all that ran.
    have hsame := (built.sameBelow hrunner hproduct houtput (fun _ => id) hapart).trans
      (tested.sameBelow hrunner)
    have hidle := packaged.idle ((package_only _ _).mono fun _ => Action.Stays.startsNothing)
    refine ⟨3, Or.inl rfl, by simp, fun _ => ⟨request, artifact.path, requested, ?_, by simp⟩,
      by simp, fun hc q node hq hnode => ?_, fun hc hmay e' he q data hq hdata => ?_⟩
    · rcases tested.started with ⟨⟨_, he, -⟩, -⟩ | ⟨-, hstarted⟩
      · simp at he
      · simp [invocations, hidle.2, hstarted, built.started]
    · apply (runs_package_fail hproduct hc packaged).1
      rw [hsame q hq, hnode]
    · rw [← hsame q hq]
      exact (runs_package_fail hproduct hc packaged).2 hmay e rfl q data hdata
  | @complete request artifact verified w₁ w₂ w₃ made requested free built tested packaged same =>
    have hsame := (built.sameBelow hrunner hproduct houtput (fun _ => id) hapart).trans
      (tested.sameBelow hrunner)
    have hidle := packaged.idle ((package_only _ _).mono fun _ => Action.Stays.startsNothing)
    refine ⟨3, Or.inl rfl, by simp, fun _ => ⟨request, artifact.path, requested, ?_, ?_⟩,
      by simp, fun hc q node hq hnode => ?_, by simp⟩
    · rcases tested.started with ⟨⟨_, he, -⟩, -⟩ | ⟨-, hstarted⟩
      · simp at he
      · simp [invocations, same.2.2, hidle.2, hstarted, built.started]
    · rintro report hr
      obtain rfl := Except.ok.inj hr
      exact ⟨rfl, rfl, rfl, rfl⟩
    · rw [same.1]
      apply (runs_package_fail hproduct hc packaged).1
      rw [hsame q hq, hnode]

/-- The fresh project's first release starts its three processes and keeps to all of this. -/
theorem fresh_release_starts_three : ∃ report w', freshWorld.Runs
      (honestRunner ["work"] .linux [0x7f] id) Refusals.never
      (release (rootSettings ["work"] .fail true) ⟨"/opt/dotnet"⟩ (.ok .linux) .amd64).run
      (.ok report) w' ∧
    StoppedAfter 3 (honestRunner ["work"] .linux [0x7f] id) Refusals.never
      (rootSettings ["work"] .fail true) ⟨"/opt/dotnet"⟩ (.ok .linux) .amd64
      (packagesPlace ["work"]) freshWorld w' (.ok report) := by
  have hready : Ready ["work"] ⟨.linux, .amd64⟩ "1.2.3" freshWorld.machine.files :=
    freshProject_ready _
  obtain ⟨report, w', hrun, -⟩ := hready.releases Refusals.never ⟨"/opt/dotnet"⟩ .fail [0x7f]
    (freshProject_buildable .linux) (freshProject_unpackaged _ true)
  have hspares : Spares (honestRunner ["work"] .linux [0x7f] id) (packagesPlace ["work"])
      (Apart (rootSettings ["work"] .fail true) (packagesPlace ["work"])) :=
    spares_honestRunner (fun _ => apart_publish) (fun _ => id) (SameBelow.refl _)
  have hapart : Apart (rootSettings ["work"] .fail true) (packagesPlace ["work"])
      freshWorld.machine := hready.clear.apart hready.plain
  obtain ⟨n, hn⟩ := release_fails_fast (isName_product _ _ _) (isName_toolchainOutput _ _ _)
    hspares hapart hrun
  refine ⟨report, w', hrun, ?_⟩
  rcases hn.count with rfl | ⟨-, -, request, path, -, -, -, hr⟩
  · exact hn
  · simp at hr

/-! ## A build directory that was led elsewhere -/

/-- A project with a file among its packages. -/
def usedProject : FileSystem where
  entries := (["work", "packages"], .directory newDirectoryMode)
    :: (["work", "packages", toolchainOutputName], .file ⟨2, [], newFileMode, 0⟩)
    :: freshProject.entries
  nextSerial := 3

def usedWorld : World Unit := { machine := { files := usedProject }, runner := () }

/-- Leaves the packages alone, but makes the build directory lead there. The binary fails. -/
def leadingRunner : Runner Unit := fun i m s =>
  if i.args.head? = some "publish" then
    (.ok { code := some 0 },
      { m with files := m.files.put (buildPlace ["work"]) (.link "/work/packages") }, s)
  else (.ok { code := some 1 }, m, s)

theorem leadingRunner_spares (i : Invocation) (m : Machine) (s : Unit) :
    SameBelow (packagesPlace ["work"]) m.files (leadingRunner i m s).2.1.files := by
  unfold leadingRunner
  split_ifs
  · refine fun q hq => node?_put_of_ne ?_
    rintro rfl
    exact (buildPlace_apart _).2 hq
  · exact SameBelow.refl _ _

/-- The first test of the binary fails, but the file among the packages was moved. -/
theorem leadingRunner_moves : ∃ e w', usedWorld.Runs leadingRunner Refusals.never
      (release (rootSettings ["work"] .fail false) ⟨"/opt/dotnet"⟩ (.ok .linux) .amd64).run
      (.error (.verification e)) w' ∧
    w'.machine.files.node? ["work", "packages", toolchainOutputName] = none := by
  let program := (release (rootSettings ["work"] .fail false) ⟨"/opt/dotnet"⟩ (.ok .linux) .amd64).run
  have hresult : (usedWorld.run leadingRunner program).1
      = .error (.verification (.formatFailed ⟨"/work/packages/fxml"⟩ (some 1) "")) := by
    decide +kernel
  exact ⟨_, _, hresult ▸ runs_run _ _ _ _, by decide +kernel⟩

theorem usedProject_clear : Clear ["work"] usedWorld.machine := by
  have hordinary : ∀ q, usedProject.Ordinary q := ordinary_of_entries (by decide)
  exact ⟨fun q _ => (hordinary q).1, fun q _ => (hordinary q).1⟩

/-- When the runner makes the build directory lead to the packages, a release that fails its first
test has changed them. -/
theorem leading_runner_changes_packages :
    Apart (rootSettings ["work"] .fail false) (packagesPlace ["work"]) usedWorld.machine ∧
    (∀ i m s, SameBelow (packagesPlace ["work"]) m.files (leadingRunner i m s).2.1.files) ∧
    ∃ e w', usedWorld.Runs leadingRunner Refusals.never
        (release (rootSettings ["work"] .fail false) ⟨"/opt/dotnet"⟩ (.ok .linux) .amd64).run
        (.error (.verification e)) w' ∧
      ¬ SameBelow (packagesPlace ["work"]) usedWorld.machine.files w'.machine.files := by
  obtain ⟨e, w', hrun, hgone⟩ := leadingRunner_moves
  refine ⟨usedProject_clear.apart (by decide), leadingRunner_spares, e, w', hrun, fun hsame => ?_⟩
  have hkept := hsame ["work", "packages", toolchainOutputName] (by decide)
  rw [hgone] at hkept
  exact absurd hkept (by decide)

end Slipway
