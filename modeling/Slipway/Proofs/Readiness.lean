import Slipway.Proofs.Layout
import Slipway.Proofs.Progress

/-!
# Projects in order

A release of a project whose directories and version file are in order goes as far as the runner
lets it. With a toolchain that publishes and a binary that passes its tests it packages the binary.
-/

namespace Slipway

open FileSystem World

variable {σ : Type} {may : Refusals} {R : Location} {p : Platform} {version : String} {m : Machine}
  {collision : CollisionPolicy} {checksum : Bool} {toolchain : Path} {content : Bytes}
  {fs fs' : FileSystem} {here : Location}

/-! ## What has to be in order -/

/-- The locations below the root that a release names, without the checksum file. -/
def layoutOf (p : Platform) : List Location := [
  ["src", "version.txt"],
  ["src", "build", p.os.executable toolchainOutputName],
  ["src", "build", p.os.executable productName],
  ["packages"],
  ["packages", p.packageName productName]]

/-- The project is ready to be released, whatever was released before. -/
structure Ready (R : Location) (p : Platform) (version : String) (fs : FileSystem) : Prop where
  plain : Plain R
  sizes : ∀ name ∈ R, name.utf8ByteSize ≤ maxNameBytes
  named : ∀ names ∈ layoutOf p, refuse? (pathOf (R ++ names)) = none
  sidecarNamed : refuse? (checksumPath (pathOf (packagePlace R p))) = none
  version : ∃ data, fs.node? (versionPlace R) = some (.file data) ∧ ownerReads data.mode = true ∧
    versionOfLine (pathOf (versionPlace R)) (firstLine data.content) = .ok version
  directories : ∀ q, q <+: buildPlace R → fs.Enterable q
  root : fs.Changeable R
  buildable : fs.Changeable (buildPlace R)
  produced : ∀ node, fs.node? (producedPlace R p.os) = some node → ¬ node.leads
  packages : fs.node? (packagesPlace R) = none ∨
    fs.node? (packagesPlace R) = some (.directory newDirectoryMode)

/-- The binary can be replaced, if one is there. -/
def Buildable (R : Location) (os : Os) (fs : FileSystem) : Prop :=
  ∀ node, fs.node? (binaryPlace R os) = some node → ¬ node.leads

/-- Nothing is in the way of a package for the platform. -/
structure Unpackaged (R : Location) (p : Platform) (checksum : Bool) (fs : FileSystem) : Prop where
  package : fs.node? (packagePlace R p) = none
  sidecar : checksum = true → fs.node? (sidecarPlace R p) = none

namespace Ready

variable (h : Ready R p version fs)

include h

theorem plain_src : Plain (R ++ ["src"]) := h.plain.append (by decide)

theorem reaches {P : Location} (hP : P <+: buildPlace R) : fs.Reaches here (pathOf P) P := by
  have hplain : Plain (buildPlace R) := plain_buildPlace h.plain
  refine reaches_pathOf (fun name hn => hplain name (hP.subset hn)) (fun name hn => ?_)
    (fun q hq => h.directories q (hq.trans hP))
  have hnames : ∀ name ∈ ["src", "build"], name.utf8ByteSize ≤ maxNameBytes := by decide
  rcases List.mem_append.mp (hP.subset hn) with hn | hn
  · exact h.sizes name hn
  · exact hnames name hn

theorem direct_build : fs.Direct (buildPlace R) := by
  intro q hq target
  obtain ⟨mode, hdir, -⟩ := h.directories q hq
  simp [hdir]

theorem direct_packages : fs.Direct (packagesPlace R) := by
  intro q hq target
  rcases List.prefix_concat_iff.mp hq with rfl | hq
  · rcases h.packages with hnone | hdir
    · unfold packagesPlace at hnone
      simp [hnone]
    · unfold packagesPlace at hdir
      simp [hdir]
  · obtain ⟨mode, hdir, -⟩ := h.directories q (hq.trans (List.prefix_append _ _))
    simp [hdir]

theorem findNode_version {data : FileData}
    (hdata : fs.node? (versionPlace R) = some (.file data)) :
    fs.findNode here (pathOf (versionPlace R)) = .ok (versionPlace R, .file data) := by
  have hn : IsName "version.txt" := by decide
  have hpath : pathOf (versionPlace R) = (pathOf (R ++ ["src"])).join "version.txt" := by
    rw [hn.join_pathOf h.plain_src]
    simp [versionPlace]
  have hplace : R ++ ["src"] ++ ["version.txt"] = versionPlace R := by simp [versionPlace]
  have hreach : fs.Reaches here (pathOf (R ++ ["src"])) (R ++ ["src"]) :=
    h.reaches (by simp [buildPlace])
  refine findNode_eq_ok.mpr ?_
  rw [hpath, hreach.find hn ?_ (by decide) ?_, hplace, hdata]
  · rw [← hpath]
    exact h.named _ (by simp [layoutOf])
  · rw [hplace, hdata]
    simp

theorem buildDir_join {name : String} (hn : IsName name) :
    (rootSettings R collision checksum).buildDir.join name = pathOf (buildPlace R ++ [name]) := by
  rw [buildDir_eq collision checksum h.plain]
  exact hn.join_pathOf (plain_buildPlace h.plain)

theorem reaches_buildDir :
    fs.Reaches here (rootSettings R collision checksum).buildDir (buildPlace R) := by
  rw [buildDir_eq collision checksum h.plain]
  exact h.reaches (List.prefix_refl _)

theorem named_produced (collision : CollisionPolicy) (checksum : Bool) :
    refuse? (producedPath (rootSettings R collision checksum) p.os) = none := by
  rw [producedPath_join, h.buildDir_join (isName_produced p.os)]
  have hnamed := h.named ["src", "build", p.os.executable toolchainOutputName] (by simp [layoutOf])
  simpa [buildPlace] using hnamed

theorem named_binary (collision : CollisionPolicy) (checksum : Bool) :
    refuse? (canonicalPath (rootSettings R collision checksum) p.os) = none := by
  rw [canonicalPath_eq collision checksum h.plain]
  have hnamed := h.named ["src", "build", p.os.executable productName] (by simp [layoutOf])
  simpa [binaryPlace, buildPlace] using hnamed

end Ready

theorem Ready.clear {m : Machine} (h : Ready R p version m.files) : Clear R m :=
  ⟨h.direct_packages, h.direct_build⟩

theorem size_executable (os : Os) : (os.executable toolchainOutputName).utf8ByteSize ≤ maxNameBytes ∧
    (os.executable productName).utf8ByteSize ≤ maxNameBytes := by
  cases os <;> decide

/-! ## Before the build -/

theorem Ready.resolves {w : World σ} {runner : Runner σ} (h : Ready R p version w.machine.files) :
    ∃ w', w.Runs runner may (resolveVersion (rootSettings R collision checksum).versionFile).run
      (.ok version) w' ∧ w'.machine = w.machine ∧ w'.runner = w.runner := by
  obtain ⟨data, hdata, hreads, hversion⟩ := h.version
  rw [versionFile_eq collision checksum h.plain]
  rw [← hversion]
  exact resolveVersion_ends (h.findNode_version hdata) hreads

theorem mem_packageTargets_iff {settings : Settings} {request : BuildRequest} {path : Path} :
    path ∈ packageTargets settings request ↔ path = packagePath settings request ∨
      settings.checksum = true ∧ path = checksumPath (packagePath settings request) := by
  unfold packageTargets
  dsimp only
  split <;> simp_all

theorem Ready.free {request : BuildRequest} (h : Ready R request.platform version fs)
    (hnone : Unpackaged R request.platform checksum fs) :
    ∀ path ∈ packageTargets (rootSettings R collision checksum) request,
      fs.exists? here path = false := by
  have hn : IsName (request.platform.packageName productName) := isName_packageName (by decide) _
  have hplace : ∀ place, fs.Reaches here (rootSettings R collision checksum).packagesDir place →
      place = packagesPlace R := fun _ => place_of_packagesDir h.plain h.direct_packages
  have hpackage : fs.exists? here (packagePath (rootSettings R collision checksum) request) = false := by
    rw [packagePath_join]
    refine exists?_join hn (fun place hreach => ?_)
    rw [hplace place hreach]
    exact hnone.package
  intro path hpath
  rcases mem_packageTargets_iff.mp hpath with hpath | ⟨hc, hpath⟩
  · rw [hpath]
    exact hpackage
  · obtain ⟨up, hway, hup⟩ := checksumPath_join hn (rootSettings R collision checksum).packagesDir
    rw [hpath, packagePath_join, hup]
    refine exists?_join (isName_checksumName hn) (fun place hreach => ?_)
    rw [hplace place ((reaches_sameWay hway).mp hreach)]
    exact hnone.sidecar hc

/-! ## A toolchain that works and a binary that passes -/

/-- The files after `content` was published for `os`. -/
def publish (R : Location) (os : Os) (content : Bytes) (fs : FileSystem) : FileSystem :=
  { fs.put (producedPlace R os) (.file ⟨fs.nextSerial, content, newDirectoryMode, 0⟩) with
    nextSerial := fs.nextSerial + 1 }

/-- Publishes `content`, which passes its tests. The last test does `spoil` to the files. -/
def honestRunner (R : Location) (os : Os) (content : Bytes) (spoil : FileSystem → FileSystem) :
    Runner Unit := fun i m s =>
  if i.args.head? = some "publish" then
    (.ok { code := some 0 }, { m with files := publish R os content m.files }, s)
  else if i.args = [] then
    (.ok { code := some 0, stdout := Utf8.encode formatExpected }, m, s)
  else (.ok { code := some 1 }, { m with files := spoil m.files }, s)

theorem not_fixed_produced (R : Location) (os : Os) : ¬ Fixed (producedPlace R os) :=
  not_fixed_append (isName_produced os).ne_empty

theorem publish_self (R : Location) (os : Os) (content : Bytes) (fs : FileSystem) :
    (publish R os content fs).node? (producedPlace R os)
      = some (.file ⟨fs.nextSerial, content, newDirectoryMode, 0⟩) :=
  node?_put_self (not_fixed_produced R os)

theorem publish_sameOff (R : Location) (os : Os) (content : Bytes) (fs : FileSystem) :
    SameOff (producedPlace R os) fs (publish R os content fs) :=
  fun _ hq => node?_put_of_ne hq

theorem publish_keeps (R : Location) (os : Os) (content : Bytes) (fs : FileSystem) :
    Keeps (publish R os content fs) fs := by
  refine (publish_sameOff R os content fs).symm.keeps (fun node hnode => ?_)
  rw [publish_self, Option.some.injEq] at hnode
  subst hnode
  exact id

theorem publish_direct {os : Os} {content : Bytes} {place : Location} (h : fs.Direct place) :
    (publish R os content fs).Direct place := by
  intro q hq target
  by_cases hproduced : q = producedPlace R os
  · subst hproduced
    simp [publish_self]
  · rw [publish_sameOff R os content fs q hproduced]
    exact h q hq target

/-- What makes a project ready is only looked for at a few places. -/
theorem Ready.of_same (h : Ready R p version fs)
    (hway : ∀ q, q <+: buildPlace R → fs'.node? q = fs.node? q)
    (hversion : fs'.node? (versionPlace R) = fs.node? (versionPlace R))
    (hproduced : ∀ node, fs'.node? (producedPlace R p.os) = some node → ¬ node.leads)
    (hpackages : fs'.node? (packagesPlace R) = fs.node? (packagesPlace R) ∨
      fs'.node? (packagesPlace R) = some (.directory newDirectoryMode)) : Ready R p version fs' where
  plain := h.plain
  sizes := h.sizes
  named := h.named
  sidecarNamed := h.sidecarNamed
  version := by rw [hversion]; exact h.version
  directories q hq := by
    unfold Enterable
    rw [hway q hq]
    exact h.directories q hq
  root := by
    unfold Changeable
    rw [hway R (List.prefix_append _ _)]
    exact h.root
  buildable := by
    unfold Changeable
    rw [hway _ (List.prefix_refl _)]
    exact h.buildable
  produced := hproduced
  packages := by
    rcases hpackages with hsame | hdir
    · rw [hsame]
      exact h.packages
    · exact Or.inr hdir

theorem ne_of_way {q : Location} {name : String} (hq : q <+: buildPlace R) :
    q ≠ buildPlace R ++ [name] := by
  rintro rfl
  have hlen := hq.length_le
  rw [List.length_append, List.length_singleton] at hlen
  omega

theorem binary_ne_produced (R : Location) (os : Os) : binaryPlace R os ≠ producedPlace R os := by
  intro heq
  exact produced_ne_binary os (List.singleton_inj.mp (List.append_cancel_left heq)).symm

theorem versionPlace_ne (name : String) : versionPlace R ≠ buildPlace R ++ [name] := by
  intro heq
  have hlen := congrArg List.length heq
  simp [versionPlace, buildPlace] at hlen

theorem packagesPlace_ne (name : String) : packagesPlace R ≠ buildPlace R ++ [name] :=
  ne_build_of_packages (List.prefix_refl _)

theorem Ready.published (h : Ready R p version fs) (content : Bytes) :
    Ready R p version (publish R p.os content fs) := by
  have hsame := publish_sameOff R p.os content fs
  refine h.of_same (fun q hq => hsame q (ne_of_way hq)) (hsame _ (versionPlace_ne _))
    (fun node hnode => ?_) (Or.inl (hsame _ (packagesPlace_ne _)))
  rw [publish_self, Option.some.injEq] at hnode
  subst hnode
  exact id

theorem Moved.ready {m m' : Machine} (hm : Moved R p.os m m') (h : Ready R p version m.files) :
    Ready R p version m'.files := by
  have hapart : ∀ {q : Location}, q.length ≤ (buildPlace R).length →
      m'.files.node? q = m.files.node? q := by
    intro q hq
    refine hm.same q (fun hpre => ?_) (fun hpre => ?_) <;>
    · have hlen := hpre.length_le
      simp [producedPlace, binaryPlace] at hlen
      omega
  refine h.of_same (fun q hq => hapart hq.length_le) (hapart (by simp [versionPlace, buildPlace]))
    (fun node hnode => ?_) (Or.inl (hapart (by simp [packagesPlace, buildPlace])))
  rw [hm.produced] at hnode
  simp at hnode

/-! ## The build and the tests -/

/-- The build of a project that is ready gives the published binary its canonical name. -/
theorem Ready.builds {w : World Unit} {spoil : FileSystem → FileSystem}
    (h : Ready R p version w.machine.files) (hfree : Buildable R p.os w.machine.files) :
    ∃ w', w.Runs (honestRunner R p.os content spoil) may
        (build toolchain (rootSettings R collision checksum) ⟨p.arch, version, p.os⟩).run
        (.ok ⟨pathOf (binaryPlace R p.os), p.arch, version, p.os⟩) w' ∧
      Moved R p.os { w.machine with files := publish R p.os content w.machine.files } w'.machine := by
  let m : Machine := { w.machine with files := publish R p.os content w.machine.files }
  have hready : Ready R p version m.files := h.published content
  have hreach : m.files.Reaches m.directory (rootSettings R collision checksum).buildDir
      (buildPlace R) := hready.reaches_buildDir
  have hnode : m.files.node? (producedPlace R p.os)
      = some (.file ⟨w.machine.files.nextSerial, content, newDirectoryMode, 0⟩) :=
    publish_self R p.os content w.machine.files
  obtain ⟨hsize, hsize'⟩ := size_executable p.os
  have hnamed := hready.named_produced collision checksum
  have hnamed' := hready.named_binary collision checksum
  rw [producedPath_join] at hnamed
  rw [canonicalPath_join] at hnamed'
  have hregular : m.files.satisfies m.directory
      (producedPath (rootSettings R collision checksum) p.os) Node.isRegular = true := by
    have hfind := hreach.find (isName_produced p.os) hnamed hsize (by
      change ∀ target, m.files.node? (producedPlace R p.os) ≠ _
      simp [hnode])
    have hfound : m.files.findNode m.directory
        ((rootSettings R collision checksum).buildDir.join (p.os.executable toolchainOutputName))
          = .ok (producedPlace R p.os, _) :=
      findNode_eq_ok.mpr (hfind.trans (congrArg (fun node => Except.ok
        (Spot.mk (producedPlace R p.os) node)) hnode))
    rw [producedPath_join, FileSystem.satisfies, hfound]
    rfl
  obtain ⟨moved, hmoved⟩ := renameWith_of_reaches (isName_produced p.os) (isName_binary p.os)
    (produced_ne_binary p.os) hreach hnamed hnamed' hsize hsize' hready.buildable hnode rfl
    (fun mode hdir => hfree _ ((publish_sameOff R p.os content _ _
      (binary_ne_produced R p.os)).symm.trans hdir) trivial)
  obtain ⟨path, w', hbuild, hmachine, -⟩ : ∃ path w', w.Runs (honestRunner R p.os content spoil) may
      (build toolchain (rootSettings R collision checksum) ⟨p.arch, version, p.os⟩).run
      (.ok ⟨path, p.arch, version, p.os⟩) w' ∧ _ := build_ends (m := m) (s := w.runner) rfl rfl
    hregular hmoved
  have hmove : Moved R p.os m w'.machine := by
    rw [hmachine]
    exact moved_of_renamed h.plain hready.direct_build hmoved
  -- The canonical name is found without a link, so it is told as it is spelled.
  have hbinary : w'.machine.files.Direct (binaryPlace R p.os) := by
    intro q hq target
    rcases List.prefix_concat_iff.mp hq with rfl | hq
    · have hsame := hmove.binary
      unfold binaryPlace at hsame
      rw [hsame, hnode]
      simp
    · exact (hmove.ready hready).direct_build q hq target
  cases runs_build hbuild with
  | moved called success seen renamed machine idle found =>
    rw [path_of_found h.plain hbinary found] at hbuild
    exact ⟨w', hbuild, hmove⟩

theorem judgeFormat_expected (binary : Path) :
    judgeFormat binary { code := some 0, stdout := Utf8.encode formatExpected } = .ok () := by
  have hout : Utf8.decodeLossy (Utf8.encode formatExpected) = formatExpected := by decide
  simp [judgeFormat, ProcessOutput.success, ProcessOutput.stdoutText, hout]

/-- A project that is ready gets to its packaging. The files are those of the build, after what the
last test did to them. -/
theorem Ready.tests (may : Refusals) (toolchain : Path) (collision : CollisionPolicy)
    (checksum : Bool) (content : Bytes) (spoil : FileSystem → FileSystem) {w : World Unit}
    (h : Ready R p version w.machine.files) (hbuildable : Buildable R p.os w.machine.files)
    (hfree : collision = .fail → Unpackaged R p checksum w.machine.files) :
    ∃ (verified : VerifiedArtifact) (m : Machine) (w₁ : World Unit),
      verified.artifact = ⟨pathOf (binaryPlace R p.os), p.arch, version, p.os⟩ ∧
      Moved R p.os { w.machine with files := publish R p.os content w.machine.files } m ∧
      w₁.machine = { m with files := spoil m.files } ∧
      ∀ made w₂, w₁.Runs (honestRunner R p.os content spoil) may
          (package (rootSettings R collision checksum) verified).run made w₂ →
        ∃ w', w.Runs (honestRunner R p.os content spoil) may
            (release (rootSettings R collision checksum) toolchain (.ok p.os) p.arch).run
            (outcomeOf ⟨p.arch, version, p.os⟩ verified.artifact verified made) w' ∧
          w'.machine = w₂.machine := by
  let request : BuildRequest := ⟨p.arch, version, p.os⟩
  obtain ⟨w₁, hversion, hm₁, -⟩ : ∃ w₁, w.Runs (honestRunner R p.os content spoil) may
      (resolveVersion (rootSettings R collision checksum).versionFile).run (.ok version) w₁ ∧
        w₁.machine = w.machine ∧ w₁.runner = w.runner := h.resolves
  have hready : Ready R request.platform version w₁.machine.files := hm₁ ▸ h
  have hensure : w₁.Runs (honestRunner R p.os content spoil) may
      (ensureAvailable (rootSettings R collision checksum) request).run (.ok ()) w₁ :=
    ensureAvailable_ends (fun hc => hready.free (hm₁ ▸ hfree hc))
  obtain ⟨w₂, hbuild, hmoved⟩ : ∃ w₂, w₁.Runs (honestRunner R p.os content spoil) may
      (build toolchain (rootSettings R collision checksum) request).run
        (.ok ⟨pathOf (binaryPlace R p.os), request⟩) w₂ ∧ _ := hready.builds (hm₁ ▸ hbuildable)
  obtain ⟨outcomes, w₃, hverify, hm₃, -⟩ : ∃ outcomes w₃, w₂.Runs
      (honestRunner R p.os content spoil) may (verify ⟨pathOf (binaryPlace R p.os), request⟩).run
        (.ok ⟨⟨pathOf (binaryPlace R p.os), request⟩, outcomes⟩) w₃ ∧ _ :=
    verify_ends (s := w₂.runner) (m := w₂.machine) rfl (judgeFormat_expected _) rfl rfl
  refine ⟨⟨⟨pathOf (binaryPlace R p.os), request⟩, outcomes⟩, w₂.machine, w₃, rfl, hm₁ ▸ hmoved,
    hm₃, fun made w₄ hpackage => ?_⟩
  exact release_ends hversion hensure hbuild hverify hpackage

/-! ## The packaging -/

theorem Ready.reaches_packages (h : Ready R p version fs)
    (hdir : fs.node? (packagesPlace R) = some (.directory newDirectoryMode)) :
    fs.Reaches here (rootSettings R collision checksum).packagesDir (packagesPlace R) := by
  rw [packagesDir_eq collision checksum h.plain]
  refine reaches_pathOf (plain_packagesPlace h.plain) (fun name hn => ?_) (fun q hq => ?_)
  · rcases List.mem_append.mp hn with hn | hn
    · exact h.sizes name hn
    · rw [List.mem_singleton.mp hn]
      decide
  · rcases List.prefix_concat_iff.mp hq with rfl | hq
    · exact ⟨newDirectoryMode, hdir, by decide⟩
    · exact h.directories q (hq.trans (List.prefix_append _ _))

-- The lineage of a path that is given in part takes long to unfold, and no proof needs it here.
seal lineage

theorem Ready.makes (runner : Runner σ) (may : Refusals) (collision : CollisionPolicy)
    (checksum : Bool) {w : World σ} (h : Ready R p version w.machine.files) :
    ∃ w', w.Runs runner may
        (makeDirectories (rootSettings R collision checksum).packagesDir).run (.ok ()) w' ∧
      w'.machine.files.node? (packagesPlace R) = some (.directory newDirectoryMode) ∧
      SameOff (packagesPlace R) w.machine.files w'.machine.files := by
  have hn : IsName packagesDirName := by decide
  have hnamed := h.named ["packages"] (by simp [layoutOf])
  have hreach : w.machine.files.Reaches w.machine.directory (pathOf R) R :=
    h.reaches (List.prefix_append _ _)
  rw [packagesDir_join]
  obtain ⟨w', hmake, -, -, hdir, hsame⟩ : ∃ w', w.Runs runner may
      (makeDirectories ((pathOf R).join packagesDirName)).run (.ok ()) w' ∧ _ :=
    makeDirectories_ends hn hreach (by rwa [hn.join_pathOf h.plain]) (by decide) h.root h.packages
  exact ⟨w', hmake, hdir, hsame⟩

theorem Ready.findNode_binary (h : Ready R p version fs) {node : Node}
    (hnode : fs.node? (binaryPlace R p.os) = some node) (hlink : ∀ target, node ≠ .link target) :
    fs.findNode here (pathOf (binaryPlace R p.os)) = .ok (binaryPlace R p.os, node) := by
  have hnamed := h.named_binary .fail false
  rw [canonicalPath_eq _ _ h.plain] at hnamed
  have hn := isName_binary p.os
  have hpath : pathOf (binaryPlace R p.os)
      = (pathOf (buildPlace R)).join (p.os.executable productName) :=
    (hn.join_pathOf (plain_buildPlace h.plain)).symm
  have hreach : fs.Reaches here (pathOf (buildPlace R)) (buildPlace R) :=
    h.reaches (List.prefix_refl _)
  have hplace : buildPlace R ++ [p.os.executable productName] = binaryPlace R p.os := rfl
  rw [hpath] at hnamed ⊢
  refine findNode_eq_ok.mpr ?_
  rw [hreach.find hn hnamed (size_executable p.os).2, hplace, hnode]
  intro target
  rw [hplace, hnode, Ne, Option.some.injEq]
  exact hlink target

theorem isGone_of_plain {place : Location} (hp : Plain place) : isGone place = false := by
  cases hgone : isGone place with
  | false => rfl
  | true =>
    obtain ⟨front, rfl⟩ := List.getLast?_eq_some_iff.mp (of_decide_eq_true hgone)
    exact absurd rfl (hp "" (by simp)).ne_empty

theorem changeable_of_node {place : Location} (hp : Plain place)
    (h : fs.node? place = some (.directory newDirectoryMode)) : fs.Changeable place :=
  ⟨isGone_of_plain hp, newDirectoryMode, h, by decide⟩

theorem tar_place_executable (os : Os) : ∃ fields, Tar.place (os.executable productName) = .ok fields := by
  cases os <;> exact ⟨_, rfl⟩

theorem size_checksumName (p : Platform) :
    (checksumName (p.packageName productName)).utf8ByteSize ≤ maxNameBytes := by
  obtain ⟨os, arch⟩ := p
  cases os <;> cases arch <;> decide

theorem packagesDir_join_name (collision : CollisionPolicy) (checksum : Bool) {name : String}
    (hR : Plain R) (hn : IsName name) :
    (rootSettings R collision checksum).packagesDir.join name = pathOf (packagesPlace R ++ [name]) := by
  rw [packagesDir_eq collision checksum hR]
  exact hn.join_pathOf (plain_packagesPlace hR)

theorem isName_package (p : Platform) : IsName (p.packageName productName) :=
  isName_packageName (by decide) p

theorem Ready.named_package (h : Ready R p version fs) (collision : CollisionPolicy)
    (checksum : Bool) :
    refuse? ((rootSettings R collision checksum).packagesDir.join (p.packageName productName))
      = none := by
  rw [packagesDir_join_name collision checksum h.plain (isName_package p)]
  simpa [packagesPlace] using h.named ["packages", p.packageName productName] (by simp [layoutOf])

theorem Ready.packable {verified : VerifiedArtifact} {data : FileData} (h : Ready R p version fs)
    (hverified : verified.artifact = ⟨pathOf (binaryPlace R p.os), p.arch, version, p.os⟩)
    (hdir : fs.node? (packagesPlace R) = some (.directory newDirectoryMode))
    (hbinary : fs.node? (binaryPlace R p.os) = some (.file data)) (hreads : ownerReads data.mode = true)
    (hnone : Unpackaged R p checksum fs) :
    Packable (rootSettings R collision checksum) verified fs here (packagesPlace R) := by
  have hplatform : verified.artifact.request.platform = p := by rw [hverified]; rfl
  have hpackage : packagePath (rootSettings R collision checksum) verified.artifact.request
      = pathOf (packagePlace R p) := by
    rw [packagePath_join, hplatform]
    exact packagesDir_join_name collision checksum h.plain (isName_package p)
  refine ⟨⟨binaryPlace R p.os, data, ?_, hreads⟩, ?_, ?_, fun hc => ?_⟩
  · rw [hverified]
    exact h.findNode_binary hbinary (by simp)
  · rw [hverified]
    exact tar_place_executable p.os
  · rw [hplatform]
    exact ⟨isName_package p, size_packageName p, h.reaches_packages hdir,
      h.named_package collision checksum, changeable_of_node (plain_packagesPlace h.plain) hdir,
      hnone.package⟩
  · rw [hplatform, hpackage]
    exact ⟨hnone.sidecar hc, h.sidecarNamed, size_checksumName p⟩

/-! ## The release -/

theorem Ready.elsewhere (h : Ready R p version fs)
    (hsame : ∀ q, ¬ packagesPlace R <+: q → fs'.node? q = fs.node? q)
    (hdir : fs'.node? (packagesPlace R) = some (.directory newDirectoryMode)) :
    Ready R p version fs' := by
  have hbuild : ∀ name, fs'.node? (buildPlace R ++ [name]) = fs.node? (buildPlace R ++ [name]) :=
    fun name => hsame _ (fun hq => ne_build_of_packages hq rfl)
  have hversion : ¬ packagesPlace R <+: versionPlace R := by
    unfold packagesPlace versionPlace
    rw [List.prefix_append_right_inj]
    decide
  exact h.of_same (fun q hq => hsame q (fun hP => (buildPlace_apart R).2 (hP.trans hq)))
    (hsame _ hversion) (fun node hnode => h.produced node ((hbuild _).symm.trans hnode))
    (Or.inr hdir)

theorem Unpackaged.of_same (h : Unpackaged R p checksum fs)
    (hsame : ∀ name, fs'.node? (packagesPlace R ++ [name]) = fs.node? (packagesPlace R ++ [name])) :
    Unpackaged R p checksum fs' :=
  ⟨(hsame _).trans h.package, fun hc => (hsame _).trans (h.sidecar hc)⟩

theorem Moved.packages {m m' : Machine} {os : Os} (h : Moved R os m m') (name : String) :
    m'.files.node? (packagesPlace R ++ [name]) = m.files.node? (packagesPlace R ++ [name]) := by
  refine h.same _ (fun hq => ?_) (fun hq => ?_) <;>
  · rcases List.prefix_concat_iff.mp hq with heq | hq
    · exact packages_ne_build _ _ heq.symm
    · exact (buildPlace_apart R).1 ((List.prefix_append _ _).trans hq)

/-- The package for the platform is there and can be replaced, and so can the binary. -/
structure Stocked (R : Location) (p : Platform) (fs : FileSystem) : Prop where
  buildable : Buildable R p.os fs
  directory : fs.node? (packagesPlace R) = some (.directory newDirectoryMode)
  package : ∃ data, fs.node? (packagePlace R p) = some (.file data) ∧ data.mode = newFileMode

theorem buildable_of_file {os : Os} {data : FileData}
    (h : fs.node? (binaryPlace R os) = some (.file data)) : Buildable R os fs := by
  intro node hnode
  rw [h, Option.some.injEq] at hnode
  subst hnode
  exact id

/-- What a release of a ready project has come to when its directory of packages is there. -/
structure Prepared (R : Location) (p : Platform) (version : String) (content : Bytes)
    (spoil : FileSystem → FileSystem) (w w₁ : World Unit) : Prop where
  ready : Ready R p version w₁.machine.files
  directory : w₁.machine.files.node? (packagesPlace R) = some (.directory newDirectoryMode)
  packages : ∀ name, w₁.machine.files.node? (packagesPlace R ++ [name])
    = w.machine.files.node? (packagesPlace R ++ [name])
  binary : ∃ m, Moved R p.os { w.machine with files := publish R p.os content w.machine.files } m ∧
    w₁.machine.files.node? (binaryPlace R p.os) = (spoil m.files).node? (binaryPlace R p.os)

theorem Ready.prepares (may : Refusals) (toolchain : Path) (collision : CollisionPolicy)
    (checksum : Bool) (content : Bytes) (spoil : FileSystem → FileSystem) {w : World Unit}
    (h : Ready R p version w.machine.files) (hbuildable : Buildable R p.os w.machine.files)
    (hfree : collision = .fail → Unpackaged R p checksum w.machine.files)
    (hspoil : ∀ fs, Ready R p version fs → Ready R p version (spoil fs) ∧
      ∀ name, (spoil fs).node? (packagesPlace R ++ [name]) = fs.node? (packagesPlace R ++ [name])) :
    ∃ (verified : VerifiedArtifact) (w₁ w₂ : World Unit),
      verified.artifact = ⟨pathOf (binaryPlace R p.os), p.arch, version, p.os⟩ ∧
      w₁.Runs (honestRunner R p.os content spoil) may
        (makeDirectories (rootSettings R collision checksum).packagesDir).run (.ok ()) w₂ ∧
      Prepared R p version content spoil w w₂ ∧
      ∀ made w₃, w₁.Runs (honestRunner R p.os content spoil) may
          (package (rootSettings R collision checksum) verified).run made w₃ →
        ∃ w', w.Runs (honestRunner R p.os content spoil) may
            (release (rootSettings R collision checksum) toolchain (.ok p.os) p.arch).run
            (outcomeOf ⟨p.arch, version, p.os⟩ verified.artifact verified made) w' ∧
          w'.machine = w₃.machine := by
  obtain ⟨verified, m, w₁, hverified, hmoved, hm, hrelease⟩ :=
    h.tests may toolchain collision checksum content spoil hbuildable hfree
  have hfiles : w₁.machine.files = spoil m.files := by rw [hm]
  obtain ⟨hready, hspared⟩ := hspoil _ (hmoved.ready (h.published content))
  rw [← hfiles] at hready
  obtain ⟨w₂, hdirs, hdir, hsame⟩ := hready.makes (honestRunner R p.os content spoil) may collision
    checksum
  have hapart : binaryPlace R p.os ≠ packagesPlace R := (packagesPlace_ne _).symm
  refine ⟨verified, w₁, w₂, hverified, hdirs, ⟨?_, hdir, fun name => ?_, m, hmoved, ?_⟩, hrelease⟩
  · exact hready.elsewhere (fun q hq => hsame q (fun heq => hq (heq ▸ List.prefix_refl _))) hdir
  · rw [hsame _ (ne_packagesPlace name), hfiles, hspared, hmoved.packages]
    exact publish_sameOff R p.os content _ _ (packages_ne_build _ _)
  · rw [hsame _ hapart, hfiles]

/-- A ready project is released when its package is not there yet, and is ready again then. -/
theorem Ready.releases (may : Refusals) (toolchain : Path) (collision : CollisionPolicy)
    (content : Bytes) {w : World Unit} (h : Ready R p version w.machine.files)
    (hbuildable : Buildable R p.os w.machine.files)
    (hnone : Unpackaged R p checksum w.machine.files) :
    ∃ report w', w.Runs (honestRunner R p.os content id) may
        (release (rootSettings R collision checksum) toolchain (.ok p.os) p.arch).run (.ok report) w' ∧
      report.platform = p.os ∧ report.arch = p.arch ∧ Ready R p version w'.machine.files ∧
      Stocked R p w'.machine.files := by
  obtain ⟨verified, w₁, w₂, hverified, hdirs, hprepared, hrelease⟩ := h.prepares may toolchain
    collision checksum content id hbuildable (fun _ => hnone) (fun _ hfs => ⟨hfs, fun _ => rfl⟩)
  obtain ⟨m, hmoved, hbinary⟩ := hprepared.binary
  have hbinary : w₂.machine.files.node? (binaryPlace R p.os)
      = some (.file ⟨w.machine.files.nextSerial, content, newDirectoryMode, 0⟩) :=
    (hbinary.trans hmoved.binary).trans (publish_self R p.os content w.machine.files)
  obtain ⟨package, w₃, hpackage, hbut, hstands⟩ := package_succeeds hdirs
    (hprepared.ready.packable hverified hprepared.directory hbinary
      (by decide : ownerReads newDirectoryMode = true) (hnone.of_same hprepared.packages))
  obtain ⟨w', hend, hmachine⟩ := hrelease _ _ hpackage
  have hplatform : verified.artifact.request.platform = p := by rw [hverified]; rfl
  rw [hplatform] at hbut hstands
  have hdir : w₃.machine.files.node? (packagesPlace R) = some (.directory newDirectoryMode) :=
    (hbut _ (ne_packagesPlace _).symm (ne_packagesPlace _).symm).trans hprepared.directory
  have hready : Ready R p version w₃.machine.files :=
    hprepared.ready.elsewhere (fun q hq => hbut q (fun heq => hq (heq ▸ List.prefix_append _ _))
      (fun heq => hq (heq ▸ List.prefix_append _ _))) hdir
  have hbinary' : w₃.machine.files.node? (binaryPlace R p.os) = _ :=
    (hbut _ (packages_ne_build _ _).symm (packages_ne_build _ _).symm).trans hbinary
  exact ⟨_, w', hend, rfl, rfl, hmachine ▸ hready,
    hmachine ▸ ⟨buildable_of_file hbinary', hdir, hstands⟩⟩

/-! ## A release that drops a package -/

/-- A directory takes the place of the binary. -/
def spoilBinary (R : Location) (os : Os) (fs : FileSystem) : FileSystem :=
  fs.put (binaryPlace R os) (.directory newDirectoryMode)

theorem spoilBinary_sameOff (R : Location) (os : Os) (fs : FileSystem) :
    SameOff (binaryPlace R os) fs (spoilBinary R os fs) :=
  fun _ hq => node?_put_of_ne hq

theorem spoilBinary_self (R : Location) (os : Os) (fs : FileSystem) :
    (spoilBinary R os fs).node? (binaryPlace R os) = some (.directory newDirectoryMode) :=
  node?_put_self (not_fixed_append (isName_binary os).ne_empty)

theorem spoilBinary_direct {os : Os} {place : Location} (h : fs.Direct place) :
    (spoilBinary R os fs).Direct place := by
  intro q hq target
  by_cases hbinary : q = binaryPlace R os
  · subst hbinary
    simp [spoilBinary_self]
  · rw [spoilBinary_sameOff R os fs q hbinary]
    exact h q hq target

theorem Ready.spoiled (h : Ready R p version fs) : Ready R p version (spoilBinary R p.os fs) := by
  have hsame := spoilBinary_sameOff R p.os fs
  refine h.of_same (fun q hq => hsame q (ne_of_way hq)) (hsame _ (versionPlace_ne _))
    (fun node hnode => h.produced node ?_) (Or.inl (hsame _ (packagesPlace_ne _)))
  rw [← hnode]
  exact (hsame _ (binary_ne_produced R p.os).symm).symm

/-- A forced release drops the package that was there when its last test leaves a directory in place
of the binary. -/
theorem Ready.drops (may : Refusals) (toolchain : Path) (checksum : Bool) (content : Bytes)
    {w : World Unit} (h : Ready R p version w.machine.files) (hs : Stocked R p w.machine.files) :
    ∃ e w', w.Runs (honestRunner R p.os content (spoilBinary R p.os)) may
        (release (rootSettings R .overwrite checksum) toolchain (.ok p.os) p.arch).run
        (.error (.packaging e)) w' ∧
      w'.machine.files.node? (packagePlace R p) = none ∧
      ∀ name, name ≠ p.packageName productName → w'.machine.files.node? (packagesPlace R ++ [name])
        = w.machine.files.node? (packagesPlace R ++ [name]) := by
  obtain ⟨verified, w₁, w₂, hverified, hdirs, hprepared, hrelease⟩ := h.prepares may toolchain
    .overwrite checksum content (spoilBinary R p.os) hs.buildable (by simp) (fun fs hfs =>
      ⟨hfs.spoiled, fun name => spoilBinary_sameOff R p.os fs _ (packages_ne_build _ _)⟩)
  obtain ⟨m, -, hbinary⟩ := hprepared.binary
  rw [spoilBinary_self] at hbinary
  have hready := hprepared.ready
  obtain ⟨data, hdata, hmode⟩ := hs.package
  obtain ⟨fields, htar⟩ := tar_place_executable p.os
  have hwrites : ownerWrites data.mode = true := by rw [hmode]; decide
  have hplatform : verified.artifact.request.platform = p := by rw [hverified]; rfl
  let Q : Except PackagingError Package → Machine → Prop := fun made m => ∃ e, made = .error e ∧
    m.files.node? (packagePlace R p) = none ∧ SameOff (packagePlace R p) w₂.machine.files m.files
  obtain ⟨made, w₃, hpackage, e, rfl, hgone, hoff⟩ : ∃ made w₃, w₁.Runs
      (honestRunner R p.os content (spoilBinary R p.os)) may
      (package (rootSettings R .overwrite checksum) verified).run made w₃ ∧ Q made w₃.machine := by
    refine package_ends hdirs (fun v hv => ?_)
    obtain ⟨e, v', hpack, hgone, hoff⟩ : ∃ e v', v.Runs
        (honestRunner R p.os content (spoilBinary R p.os)) may
        (packInto (rootSettings R .overwrite checksum) verified _).run (.error e) v' ∧ _ :=
      packInto_drops rfl (by rw [hplatform]; rfl) (isName_package p)
        (by rw [hverified, hv]; exact hready.findNode_binary hbinary (by simp)) (by decide)
        (by rw [hverified]; exact htar)
        (by rw [hv]; exact hready.reaches_packages hprepared.directory)
        (h.named_package .overwrite checksum) (size_packageName p)
        (by rw [hv]; exact changeable_of_node (plain_packagesPlace h.plain) hprepared.directory)
        (by rw [hv]; exact (hprepared.packages _).trans hdata) hwrites
    exact ⟨.error e, v', hpack, e, rfl, hgone, hv ▸ hoff⟩
  obtain ⟨w', hend, hmachine⟩ := hrelease _ _ hpackage
  refine ⟨e, w', hend, hmachine ▸ hgone, fun name hne => ?_⟩
  rw [hmachine, hoff _ (fun heq => hne (List.singleton_inj.mp (List.append_cancel_left heq)))]
  exact hprepared.packages name

/-! ## A small project -/

/-- A project at `/work` that was never built. -/
def freshProject : FileSystem where
  entries := [
    (["work"], .directory newDirectoryMode),
    (["work", "src"], .directory newDirectoryMode),
    (["work", "src", "build"], .directory newDirectoryMode),
    (["work", "src", "version.txt"], .file ⟨1, Utf8.encode "1.2.3\n", newFileMode, 0⟩)]
  nextSerial := 2

/-- The fresh project is all there is. -/
def freshWorld : World Unit := { machine := { files := freshProject }, runner := () }

theorem freshProject_ready (p : Platform) : Ready ["work"] p "1.2.3" freshProject where
  plain := by decide
  sizes := by decide
  named := by obtain ⟨os, arch⟩ := p; cases os <;> cases arch <;> decide +kernel
  sidecarNamed := by obtain ⟨os, arch⟩ := p; cases os <;> cases arch <;> decide +kernel
  version := ⟨_, rfl, by decide, by decide⟩
  directories q hq := by
    have hall : ∀ q ∈ (buildPlace ["work"]).inits, freshProject.node? q
        = some (.directory newDirectoryMode) := by decide
    exact ⟨_, hall q ((List.mem_inits _ _).mpr hq), by decide⟩
  root := ⟨by decide, _, rfl, by decide⟩
  buildable := ⟨by decide, _, rfl, by decide⟩
  produced := by
    have hnone : freshProject.node? (producedPlace ["work"] p.os) = none := by
      cases p.os <;> decide
    simp [hnone]
  packages := Or.inl (by decide)

theorem freshProject_ordinary (place : Location) : freshProject.Ordinary place :=
  ordinary_of_entries (by decide) place

theorem freshProject_buildable (os : Os) : Buildable ["work"] os freshProject := by
  have hnone : freshProject.node? (binaryPlace ["work"] os) = none := by cases os <;> decide
  simp [Buildable, hnone]

theorem freshProject_nothing {place : Location} (h : packagesPlace ["work"] <+: place)
    (hplace : ¬ Fixed place) : freshProject.node? place = none := by
  rw [node?_of_not_fixed hplace, List.lookup_eq_none_iff]
  have hall : ∀ entry ∈ freshProject.entries, ¬ packagesPlace ["work"] <+: entry.1 := by decide
  intro entry hentry
  rw [bne_iff_ne]
  rintro rfl
  exact hall entry hentry h

theorem freshProject_unpackaged (p : Platform) (checksum : Bool) :
    Unpackaged ["work"] p checksum freshProject :=
  ⟨freshProject_nothing (List.prefix_append _ _)
      (not_fixed_append (isName_package p).ne_empty),
    fun _ => freshProject_nothing (List.prefix_append _ _)
      (not_fixed_append (isName_checksumName (isName_package p)).ne_empty)⟩

end Slipway
