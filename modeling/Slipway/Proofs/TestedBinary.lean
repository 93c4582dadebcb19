import Slipway.Proofs.History

/-!
# What is in a package was tested

A release that succeeds has had its binary built and tested by processes that did what they should,
and its package is the archive of this binary.
-/

namespace Slipway

open FileSystem World

variable {σ : Type} {runner : Runner σ} {may : Refusals} {w w' : World σ} {R : Location}
  {toolchain : Path} {host : Host} {arch : Arch} {collision : CollisionPolicy} {checksum : Bool}

/-- Whatever process it runs, the runner leaves the packages and the version file alone, and puts no
links on the ways of a release. -/
structure Careful (runner : Runner σ) (R : Location) : Prop where
  spares : Spares runner (packagesPlace R) (Linkless R)
  version : ∀ i m s, (runner i m s).2.1.files.node? (versionPlace R) = m.files.node? (versionPlace R)

theorem World.Called.version {i : Invocation} {r : Except SystemError ProcessOutput}
    (hrunner : Careful runner R) (h : w.Called runner i r w') :
    w'.machine.files.node? (versionPlace R) = w.machine.files.node? (versionPlace R) := by
  have hsame := hrunner.version i w.machine w.runner
  rw [h.1] at hsame
  exact hsame

/-! ## The way to a package -/

theorem findNode_package {fs fs' : FileSystem} {here here' : Location} {p : Platform}
    {data : FileData} (hR : Plain R) (hd : fs.Direct (packagesPlace R))
    (hreach : fs.Reaches here (pathOf (packagesPlace R)) (packagesPlace R))
    (hrefused : refuse? (pathOf (packagePlace R p)) = none)
    (hsame : SameBut (packagesPlace R) (p.packageName productName) fs fs')
    (hdata : fs'.node? (packagePlace R p) = some (.file data)) :
    fs'.findNode here' (pathOf (packagePlace R p)) = .ok (packagePlace R p, .file data) := by
  have hP := plain_packagesPlace hR
  have hn : IsName (p.packageName productName) := isName_packageName (by decide) p
  have hpath : pathOf (packagePlace R p) = (pathOf (packagesPlace R)).join (p.packageName productName) :=
    (hn.join_pathOf hP).symm
  have hway : ∀ q, q <+: packagesPlace R → fs'.node? q = fs.node? q := by
    intro q hq
    have hne : ∀ name, q ≠ packagesPlace R ++ [name] := by
      rintro name rfl
      have hlen := hq.length_le
      rw [List.length_append, List.length_singleton] at hlen
      omega
    exact hsame q (hne _) (hne _)
  have hreach' : fs'.Reaches here' (pathOf (packagesPlace R)) (packagesPlace R) :=
    hreach.along hP hd hway
  have hfind := hreach'.find hn (hpath ▸ hrefused) (size_packageName p) (by
    intro target hlink
    exact absurd (hlink.symm.trans hdata) (by simp))
  refine findNode_eq_ok.mpr ?_
  rw [hpath, hfind, ← hdata]
  rfl

/-! ## A release that succeeds -/

/-- What a release reports that succeeded: three processes that did what they should, one after
another, and the archive of the binary that they built and tested. The worlds are those between the
processes. -/
structure Shipped (runner : Runner σ) (R : Location) (settings : Settings) (toolchain : Path)
    (host : Host) (arch : Arch) (w w₁ w₂ w₃ w₄ w' : World σ) (report : Report) : Prop where
  requested : host = .ok report.platform ∧ report.arch = arch
  version : ∃ data, w.machine.files.node? (versionPlace R) = some (.file data) ∧
    w'.machine.files.node? (versionPlace R) = some (.file data) ∧
    IsFirstLine data.content report.version
  published : ∃ output, w.Called runner (publishInvocation toolchain settings
    ⟨report.arch, report.version, report.platform⟩) (.ok output) w₁ ∧ output.code = some 0
  moved : w₁.Idle w₂ ∧ Moved R report.platform w₁.machine w₂.machine
  formatted : ∃ output, w₂.Called runner (formatInvocation report.artifact) (.ok output) w₃ ∧
    output.code = some 0 ∧ output.stdout = Utf8.encode formatExpected
  rejected : ∃ output, w₃.Called runner (strictInvocation report.artifact) (.ok output) w₄ ∧
    output.code ≠ some 0
  packaged : w₄.Idle w'
  started : w'.started = [strictInvocation report.artifact, formatInvocation report.artifact,
    publishInvocation toolchain settings ⟨report.arch, report.version, report.platform⟩] ++ w.started
  artifact : report.artifact = pathOf (binaryPlace R report.platform)
  path : report.package.path = pathOf (packagePlace R ⟨report.platform, report.arch⟩)
  /-- The package is the archive of what is at the artifact's path after the tests. -/
  archived : ∃ binary data, w₄.machine.files.node? (binaryPlace R report.platform) = some binary ∧
    w'.machine.files.node? (binaryPlace R report.platform) = some binary ∧
    w'.machine.files.findNode w'.machine.directory report.package.path
      = .ok (packagePlace R ⟨report.platform, report.arch⟩, .file data) ∧
    ArchivedFrom (report.platform.executable productName) (some binary) data.content

theorem version_of_requested {settings : Settings} {request : BuildRequest} (hR : Plain R)
    (hs : settings.versionFile = pathOf (versionPlace R))
    (hl : w.machine.files.Direct (versionPlace R))
    (ho : w.machine.files.Ordinary (versionPlace R))
    (h : Requested runner may settings host arch w request) :
    ∃ data, w.machine.files.node? (versionPlace R) = some (.file data) ∧
      IsFirstLine data.content request.version := by
  obtain ⟨w₁, hversion⟩ := h.version
  obtain ⟨place, node, hfind, hmute, hfirst⟩ := runs_resolveVersion hversion
  have hplain : Plain (versionPlace R) := hR.append (by decide)
  have hsteps : walkSteps settings.versionFile = versionPlace R := by
    rw [hs]
    exact walkSteps_pathOf hplain (by simp [versionPlace])
  rw [← hsteps] at hplain hl
  obtain ⟨rfl, hnode⟩ := findNode_direct (by rw [hs]; exact isAbsolute_pathOf _) hplain hl hfind
  rw [hsteps] at hnode
  cases node with
  | file data => exact ⟨data, hnode, hfirst data rfl⟩
  | directory mode => exact absurd (Or.inl ⟨mode, rfl⟩) hmute
  | link target => exact absurd (Or.inr (Or.inl ⟨target, rfl⟩)) hmute
  | tool name => exact absurd (Or.inr (Or.inr ⟨name, rfl⟩)) hmute
  | device d => exact absurd hnode (ho.2 d)

theorem versionPlace_apart (name : String) : ¬ buildPlace R ++ [name] <+: versionPlace R ∧
    ∀ other, versionPlace R ≠ packagesPlace R ++ [other] := by
  unfold buildPlace versionPlace packagesPlace
  refine ⟨fun h => ?_, fun other h => ?_⟩
  · rw [List.append_assoc, List.prefix_append_right_inj] at h
    have hlen := h.length_le
    simp at hlen
  · rw [List.append_assoc, List.append_cancel_left_eq] at h
    simp at h

theorem binaryPlace_ne (os : Os) (name : String) : binaryPlace R os ≠ packagesPlace R ++ [name] := by
  intro h
  have hlen := congrArg List.length h
  simp [binaryPlace, buildPlace, packagesPlace] at hlen

theorem Packaged.shipped {verified : VerifiedArtifact} {package : Package} {fs fs' : FileSystem}
    {here : Location} (here' : Location) (hR : Plain R) (hd : fs.Direct (packagesPlace R))
    (hbinary : fs.Direct (binaryPlace R verified.artifact.request.os))
    (hpath : verified.artifact.path = pathOf (binaryPlace R verified.artifact.request.os))
    (h : Packaged (rootSettings R collision checksum) verified may here fs fs' (.ok package)) :
    package.path = pathOf (packagePlace R verified.artifact.request.platform) ∧
      SameBut (packagesPlace R) (verified.artifact.request.platform.packageName productName) fs fs' ∧
      ∃ binary data, fs.node? (binaryPlace R verified.artifact.request.os) = some binary ∧
        fs'.findNode here' package.path
          = .ok (packagePlace R verified.artifact.request.platform, .file data) ∧
        ArchivedFrom (verified.artifact.request.os.executable productName) (some binary)
          data.content := by
  have hjoin : ∀ name, IsName name → (rootSettings R collision checksum).packagesDir.join name
      = pathOf (packagesPlace R ++ [name]) := by
    intro name hn
    rw [packagesDir_eq collision checksum hR]
    exact hn.join_pathOf (plain_packagesPlace hR)
  cases h with
  | made named reaches refused fresh same stands found archived finished reported =>
    obtain rfl := place_of_packagesDir hR hd reaches
    subst named
    obtain ⟨data, hdata, rfl⟩ := stands
    obtain ⟨-, hpackage, -⟩ := reported
    have hn := isName_packageName (isName_product R collision checksum).no_separator
      verified.artifact.request.platform
    rw [hjoin _ hn] at refused hpackage
    rw [packagesDir_eq collision checksum hR] at reaches
    have hplain := plain_binaryPlace hR verified.artifact.request.os
    have hsteps := walkSteps_pathOf hplain (by simp [binaryPlace])
    rw [hpath] at found
    obtain ⟨rfl, hnode⟩ := findNode_direct (isAbsolute_pathOf _) (by rw [hsteps]; exact hplain)
      (by rw [hsteps]; exact hbinary) found
    rw [hsteps] at hnode archived
    refine ⟨hpackage, same, _, data, hnode, ?_, archived (binaryPlace_ne _ _)⟩
    rw [hpackage]
    exact findNode_package hR hd reaches refused same hdata

/-- A release from a resolved root that succeeds ships the binary that it tested. -/
theorem runs_shipped {report : Report} (hR : w.machine.files.Resolved R)
    (hordinary : ∀ q, R <+: q → w.machine.files.Ordinary q) (hrunner : Careful runner R)
    (h : w.Runs runner may (release (rootSettings R collision checksum) toolchain host arch).run
      (.ok report) w') :
    ∃ w₁ w₂ w₃ w₄, Shipped runner R (rootSettings R collision checksum) toolchain host arch
      w w₁ w₂ w₃ w₄ w' report := by
  have hplain := hR.plain
  have hlinkless := linkless_of_ordinary hR.direct hordinary
  cases runs_release h with
  | @complete request artifact verified w₂ w₄ w₅ made requested free built tested packaged same =>
    obtain ⟨data, hdata, hfirst⟩ := version_of_requested hplain
      (versionFile_eq collision checksum hplain) (direct_append hR.direct hordinary)
      (hordinary _ (List.prefix_append _ _)) requested
    have hbefore := built.sameBelow hrunner.spares (isName_product R _ _)
      (isName_toolchainOutput R _ _) (fun m hm => hm.clear.apart hplain) hlinkless
    have hsame := hbefore.trans (tested.sameBelow hrunner.spares)
    cases built with
    | @moved w₁ built path moved called success seen renamed machine idle found =>
      have hlinkless₁ := called.keeps hrunner.spares hlinkless
      have hmoved := moved_of_renamed hplain hlinkless₁.build renamed
      rw [← machine] at hmoved
      have hlinkless₂ := hmoved.linkless hlinkless₁
      have hpath : path = pathOf (binaryPlace R request.os) :=
        path_of_found hplain (hlinkless₂.binary _) found
      cases tested with
      | @passed w₃ formatted rejected called₂ success₂ stdout called₃ failure =>
        have hlinkless₄ := called₃.keeps hrunner.spares (called₂.keeps hrunner.spares hlinkless₂)
        -- Neither the build nor the tests came near the packages.
        have hpackages : ∀ name, w₄.machine.files.Ordinary (packagesPlace R ++ [name]) := by
          intro name
          exact (hordinary _ ((List.prefix_append _ _).trans (List.prefix_append _ _))).of_same
            (hsame _ (List.prefix_append _ _))
        obtain ⟨fs, hgrows, -, hdirect, hpackaged⟩ :=
          runs_package_root hplain hlinkless₄.clear (fun _ => hpackages) packaged
        obtain ⟨hmade, hbut, binary, package, hbinary, hfound, harchived⟩ :=
          hpackaged.shipped w'.machine.directory hplain hdirect
            (hgrows.direct (hlinkless₄.binary _)) hpath
        rw [← same.1] at hbut hfound
        have hkept : ∀ node, w₄.machine.files.node? (versionPlace R) = some node →
            w'.machine.files.node? (versionPlace R) = some node := by
          intro node hnode
          rw [hbut _ ((versionPlace_apart "").2 _) ((versionPlace_apart "").2 _)]
          exact hgrows.keep hnode
        -- No step after the read of the version file touches it.
        have hversion : w₄.machine.files.node? (versionPlace R) = some (.file data) := by
          rw [called₃.version hrunner, called₂.version hrunner,
            hmoved.same _ (versionPlace_apart _).1 (versionPlace_apart _).1,
            called.version hrunner, hdata]
        have hbinary₄ : w₄.machine.files.node? (binaryPlace R request.os) = some binary := by
          rcases hgrows (binaryPlace R request.os) with hsame | ⟨-, hdir⟩
          · exact hsame.symm.trans hbinary
          · rw [hdir] at hbinary
            exact absurd hbinary.symm (harchived.1 _)
        have hidle := packaged.idle ((package_only _ _).mono fun _ => Action.Stays.startsNothing)
        refine ⟨w₁, w₂, w₃, w₄, ⟨requested.os, requested.arch⟩,
          ⟨data, hdata, hkept _ hversion, hfirst⟩, ⟨built, called, success⟩, ⟨idle, hmoved⟩,
          ⟨formatted, called₂, success₂, stdout⟩, ⟨rejected, called₃, failure⟩,
          hidle.trans same.2, ?_, hpath, hmade, binary, package, hbinary₄, ?_, hfound, harchived⟩
        · rw [(hidle.trans same.2).2, called₃.2, called₂.2, idle.2, called.2]
          rfl
        · exact (hbut _ (binaryPlace_ne _ _) (binaryPlace_ne _ _)).trans hbinary

theorem careful_honestRunner (R : Location) (os : Os) (content : Bytes) :
    Careful (honestRunner R os content id) R where
  spares := spares_honestRunner
    (fun m h => ⟨publish_direct h.packages, fun os => publish_direct (h.produced os),
      fun os => publish_direct (h.binary os)⟩)
    (fun _ h => h) (SameBelow.refl _)
  version i m s := by
    unfold honestRunner
    split_ifs
    · exact publish_sameOff R os content m.files _ (versionPlace_ne _)
    · rfl
    · rfl

end Slipway
