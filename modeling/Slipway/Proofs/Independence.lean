import Slipway.Proofs.Leftovers
import Slipway.Proofs.Trees

/-!
# Releases that do not meddle with each other

Releases of two architectures below one root share the version file, the build directory and the
place of the binary. Each writes what it reads of these before it reads it, and its package is its
own, so neither can tell whether the other one came before it.
-/

namespace Slipway

open FileSystem World

variable {σ : Type} {runner : Runner σ} {R : Location} {p : Platform} {makes : Bool}
  {fs fs' fs₀ fs₀' fs₁ fs₁' : FileSystem} {collision : CollisionPolicy} {checksum : Bool}

/-! ## Names -/

theorem versionPlace_eq : versionPlace R = R ++ ["src"] ++ ["version.txt"] := by simp [versionPlace]

section Names

variable (collision : CollisionPolicy) (checksum : Bool) (hR : Plain R)

include hR

theorem plain_sources : Plain (R ++ ["src"]) := hR.append (by decide)

theorem spells_version : Spells (rootSettings R collision checksum).versionFile (R ++ ["src"])
    "version.txt" := by
  rw [versionFile_eq collision checksum hR, versionPlace_eq]
  exact spells_pathOf (plain_sources hR) (by decide)

theorem spells_produced (os : Os) :
    Spells (producedPath (rootSettings R collision checksum) os) (buildPlace R)
      (os.executable toolchainOutputName) :=
  spells_join (isAbsolute_buildDir collision checksum) (stepsOf_buildDir collision checksum hR)
    (plain_buildPlace hR) (isName_produced os)

theorem spells_canonical (os : Os) :
    Spells (canonicalPath (rootSettings R collision checksum) os) (buildPlace R)
      (os.executable productName) :=
  spells_join (isAbsolute_buildDir collision checksum) (stepsOf_buildDir collision checksum hR)
    (plain_buildPlace hR) (isName_binary os)

theorem spells_package (request : BuildRequest) :
    Spells (packagePath (rootSettings R collision checksum) request) (packagesPlace R)
      (request.platform.packageName productName) :=
  spells_join (isAbsolute_packagesDir collision checksum) (stepsOf_packagesDir collision checksum hR)
    (plain_packagesPlace hR) (isName_package _)

omit hR in
theorem stepsOf_sameWay {up dir : Path} (h : up.SameWay dir) (hp : Plain (stepsOf dir)) :
    stepsOf up = stepsOf dir := by
  obtain ⟨-, dots, hsteps, hdots⟩ := h
  have hnil : dots = [] := List.eq_nil_iff_forall_not_mem.mpr fun d hd =>
    (hp d (hsteps ▸ List.mem_append_right _ hd)).ne_dot (hdots d hd)
  rw [hsteps, hnil, List.append_nil]

theorem spells_sidecar (request : BuildRequest) :
    Spells (checksumPath (packagePath (rootSettings R collision checksum) request))
      (packagesPlace R) (checksumName (request.platform.packageName productName)) := by
  have hn := isName_package request.platform
  obtain ⟨up, hway, hpath⟩ := checksumPath_join hn (rootSettings R collision checksum).packagesDir
  have hsteps := stepsOf_packagesDir collision checksum hR
  rw [packagePath_join, hpath]
  refine spells_join (hway.1.trans (isAbsolute_packagesDir collision checksum)) ?_
    (plain_packagesPlace hR) (isName_checksumName hn)
  rw [stepsOf_sameWay hway (hsteps ▸ plain_packagesPlace hR), hsteps]

end Names

/-! ## Version and preflight -/

/-- What a name's directory leads to, leads to it from the root on. -/
theorem reaches_above {here : Location} {name : String} {P Q : Location} (hP : Plain (P ++ [name]))
    (hd : fs.Direct P) (h : fs.Reaches here (pathOf (P ++ [name])) Q) :
    fs.Reaches [] (pathOf P) P := by
  have hplain : Plain P := fun n hn => hP n (List.mem_append_left _ hn)
  have hn : IsName name := hP name (by simp)
  unfold Reaches startOf at h
  rw [if_pos (isAbsolute_pathOf _), stepsOf_pathOf hP, List.append_assoc] at h
  obtain ⟨henter, hsizes, -⟩ :=
    walk_down hplain (fun q _ hq => hd q (by simpa using hq)) hn.ne_empty h
  exact reaches_pathOf hplain hsizes fun q hq => henter q List.nil_prefix (by simpa using hq)

section Start

variable {toolchain : Path} {request : BuildRequest} {os : Os} {version : String}
  (hR : Plain R) (hb : Beside R request.platform makes fs₀ fs₀')

include hR hb

theorem version_lockstep :
    Stage.Lockstep runner (Still fs₀ fs₀')
      (resolveVersion (rootSettings R collision checksum).versionFile)
      (resolveVersion (rootSettings R collision checksum).versionFile)
      (fun version version' fs fs' => fs₀.Reaches [] (pathOf R) R ∧
        Agreed (Still fs₀ fs₀') version version' fs fs')
      (Still fs₀ fs₀') := by
  have hplace := versionPlace_eq (R := R)
  have hsources : R ++ ["src"] <+: versionPlace R := hplace ▸ List.prefix_append _ _
  have hf : Facing fs₀ fs₀' (R ++ ["src"]) "version.txt" :=
    ⟨fun q hq => hb.way q (hq.trans hsources), hplace ▸ hb.direct,
      .of_eq (hplace ▸ hb.way _ (List.prefix_refl _))⟩
  have hs := spells_version collision checksum hR
  have hlock : Stage.Lockstep runner (Still fs₀ fs₀')
      (resolveVersion (rootSettings R collision checksum).versionFile)
      (resolveVersion (rootSettings R collision checksum).versionFile)
      (Agreed (Still fs₀ fs₀')) (Still fs₀ fs₀') :=
    resolveVersion_lockstep (by rintro _ _ ⟨rfl, rfl⟩; exact hf) hs
  refine hlock.learn fun w v version hstill hok => ?_
  obtain ⟨rfl, -⟩ := hstill
  have hruns : w.Runs runner Refusals.never
      (resolveVersion (rootSettings R collision checksum).versionFile).run (.ok version) _ :=
    runs_of_run_eq hok
  obtain ⟨place, node, hfind, -⟩ := runs_resolveVersion hruns
  have hn : IsName "version.txt" := by decide
  have hpath : (rootSettings R collision checksum).versionFile
      = (pathOf (R ++ ["src"])).join "version.txt" := by
    rw [versionFile_eq collision checksum hR, hplace]
    exact (hn.join_pathOf (plain_sources hR)).symm
  rw [hpath] at hfind
  obtain ⟨-, -, Q, hreach, -⟩ := find_join hn (findNode_eq_ok.mp hfind)
  exact reaches_above (plain_sources hR)
    (fun q hq => hb.direct q (hq.trans (List.prefix_append _ _))) hreach

omit hR in
theorem exists?_beside {path : Path} {name : String} (hs : Spells path (packagesPlace R) name)
    (hplace : packagesPlace R ++ [name] = packagePlace R request.platform ∨
      packagesPlace R ++ [name] = sidecarPlace R request.platform) (here here' : Location) :
    fs₀'.exists? here' path = fs₀.exists? here path := by
  have hlike : Like (fs₀.node? (packagesPlace R ++ [name])) (fs₀'.node? (packagesPlace R ++ [name])) := by
    rcases hplace with h | h <;> rw [h]
    · exact hb.package
    · exact hb.sidecar
  have hmem : packagesPlace R ++ [name] ∈ spots R request.platform := by
    rw [mem_spots]
    rcases hplace with h | h <;> simp [h]
  have hroot : ∀ q, q <+: R → fs₀'.node? q = fs₀.node? q ∧
      ∀ target, fs₀.node? q ≠ some (.link target) := fun q hq =>
    ⟨hb.way q (hq.trans (List.prefix_append _ _)), hb.direct q (hq.trans (List.prefix_append _ _))⟩
  have hdirect : fs₀.Direct (packagesPlace R ++ [name]) := by
    intro q hq
    rcases List.prefix_concat_iff.mp hq with rfl | hq
    · exact hb.plain _ hmem
    · rcases List.prefix_concat_iff.mp hq with rfl | hq
      · exact hb.plain _ (by simp [spots, packagesPlace])
      · exact (hroot q hq).2
  rcases hb.packages with hsame | ⟨hnone, hdir, -⟩
  · refine Facing.exists? ⟨fun q hq => ?_, hdirect, hlike⟩ hs here here'
    rcases List.prefix_concat_iff.mp hq with rfl | hq
    · exact hsame
    · exact (hroot q hq).1
  · have hlacking : fs₀.node? (packagesPlace R ++ [name]) = none := by
      obtain ⟨hpackage, hsidecar⟩ := hb.lacking hnone
      rcases hplace with h | h <;> rw [h] <;> assumption
    have hlacking' : fs₀'.node? (packagesPlace R ++ [name]) = none := by
      rw [hlacking] at hlike
      generalize fs₀'.node? (packagesPlace R ++ [name]) = b at hlike
      cases hlike
      rfl
    have hdirect' : fs₀'.Direct (packagesPlace R ++ [name]) := by
      intro q hq target
      rcases List.prefix_concat_iff.mp hq with rfl | hq
      · simp [hlacking']
      · rcases List.prefix_concat_iff.mp hq with rfl | hq
        · unfold packagesPlace at hdir
          simp [hdir]
        · rw [(hroot q hq).1]
          exact (hroot q hq).2 target
    rw [hs.not_exists hdirect hlacking, hs.not_exists hdirect' hlacking']

theorem available_lockstep :
    Stage.Lockstep runner (Still fs₀ fs₀')
      (ensureAvailable (rootSettings R collision checksum) request)
      (ensureAvailable (rootSettings R collision checksum) request)
      (Agreed (Still fs₀ fs₀')) (Still fs₀ fs₀') := by
  unfold ensureAvailable
  cases collision with
  | overwrite => exact .pure fun _ _ hstill => ⟨rfl, hstill⟩
  | fail =>
    have hpaths : ∀ path ∈ packageTargets (rootSettings R .fail checksum) request,
        ∀ here here', fs₀'.exists? here' path = fs₀.exists? here path := by
      intro path hpath here here'
      rcases mem_packageTargets_iff.mp hpath with heq | ⟨-, heq⟩ <;> rw [heq]
      · have hs := spells_package .fail checksum hR request
        have hplace : packagesPlace R ++ [request.platform.packageName productName]
          = packagePlace R request.platform := rfl
        exact exists?_beside hb hs (Or.inl hplace) here here'
      · have hs := spells_sidecar .fail checksum hR request
        have hplace : packagesPlace R ++ [checksumName (request.platform.packageName productName)]
          = sidecarPlace R request.platform := rfl
        exact exists?_beside hb hs (Or.inr hplace) here here'
    refine Stage.Lockstep.next (.lift (firstExisting_lockstep ?_)) fun found => ?_
    · rintro path hpath _ _ ⟨rfl, rfl⟩
      exact hpaths path hpath
    · cases found with
      | none => exact .pure fun _ _ hstill => ⟨rfl, hstill⟩
      | some path => exact .throw _ fun _ _ hstill => hstill

end Start

/-! ## The build -/

def Succeeds (answer : Except SystemError ProcessOutput) : Prop :=
  ∃ output, answer = .ok output ∧ output.success = true

/-- What a publish process does to the files that gives this answer. When it succeeds, its output is
this file. -/
structure Publishes (R : Location) (os : Os) (makes : Bool)
    (answer : Except SystemError ProcessOutput) (content : Bytes) (mode : Nat) (modified : Int)
    (fs fs' : FileSystem) : Prop where
  elsewhere : ∀ q, q ≠ producedPlace R os → q ≠ buildPlace R → fs'.node? q = fs.node? q
  directory : fs'.node? (buildPlace R) = fs.node? (buildPlace R) ∨ makes = true ∧
    fs.node? (buildPlace R) = none ∧
    fs'.node? (buildPlace R) = some (.directory newDirectoryMode)
  plain : ∀ target, fs'.node? (producedPlace R os) ≠ some (.link target)
  made : Succeeds answer → makes = true → fs'.node? (buildPlace R) ≠ none
  written : Succeeds answer → (∃ dirMode, fs'.node? (buildPlace R) = some (.directory dirMode)) →
    ∃ serial, fs'.node? (producedPlace R os) = some (.file ⟨serial, content, mode, modified⟩)

/-- What a publish process answers and writes depends on its invocation only, and what a smoke test
answers depends on its invocation and on the bytes of the binary. The one touches its output only,
and the directory for it if it `makes` that; the other touches nothing. -/
structure Consistent (runner : Runner σ) (R : Location) (settings : Settings) (toolchain : Path)
    (os : Os) (makes : Bool) : Prop where
  publish : ∀ arch version, ∃ answer content mode modified, ∀ (m : Machine) (s : σ),
    (runner (publishInvocation toolchain settings ⟨arch, version, os⟩) m s).1 = answer ∧
      Publishes R os makes answer content mode modified m.files
        (runner (publishInvocation toolchain settings ⟨arch, version, os⟩) m s).2.1.files
  test : ∀ i, i = formatInvocation (pathOf (binaryPlace R os)) ∨
      i = strictInvocation (pathOf (binaryPlace R os)) →
    ∃ answer : Bytes → Except SystemError ProcessOutput, ∀ (m : Machine) (s : σ) data,
      m.files.node? (binaryPlace R os) = some (.file data) →
        (runner i m s).1 = answer data.content ∧
          ∀ q, (runner i m s).2.1.files.node? q = m.files.node? q

/-- Both machines have the same file at the place. -/
def Carries (place : Location) (fs fs' : FileSystem) : Prop :=
  ∃ data data', fs.node? place = some (.file data) ∧ fs'.node? place = some (.file data') ∧
    SameFile data data'

/-- After a publish process that succeeded. -/
structure Delivered (R : Location) (p : Platform) (makes : Bool) (fs₀ fs₀' fs fs' : FileSystem) :
    Prop where
  along : Along R p makes fs₀ fs₀' fs fs'
  build : fs'.node? (buildPlace R) = fs.node? (buildPlace R)
  output : (∃ dirMode, fs.node? (buildPlace R) = some (.directory dirMode)) →
    Carries (producedPlace R p.os) fs fs'

/-- Once the binary has its name. -/
structure Equipped (R : Location) (p : Platform) (makes : Bool) (fs₀ fs₀' fs fs' : FileSystem) :
    Prop where
  along : Along R p makes fs₀ fs₀' fs fs'
  build : fs'.node? (buildPlace R) = fs.node? (buildPlace R)
  binary : Carries (binaryPlace R p.os) fs fs'

theorem Along.way_build (h : Along R p makes fs₀ fs₀' fs fs') (hb : Beside R p makes fs₀ fs₀')
    (hbuild : fs'.node? (buildPlace R) = fs.node? (buildPlace R)) {q : Location}
    (hq : q <+: buildPlace R) :
    fs'.node? q = fs.node? q ∧ ∀ target, fs.node? q ≠ some (.link target) := by
  have hsplit : buildPlace R = R ++ ["src"] ++ ["build"] := by simp [buildPlace]
  rw [hsplit] at hq
  rcases List.prefix_concat_iff.mp hq with rfl | hq
  · rw [← hsplit]
    exact ⟨hbuild, h.left.plain _ (by simp [spots])⟩
  · have hversion : q <+: versionPlace R := hq.trans (versionPlace_eq ▸ List.prefix_append _ _)
    exact ⟨h.way hb hversion, h.direct hb q hversion⟩

theorem Along.direct_build (h : Along R p makes fs₀ fs₀' fs fs') (hb : Beside R p makes fs₀ fs₀')
    (hbuild : fs'.node? (buildPlace R) = fs.node? (buildPlace R)) {name : String}
    (hmem : buildPlace R ++ [name] ∈ spots R p) : fs.Direct (buildPlace R ++ [name]) := by
  intro q hq
  rcases List.prefix_concat_iff.mp hq with rfl | hq
  · exact h.left.plain _ hmem
  · exact (h.way_build hb hbuild hq).2

theorem Carries.facing {name : String} (hc : Carries (buildPlace R ++ [name]) fs fs')
    (h : Along R p makes fs₀ fs₀' fs fs') (hb : Beside R p makes fs₀ fs₀')
    (hbuild : fs'.node? (buildPlace R) = fs.node? (buildPlace R))
    (hmem : buildPlace R ++ [name] ∈ spots R p) : Facing fs fs' (buildPlace R) name := by
  obtain ⟨data, data', hdata, hdata', hsame⟩ := hc
  refine ⟨fun q hq => (h.way_build hb hbuild hq).1, h.direct_build hb hbuild hmem, ?_⟩
  rw [hdata, hdata']
  exact .file hsame.content hsame.mode

section Build

variable {toolchain : Path} {request : BuildRequest}
  (hb : Beside R request.platform makes fs₀ fs₀')

include hb

theorem build_of_publishes {answer : Except SystemError ProcessOutput} {content : Bytes}
    {mode : Nat} {modified : Int} (hok : Succeeds answer)
    (h : Publishes R request.os makes answer content mode modified fs₀ fs)
    (h' : Publishes R request.os makes answer content mode modified fs₀' fs') :
    fs'.node? (buildPlace R) = fs.node? (buildPlace R) := by
  rcases h.directory with hsame | ⟨hmakes, hnone, hdir⟩
  · rcases h'.directory with hsame' | ⟨hmakes, hnone', hdir'⟩
    · rcases hb.build with heq | ⟨hmakes, hnone, -⟩
      · rw [hsame, hsame', heq]
      · exact absurd (hsame.trans hnone) (h.made hok hmakes)
    · rcases hb.build with heq | ⟨-, hnone, -⟩
      · exact absurd (hsame.trans (heq.symm.trans hnone')) (h.made hok hmakes)
      · exact absurd (hsame.trans hnone) (h.made hok hmakes)
  · rcases h'.directory with hsame' | ⟨-, hnone', hdir'⟩
    · rcases hb.build with heq | ⟨-, -, hdir'⟩
      · exact absurd (hsame'.trans (heq.trans hnone)) (h'.made hok hmakes)
      · rw [hdir, hsame', hdir']
    · rw [hdir, hdir']

theorem publish_lockstep
    (hrunner : Consistent runner R (rootSettings R collision checksum) toolchain request.os makes) :
    Stage.Lockstep runner (Still fs₀ fs₀')
      (launch (publishInvocation toolchain (rootSettings R collision checksum) request))
      (launch (publishInvocation toolchain (rootSettings R collision checksum) request))
      (fun output output' fs fs' => output' = output ∧
        Along R request.platform makes fs₀ fs₀' fs fs' ∧
        (output.success = true → Delivered R request.platform makes fs₀ fs₀' fs fs'))
      (Along R request.platform makes fs₀ fs₀') := by
  obtain ⟨answer, content, mode, modified, hpublish⟩ :=
    hrunner.publish request.arch request.version
  refine launch_lockstep fun m n s t hstill => ?_
  obtain ⟨hm, hn⟩ := hstill
  obtain ⟨hanswer, h⟩ := hpublish m s
  obtain ⟨hanswer', h'⟩ := hpublish n t
  rw [hm] at h
  rw [hn] at h'
  generalize (runner (publishInvocation toolchain (rootSettings R collision checksum)
    ⟨request.arch, request.version, request.os⟩) m s) = r at hanswer h
  generalize (runner (publishInvocation toolchain (rootSettings R collision checksum)
    ⟨request.arch, request.version, request.os⟩) n t) = r' at hanswer' h'
  obtain ⟨reply, m', s'⟩ := r
  obtain ⟨reply', n', t'⟩ := r'
  obtain rfl : reply = answer := hanswer
  obtain rfl : reply' = reply := hanswer'
  have hpackages : ∀ {fs fs' : FileSystem},
      Publishes R request.os makes reply' content mode modified fs fs' →
      ∀ q, packagesPlace R <+: q → fs'.node? q = fs.node? q := fun h q hq =>
    h.elsewhere q (ne_build_of_packages hq) fun heq => (buildPlace_apart R).2 (heq ▸ hq)
  have halong : Along R request.platform makes fs₀ fs₀' m'.files n'.files :=
    hb.along.step (.of_published h.elsewhere h.directory h.plain hb.plain)
      (.of_published h'.elsewhere h'.directory h'.plain hb.plain') (hpackages h) (hpackages h')
  cases reply' with
  | error e => exact ⟨rfl, halong⟩
  | ok output =>
    refine ⟨rfl, halong, fun hsuccess => ?_⟩
    have hok : Succeeds (.ok output) := ⟨output, rfl, hsuccess⟩
    have hbuild := build_of_publishes hb hok h h'
    refine ⟨halong, hbuild, fun hdir => ?_⟩
    obtain ⟨serial, hfile⟩ := h.written hok hdir
    obtain ⟨serial', hfile'⟩ := h'.written hok (by rwa [hbuild])
    exact ⟨_, _, hfile, hfile', rfl, rfl, rfl⟩

end Build

theorem not_behind_of_packages {q : Location} {name : String} (h : packagesPlace R <+: q) :
    ¬ buildPlace R ++ [name] <+: q := by
  intro hq
  rcases List.prefix_or_prefix_of_prefix h hq with hup | hdown
  · exact ne_build_of_packages hup rfl
  · exact (buildPlace_apart R).1 ((List.prefix_append _ _).trans hdown)

theorem Machine.renamed_reply (m : Machine) (moved : FileSystem × Location × Location) :
    (m.renamed (.ok moved)).1 = .ok () := by
  unfold Machine.renamed
  dsimp only
  split <;> rfl

section Relocate

variable {os : Os} (hR : Plain R) (hb : Beside R p makes fs₀ fs₀')

include hR hb

theorem isRegularFile_lockstep :
    Lockstep runner (Delivered R p makes fs₀ fs₀')
      (Program.file (.isRegularFile (producedPath (rootSettings R collision checksum) p.os)))
      (Program.file (.isRegularFile (producedPath (rootSettings R collision checksum) p.os)))
      (fun there there' fs fs' => there' = there ∧ (there = true →
        Carries (producedPlace R p.os) fs fs') ∧ Delivered R p makes fs₀ fs₀' fs fs') := by
  intro w v hdelivered
  have hs := spells_produced collision checksum hR p.os
  have hmem : buildPlace R ++ [p.os.executable toolchainOutputName] ∈ spots R p := by
    simp [spots, producedPlace]
  have hdirect := hdelivered.along.direct_build hb hdelivered.build hmem
  change (v.machine.files.satisfies _ (producedPath (rootSettings R collision checksum) p.os) _ = _) ∧
    (w.machine.files.satisfies _ (producedPath (rootSettings R collision checksum) p.os) _ = _ → _) ∧ _
  by_cases hdir : ∃ dirMode, w.machine.files.node? (buildPlace R) = some (.directory dirMode)
  · have hcarries := hdelivered.output hdir
    exact ⟨(hcarries.facing hdelivered.along hb hdelivered.build hmem).satisfies hs _ _
      (fun _ => rfl), fun _ => hcarries, hdelivered⟩
  · have hno : ∀ here, w.machine.files.satisfies here
        (producedPath (rootSettings R collision checksum) p.os) Node.isRegular = false :=
      fun here => Bool.eq_false_iff.mpr fun hyes => hdir (hs.directory_of_satisfies hdirect hyes)
    have hdirect' : v.machine.files.Direct
        (buildPlace R ++ [p.os.executable toolchainOutputName]) := by
      intro q hq
      rcases List.prefix_concat_iff.mp hq with rfl | hq
      · exact hdelivered.along.left'.plain _ hmem
      · obtain ⟨hway, hplain⟩ := hdelivered.along.way_build hb hdelivered.build hq
        rwa [hway]
    have hno' : ∀ here, v.machine.files.satisfies here
        (producedPath (rootSettings R collision checksum) p.os) Node.isRegular = false := by
      refine fun here => Bool.eq_false_iff.mpr fun hyes => hdir ?_
      rw [← hdelivered.build]
      exact hs.directory_of_satisfies hdirect' hyes
    exact ⟨(hno' _).trans (hno _).symm, fun hyes => absurd ((hno _).symm.trans hyes) (by simp),
      hdelivered⟩

theorem rename_lockstep :
    Stage.Lockstep runner
      (fun fs fs' => Carries (producedPlace R p.os) fs fs' ∧ Delivered R p makes fs₀ fs₀' fs fs')
      (Stage.attempt (Program.file (.rename (producedPath (rootSettings R collision checksum) p.os)
        (canonicalPath (rootSettings R collision checksum) p.os))))
      (Stage.attempt (Program.file (.rename (producedPath (rootSettings R collision checksum) p.os)
        (canonicalPath (rootSettings R collision checksum) p.os))))
      (fun _ _ => Equipped R p makes fs₀ fs₀') (Along R p makes fs₀ fs₀') := by
  rintro w v ⟨⟨data, data', hdata, hdata', hsame⟩, hdelivered⟩
  have halong := hdelivered.along
  have hway := fun q hq => (halong.way_build hb hdelivered.build (q := q) hq).1
  have hdirect : w.machine.files.Direct (buildPlace R) :=
    fun q hq => (halong.way_build hb hdelivered.build hq).2
  have hdirect' : v.machine.files.Direct (buildPlace R) := fun q hq => by
    rw [hway q hq]
    exact hdirect q hq
  have hreply := renameWith_alike w.machine.directory v.machine.directory
    (spells_produced collision checksum hR p.os) (spells_canonical collision checksum hR p.os)
    (produced_ne_binary p.os) hdirect hway hdata hdata'
    (halong.left'.binary.trans (hb.binary.trans halong.left.binary.symm))
  change Ends _ _ (w.machine.renamed (w.machine.files.renameWith _ _ _)).1
    (v.machine.renamed (v.machine.files.renameWith _ _ _)).1
    (w.machine.renamed (w.machine.files.renameWith _ _ _)).2.files
    (v.machine.renamed (v.machine.files.renameWith _ _ _)).2.files
  rcases hreply with ⟨e, he, he'⟩ | ⟨moved, moved', hold, hok, hok'⟩
  · rw [he, he']
    exact ⟨rfl, halong⟩
  · have hmoved := moved_of_renamed hR hdirect hok
    have hmoved' := moved_of_renamed hR hdirect' hok'
    have hold' : (v.machine.files.node? (binaryPlace R p.os)).any Node.isDirectory = false :=
      (halong.left'.binary.trans (hb.binary.trans halong.left.binary.symm)).trans hold
    have hbuild : ∀ {m m' : Machine}, Moved R p.os m m' →
        m'.files.node? (buildPlace R) = m.files.node? (buildPlace R) := fun h =>
      h.same _ (not_behind_names (by simp [buildPlace]) _).1
        (not_behind_names (by simp [buildPlace]) _).2
    have hpackages : ∀ {m m' : Machine}, Moved R p.os m m' →
        ∀ q, packagesPlace R <+: q → m'.files.node? q = m.files.node? q := fun h q hq =>
      h.same q (not_behind_of_packages hq) (not_behind_of_packages hq)
    rw [hok, hok', Machine.renamed_reply, Machine.renamed_reply]
    refine ⟨halong.step (.of_moved hmoved hdata hold halong.left.plain)
      (.of_moved hmoved' hdata' hold' halong.left'.plain) (hpackages hmoved) (hpackages hmoved'),
      ?_, data, data', hmoved.binary.trans hdata, hmoved'.binary.trans hdata', hsame⟩
    rw [hbuild hmoved, hbuild hmoved', hdelivered.build]

theorem canonicalize_lockstep :
    Lockstep runner (Equipped R p makes fs₀ fs₀')
      (Program.file (.canonicalize (canonicalPath (rootSettings R collision checksum) p.os)))
      (Program.file (.canonicalize (canonicalPath (rootSettings R collision checksum) p.os)))
      (fun found found' fs fs' => ((∀ path, found = .ok path → path = pathOf (binaryPlace R p.os)) ∧
        ∀ path, found' = .ok path → path = pathOf (binaryPlace R p.os)) ∧
        Equipped R p makes fs₀ fs₀' fs fs') := by
  intro w v hequipped
  have halong := hequipped.along
  have hmem : buildPlace R ++ [p.os.executable productName] ∈ spots R p := by
    simp [spots, binaryPlace]
  have hfacing : Facing w.machine.files v.machine.files (buildPlace R) (p.os.executable productName) :=
    hequipped.binary.facing halong hb hequipped.build hmem
  refine ⟨⟨fun path hpath => ?_, fun path hpath => ?_⟩, hequipped⟩
  · exact path_of_found hR hfacing.direct (Or.inr hpath)
  · exact path_of_found hR hfacing.direct' (Or.inr hpath)

theorem relocate_lockstep :
    Stage.Lockstep runner (Delivered R p makes fs₀ fs₀')
      (relocate (rootSettings R collision checksum) p.os)
      (relocate (rootSettings R collision checksum) p.os)
      (fun path path' fs fs' => (path = pathOf (binaryPlace R p.os) ∧ path' = path) ∧
        Equipped R p makes fs₀ fs₀' fs fs')
      (Along R p makes fs₀ fs₀') := by
  refine Stage.Lockstep.bind (.lift (isRegularFile_lockstep hR hb)) fun there there' =>
    Stage.Lockstep.given fun heq => ?_
  obtain rfl := heq
  cases there' with
  | false =>
    dsimp only
    rw [if_neg (by simp)]
    exact fun w v hbefore => ⟨rfl, hbefore.2.along⟩
  | true =>
    dsimp only
    rw [if_pos rfl]
    refine (((rename_lockstep hR hb).orElse _).mono
      (fun _ _ hbefore => ⟨hbefore.1 rfl, hbefore.2⟩) (fun _ _ _ _ h => h)
      (fun _ _ h => h)).bind fun _ _ => ?_
    refine Stage.Lockstep.bind (.lift (canonicalize_lockstep hR hb)) fun found found' =>
      Stage.Lockstep.given fun hfound => ?_
    have hcanonical := canonicalPath_eq collision checksum hR p.os
    cases found with
    | error e =>
      cases found' with
      | error e' => exact .pure fun _ _ h => ⟨⟨hcanonical, rfl⟩, h⟩
      | ok path' => exact .pure fun _ _ h => ⟨⟨hcanonical, (hfound.2 _ rfl).trans hcanonical.symm⟩, h⟩
    | ok path =>
      cases found' with
      | error e' => exact .pure fun _ _ h => ⟨⟨hfound.1 _ rfl, hcanonical.trans (hfound.1 _ rfl).symm⟩, h⟩
      | ok path' =>
        exact .pure fun _ _ h => ⟨⟨hfound.1 _ rfl, (hfound.2 _ rfl).trans (hfound.1 _ rfl).symm⟩, h⟩

end Relocate

section Build

variable {toolchain : Path} {request : BuildRequest} (hR : Plain R)
  (hb : Beside R request.platform makes fs₀ fs₀')
  (hrunner : Consistent runner R (rootSettings R collision checksum) toolchain request.os makes)

include hR hb hrunner

theorem build_lockstep :
    Stage.Lockstep runner (Still fs₀ fs₀')
      (build toolchain (rootSettings R collision checksum) request)
      (build toolchain (rootSettings R collision checksum) request)
      (fun artifact artifact' fs fs' =>
        (artifact = ⟨pathOf (binaryPlace R request.os), request⟩ ∧ artifact' = artifact) ∧
          Equipped R request.platform makes fs₀ fs₀' fs fs')
      (Along R request.platform makes fs₀ fs₀') := by
  refine (Stage.Lockstep.note _).next fun _ => (Stage.Lockstep.note _).next fun _ => ?_
  refine ((publish_lockstep hb hrunner).orElse _).bind fun output output' =>
    Stage.Lockstep.given fun heq => ?_
  obtain rfl := heq
  by_cases hsuccess : output'.success = true
  · rw [if_pos hsuccess]
    have hrelocate : Stage.Lockstep runner
        (fun fs fs' => Along R request.platform makes fs₀ fs₀' fs fs' ∧ (output'.success = true →
          Delivered R request.platform makes fs₀ fs₀' fs fs'))
        (relocate (rootSettings R collision checksum) request.os)
        (relocate (rootSettings R collision checksum) request.os)
        (fun path path' fs fs' => (path = pathOf (binaryPlace R request.os) ∧ path' = path) ∧
          Equipped R request.platform makes fs₀ fs₀' fs fs')
        (Along R request.platform makes fs₀ fs₀') :=
      (relocate_lockstep hR hb).mono (fun _ _ h => h.2 hsuccess) (fun _ _ _ _ h => h)
        fun _ _ h => h
    refine hrelocate.bind fun path path' => Stage.Lockstep.given fun hpath => ?_
    obtain ⟨rfl, rfl⟩ := hpath
    exact (Stage.Lockstep.note _).next fun _ => .pure fun _ _ h => ⟨⟨rfl, rfl⟩, h⟩
  · rw [if_neg hsuccess]
    exact fun w v hbefore => ⟨rfl, hbefore.1⟩

end Build

/-! ## The tests -/

theorem Leftover.of_nodes (h : ∀ q, fs'.node? q = fs.node? q)
    (hplain : ∀ q ∈ spots R p, ∀ target, fs.node? q ≠ some (.link target)) :
    Leftover R p makes fs fs' :=
  ⟨fun q _ _ _ => h q, Or.inl (h _), Or.inl (h _), fun q hq target => h q ▸ hplain q hq target,
    by rw [h]⟩

theorem Equipped.of_nodes (h : Equipped R p makes fs₀ fs₀' fs fs')
    (hsame : ∀ q, fs₁.node? q = fs.node? q) (hsame' : ∀ q, fs₁'.node? q = fs'.node? q) :
    Equipped R p makes fs₀ fs₀' fs₁ fs₁' where
  along := h.along.step (.of_nodes hsame h.along.left.plain) (.of_nodes hsame' h.along.left'.plain)
    (fun q _ => hsame q) (fun q _ => hsame' q)
  build := by rw [hsame, hsame', h.build]
  binary := by
    unfold Carries
    rw [hsame, hsame']
    exact h.binary

section Test

variable {toolchain : Path} {settings : Settings}
  (hrunner : Consistent runner R settings toolchain p.os makes)

include hrunner

theorem test_lockstep {i : Invocation}
    (hi : i = formatInvocation (pathOf (binaryPlace R p.os)) ∨
      i = strictInvocation (pathOf (binaryPlace R p.os))) :
    Stage.Lockstep runner (Equipped R p makes fs₀ fs₀') (launch i) (launch i)
      (Agreed (Equipped R p makes fs₀ fs₀')) (Equipped R p makes fs₀ fs₀') := by
  obtain ⟨answer, htest⟩ := hrunner.test i hi
  refine launch_lockstep fun m n s t hequipped => ?_
  obtain ⟨data, data', hdata, hdata', hsame⟩ := hequipped.binary
  obtain ⟨hanswer, hnodes⟩ := htest m s data hdata
  obtain ⟨hanswer', hnodes'⟩ := htest n t data' hdata'
  have hafter := hequipped.of_nodes hnodes hnodes'
  rw [hsame.content] at hanswer'
  rw [hanswer, hanswer']
  cases answer data.content with
  | error e => exact ⟨rfl, hafter⟩
  | ok output => exact ⟨rfl, hafter⟩

theorem verify_lockstep {artifact : Artifact} (hpath : artifact.path = pathOf (binaryPlace R p.os)) :
    Stage.Lockstep runner (Equipped R p makes fs₀ fs₀') (verify artifact) (verify artifact)
      (fun verified verified' fs fs' => (verified' = verified ∧ verified.artifact = artifact) ∧
        Equipped R p makes fs₀ fs₀' fs fs')
      (Equipped R p makes fs₀ fs₀') := by
  have hformat : Stage.Lockstep runner (Equipped R p makes fs₀ fs₀')
      (runFormatTest artifact.path) (runFormatTest artifact.path)
      (Agreed (Equipped R p makes fs₀ fs₀')) (Equipped R p makes fs₀ fs₀') := by
    refine (Stage.Lockstep.note _).next fun _ => ?_
    refine ((test_lockstep hrunner (Or.inl (by rw [hpath]))).orElse _).next fun output => ?_
    exact (Stage.Lockstep.ofExcept _ fun _ _ h => h).next fun _ => .pure fun _ _ h => ⟨rfl, h⟩
  have hstrict : Stage.Lockstep runner (Equipped R p makes fs₀ fs₀')
      (runStrictTest artifact.path) (runStrictTest artifact.path)
      (Agreed (Equipped R p makes fs₀ fs₀')) (Equipped R p makes fs₀ fs₀') := by
    refine (Stage.Lockstep.note _).next fun _ => ?_
    refine ((test_lockstep hrunner (Or.inr (by rw [hpath]))).orElse _).next fun output => ?_
    exact (Stage.Lockstep.ofExcept _ fun _ _ h => h).next fun _ =>
      (Stage.Lockstep.note _).next fun _ => .pure fun _ _ h => ⟨rfl, h⟩
  refine (Stage.Lockstep.note _).next fun _ => hformat.next fun format => hstrict.next fun strict => ?_
  exact (Stage.Lockstep.note _).next fun _ => .pure fun _ _ h => ⟨⟨rfl, rfl⟩, h⟩

end Test

/-! ## Packaging -/

-- The lineage of a path that is given in part takes long to unfold, and no proof needs it here.
seal lineage

/-! ### The directory of packages -/

/-- The directory of packages is there on both machines, and so is the binary. -/
structure Packing (R : Location) (p : Platform) (makes : Bool) (fs₀ fs₀' : FileSystem)
    (data data' : FileData) (fs fs' : FileSystem) : Prop where
  along : Along R p makes fs₀ fs₀' fs fs'
  build : fs'.node? (buildPlace R) = fs.node? (buildPlace R)
  packages : fs'.node? (packagesPlace R) = fs.node? (packagesPlace R)
  binary : fs.node? (binaryPlace R p.os) = some (.file data)
  binary' : fs'.node? (binaryPlace R p.os) = some (.file data')

theorem Equipped.packing (h : Equipped R p makes fs₀ fs₀' fs fs')
    (hleft : Leftover R p makes fs fs₁) (hoff : SameOff (packagesPlace R) fs fs₁)
    (hleft' : Leftover R p makes fs' fs₁') (hoff' : SameOff (packagesPlace R) fs' fs₁')
    (hsame : fs₁'.node? (packagesPlace R) = fs₁.node? (packagesPlace R)) :
    ∃ data data', SameFile data data' ∧ Packing R p makes fs₀ fs₀' data data' fs₁ fs₁' := by
  obtain ⟨data, data', hdata, hdata', hfile⟩ := h.binary
  have hlike : ∀ q, q ≠ packagesPlace R → Like (fs.node? q) (fs'.node? q) →
      Like (fs₁.node? q) (fs₁'.node? q) := fun q hq hlike => by rwa [hoff q hq, hoff' q hq]
  refine ⟨data, data', hfile, ⟨h.along.left.trans hleft, h.along.left'.trans hleft', Or.inl hsame,
    hlike _ (ne_packagesPlace _) h.along.package, hlike _ (ne_packagesPlace _) h.along.sidecar⟩,
    ?_, hsame, ?_, ?_⟩
  · rw [hoff _ packagesPlace_ne_buildPlace.symm, hoff' _ packagesPlace_ne_buildPlace.symm, h.build]
  · exact (hoff _ (packagesPlace_ne _).symm).trans hdata
  · exact (hoff' _ (packagesPlace_ne _).symm).trans hdata'

section Packing

variable (hR : Plain R) (hb : Beside R p makes fs₀ fs₀')

include hR hb

omit hb in
theorem makeAll_packages {fs : FileSystem} {here : Location} {mode : Nat}
    (hreach : fs.Reaches here (pathOf R) R) (hmode : fs.node? R = some (.directory mode))
    (hlink : ∀ target, fs.node? (packagesPlace R) ≠ some (.link target)) :
    fs.makeAll here (lineage (rootSettings R collision checksum).packagesDir) =
      match refuse? (rootSettings R collision checksum).packagesDir with
      | some e => (.error e, fs)
      | none =>
        match fs.node? (packagesPlace R) with
        | some (.directory _) => (.ok (), fs)
        | some _ => (.error .alreadyThere, fs)
        | none =>
          if ownerWrites mode then
            (.ok (), fs.put (packagesPlace R) (.directory newDirectoryMode))
          else (.error .noAccess, fs) := by
  have hn : IsName packagesDirName := by decide
  exact hreach.makeAll hn (by decide) (isGone_of_plain hR) hmode hlink

omit hb in
theorem founded_packages {fs : FileSystem} {mode : Nat}
    (hmode : fs.node? R = some (.directory mode)) (hwrites : ownerWrites mode = true)
    (hnone : fs.node? (packagesPlace R) = none) :
    Founded fs (fs.put (packagesPlace R) (.directory newDirectoryMode)) R ∧
      SameOff (packagesPlace R) fs (fs.put (packagesPlace R) (.directory newDirectoryMode)) :=
  ⟨⟨hnone, node?_put_self (not_fixed_of_none hnone), isGone_of_plain hR, mode, hmode, hwrites⟩,
    fun _ hq => node?_put_of_ne hq⟩

theorem directories_lockstep (hreach : fs₀.Reaches [] (pathOf R) R) :
    Stage.Lockstep runner (Equipped R p makes fs₀ fs₀')
      (makeDirectories (rootSettings R collision checksum).packagesDir)
      (makeDirectories (rootSettings R collision checksum).packagesDir)
      (fun _ _ fs fs' => ∃ data data', SameFile data data' ∧
        Packing R p makes fs₀ fs₀' data data' fs fs')
      (Along R p makes fs₀ fs₀') := by
  intro w v h
  have halong := h.along
  have hup : ∀ q, q <+: R → q <+: versionPlace R := fun q hq => hq.trans (List.prefix_append _ _)
  have hdirect : fs₀.Direct R := fun q hq => hb.direct q (hup q hq)
  have hreach₁ : w.machine.files.Reaches w.machine.directory (pathOf R) R :=
    hreach.along hR hdirect fun q hq => halong.left.root hq
  have hreach₁' : v.machine.files.Reaches v.machine.directory (pathOf R) R :=
    hreach.along hR hdirect fun q hq => (halong.left'.root hq).trans (hb.way q (hup q hq))
  obtain ⟨mode, hmode, -⟩ := hreach₁.enterable
  have hmode' : v.machine.files.node? R = some (.directory mode) :=
    (halong.way hb (hup R (List.prefix_refl _))).trans hmode
  have hspot : packagesPlace R ∈ spots R p := by simp [spots]
  have hleft := halong.left.plain
  have hleft' := halong.left'.plain
  unfold makeDirectories
  rw [run_makeLineage, run_makeLineage, makeAll_packages hR hreach₁ hmode (hleft _ hspot),
    makeAll_packages hR hreach₁' hmode' (hleft' _ hspot)]
  cases refuse? (rootSettings R collision checksum).packagesDir with
  | some e => exact ⟨rfl, halong⟩
  | none =>
    dsimp only
    rcases halong.packages with hsame | ⟨hnone, hdir, hlate⟩
    · -- Both machines see the same at the place of packages, and do the same there.
      cases hnode : w.machine.files.node? (packagesPlace R) with
      | none =>
        have hnode' := hsame.trans hnode
        rw [hnode']
        dsimp only
        by_cases hwrites : ownerWrites mode = true
        · rw [if_pos hwrites, if_pos hwrites]
          obtain ⟨hfounded, hoff⟩ := founded_packages hR hmode hwrites hnode
          obtain ⟨hfounded', hoff'⟩ := founded_packages hR hmode' hwrites hnode'
          exact h.packing (.of_founded hfounded hoff hleft) hoff (.of_founded hfounded' hoff' hleft')
            hoff' (hfounded'.2.1.trans hfounded.2.1.symm)
        · rw [if_neg hwrites, if_neg hwrites]
          exact ⟨rfl, halong⟩
      | some node =>
        rw [hsame.trans hnode]
        cases node with
        | directory mode =>
          exact h.packing (.refl hleft) (SameOff.refl _ _) (.refl hleft') (SameOff.refl _ _) hsame
        | _ => exact ⟨rfl, halong⟩
    · -- Only the second machine has the directory, so the first one is able to make it.
      rcases hb.packages with hsame | ⟨-, -, -, mode', hmode₀, hwrites⟩
      · exact absurd hsame hlate
      · obtain rfl : mode = mode' := by
          rw [← halong.left.root (List.prefix_refl _), hmode] at hmode₀
          simpa using hmode₀
        rw [hnone, hdir]
        dsimp only
        rw [if_pos hwrites]
        obtain ⟨hfounded, hoff⟩ := founded_packages hR hmode hwrites hnone
        exact h.packing (.of_founded hfounded hoff hleft) hoff (.refl hleft') (SameOff.refl _ _)
          (hdir.trans hfounded.2.1.symm)

end Packing

theorem Packing.facing {data data' : FileData} {name : String}
    (h : Packing R p makes fs₀ fs₀' data data' fs fs') (hb : Beside R p makes fs₀ fs₀')
    (hplace : packagesPlace R ++ [name] = packagePlace R p ∨
      packagesPlace R ++ [name] = sidecarPlace R p) :
    Facing fs fs' (packagesPlace R) name := by
  have halong := h.along
  have hway : ∀ q, q <+: packagesPlace R →
      fs'.node? q = fs.node? q ∧ ∀ target, fs.node? q ≠ some (.link target) := by
    intro q hq
    rcases List.prefix_concat_iff.mp hq with rfl | hq
    · exact ⟨h.packages, halong.left.plain _ (by simp [spots, packagesPlace])⟩
    · have hversion : q <+: versionPlace R := hq.trans (List.prefix_append _ _)
      exact ⟨halong.way hb hversion, halong.direct hb q hversion⟩
  refine ⟨fun q hq => (hway q hq).1, fun q hq => ?_, ?_⟩
  · rcases List.prefix_concat_iff.mp hq with rfl | hq
    · exact halong.left.plain _ (by rw [mem_spots]; rcases hplace with h | h <;> simp [h])
    · exact (hway q hq).2
  · rcases hplace with h | h <;> rw [h]
    · exact halong.package
    · exact halong.sidecar

theorem Packing.tracks {data data' : FileData} {name : String} (hb : Beside R p makes fs₀ fs₀')
    (hplace : packagesPlace R ++ [name] = packagePlace R p ∨
      packagesPlace R ++ [name] = sidecarPlace R p) :
    Tracks (Packing R p makes fs₀ fs₀' data data') (packagesPlace R) name where
  facing h := h.facing hb hplace
  next h ha := by
    obtain ⟨hpackages, hbuild, hnames⟩ := target_ne hplace
    refine ⟨h.along.target hplace ha, ?_, ?_, ?_, ?_⟩
    · rw [ha.off _ hbuild.symm, ha.off' _ hbuild.symm, h.build]
    · rw [ha.off _ hpackages.symm, ha.off' _ hpackages.symm, h.packages]
    · exact (ha.off _ (hnames _).symm).trans h.binary
    · exact (ha.off' _ (hnames _).symm).trans h.binary'

section Package

variable {toolchain : Path} {request : BuildRequest} (hR : Plain R)
  (hb : Beside R request.platform makes fs₀ fs₀')

include hR hb

theorem package_lockstep {verified : VerifiedArtifact} (hreach : fs₀.Reaches [] (pathOf R) R)
    (hartifact : verified.artifact = ⟨pathOf (binaryPlace R request.os), request⟩) :
    Stage.Lockstep runner (Equipped R request.platform makes fs₀ fs₀')
      (package (rootSettings R collision checksum) verified)
      (package (rootSettings R collision checksum) verified)
      (Agreed (Along R request.platform makes fs₀ fs₀'))
      (Along R request.platform makes fs₀ fs₀') := by
  rw [package_eq]
  refine (Stage.Lockstep.note _).next fun _ => ?_
  refine ((directories_lockstep hR hb hreach).orElse _).bind fun _ _ => ?_
  refine .choose fun data => .choose fun data' => .given fun hfile => ?_
  have hpackage : packagesPlace R ++ [request.platform.packageName productName]
      = packagePlace R request.platform := rfl
  have hsidecar : packagesPlace R ++ [checksumName (request.platform.packageName productName)]
      = sidecarPlace R request.platform := rfl
  have ht : Tracks (Packing R request.platform makes fs₀ fs₀' data data') (packagesPlace R)
      (request.platform.packageName productName) := Packing.tracks hb (Or.inl hpackage)
  have ht' : Tracks (Packing R request.platform makes fs₀ fs₀' data data') (packagesPlace R)
      (checksumName (request.platform.packageName productName)) :=
    Packing.tracks hb (Or.inr hsidecar)
  have hs := spells_package collision checksum hR request
  have hs' := spells_sidecar collision checksum hR request
  have hrequest : verified.artifact.request = request := by rw [hartifact]
  have hbinary : ∀ {fs fs' : FileSystem}, Packing R request.platform makes fs₀ fs₀' data data' fs fs' →
      Facing fs fs' (buildPlace R) (request.os.executable productName) := fun h =>
    Carries.facing ⟨data, data', h.binary, h.binary', hfile⟩ h.along hb h.build
      (by simp [spots, binaryPlace, BuildRequest.platform])
  have hpath : Spells verified.artifact.path (buildPlace R) (request.os.executable productName) := by
    rw [hartifact]
    exact spells_pathOf (plain_buildPlace hR) (isName_binary _)
  rw [← hrequest] at hs hs'
  have hpack : ∀ replaced, Stage.Lockstep runner
      (Packing R request.platform makes fs₀ fs₀' data data')
      (packInto (rootSettings R collision checksum) verified replaced)
      (packInto (rootSettings R collision checksum) verified replaced)
      (Agreed (Along R request.platform makes fs₀ fs₀'))
      (Along R request.platform makes fs₀ fs₀') := fun replaced =>
    (packInto_lockstep (by rwa [hrequest]) hs (by rwa [hrequest]) hs' hbinary hpath hfile
      (fun h => h.binary) (fun h => h.binary')).mono (fun _ _ h => h)
        (fun _ _ _ _ h => ⟨h.1, h.2.along⟩) fun _ _ h => h.along
  refine Stage.Lockstep.next (.lift (pathExists_lockstep (fun h => ht.facing h)
    (hrequest ▸ hs))) fun replaced => ?_
  cases replaced with
  | false => exact hpack false
  | true => exact (Stage.Lockstep.note _).next fun _ => hpack true

end Package

/-! ## Releases -/

section Release

variable {toolchain : Path} {arch : Arch}

theorem releaseRequest_lockstep {request : BuildRequest} (hR : Plain R)
    (hb : Beside R request.platform makes fs₀ fs₀')
    (hrunner : Consistent runner R (rootSettings R collision checksum) toolchain request.os makes)
    (hreach : fs₀.Reaches [] (pathOf R) R) :
    Stage.Lockstep runner (Still fs₀ fs₀')
      (releaseRequest (rootSettings R collision checksum) toolchain request)
      (releaseRequest (rootSettings R collision checksum) toolchain request)
      (Agreed (Along R request.platform makes fs₀ fs₀'))
      (Along R request.platform makes fs₀ fs₀') := by
  have hstill : ∀ fs fs', Still fs₀ fs₀' fs fs' → Along R request.platform makes fs₀ fs₀' fs fs' := by
    rintro _ _ ⟨rfl, rfl⟩
    exact hb.along
  refine (Stage.Lockstep.note _).next fun _ => ?_
  refine (((available_lockstep hR hb).orElse _).mono (fun _ _ h => h) (fun _ _ _ _ h => h)
    hstill).next fun _ => ?_
  refine ((build_lockstep hR hb hrunner).orElse _).bind fun artifact artifact' =>
    .given fun hartifact => ?_
  obtain ⟨hartifact, rfl⟩ := hartifact
  have hpath : artifact'.path = pathOf (binaryPlace R request.platform.os) := by
    rw [hartifact]
    rfl
  refine (((verify_lockstep hrunner hpath).orElse _).mono (fun _ _ h => h) (fun _ _ _ _ h => h)
    fun _ _ h => h.along).bind fun verified verified' => .given fun hverified => ?_
  obtain ⟨rfl, hverified⟩ := hverified
  refine ((package_lockstep hR hb hreach (hverified.trans hartifact)).orElse _).next fun made => ?_
  exact (Stage.Lockstep.note _).next fun _ => .pure fun _ _ h => ⟨rfl, h⟩

/-- A release does the same on machines that are beside each other, and leaves them alike. -/
theorem release_lockstep {os : Os} (hR : Plain R) (hb : Beside R ⟨os, arch⟩ makes fs₀ fs₀')
    (hrunner : Consistent runner R (rootSettings R collision checksum) toolchain os makes) :
    Stage.Lockstep runner (Still fs₀ fs₀')
      (release (rootSettings R collision checksum) toolchain (.ok os) arch)
      (release (rootSettings R collision checksum) toolchain (.ok os) arch)
      (Agreed (Along R ⟨os, arch⟩ makes fs₀ fs₀')) (Along R ⟨os, arch⟩ makes fs₀ fs₀') := by
  have hstill : ∀ fs fs', Still fs₀ fs₀' fs fs' → Along R ⟨os, arch⟩ makes fs₀ fs₀' fs fs' := by
    rintro _ _ ⟨rfl, rfl⟩
    exact hb.along
  rw [release_supported]
  have hversion : Stage.Lockstep runner (Still fs₀ fs₀')
      (resolveVersion (rootSettings R collision checksum).versionFile)
      (resolveVersion (rootSettings R collision checksum).versionFile)
      (fun version version' fs fs' => fs₀.Reaches [] (pathOf R) R ∧
        Agreed (Still fs₀ fs₀') version version' fs fs')
      (Still fs₀ fs₀') :=
    @version_lockstep _ _ _ _ _ _ _ _ ⟨arch, "", os⟩ hR hb
  refine ((hversion.orElse _).mono (fun _ _ h => h) (fun _ _ _ _ h => h) hstill).bind
    fun version version' => .given fun hreach => .given fun heq => ?_
  obtain rfl := heq
  let request : BuildRequest := ⟨arch, version', os⟩
  have hb' : Beside R request.platform makes fs₀ fs₀' := hb
  exact releaseRequest_lockstep hR hb' hrunner hreach

end Release

/-! ## Releases of two architectures -/

theorem target_not_spot {os : Os} {x y : Arch} (hxy : x ≠ y) {t : Location}
    (ht : t = packagePlace R ⟨os, x⟩ ∨ t = sidecarPlace R ⟨os, x⟩) : t ∉ spots R ⟨os, y⟩ := by
  obtain ⟨hpackages, hbuild, hnames⟩ := target_ne ht
  rw [mem_spots]
  rintro (h | h | h | h | h | h)
  · exact hpackages h
  · exact hbuild h
  · exact hnames _ h
  · exact hnames _ h
  · rcases ht with ht | ht
    · exact (targetNames_ne hxy).1 (by simpa [packagePlace] using ht.symm.trans h)
    · exact packagePlace_ne_sidecarPlace _ _ (h.symm.trans ht)
  · rcases ht with ht | ht
    · exact packagePlace_ne_sidecarPlace _ _ (ht.symm.trans h)
    · exact (targetNames_ne hxy).2 (by simpa [sidecarPlace] using ht.symm.trans h)

/-- A release for another architecture leaves them alone. -/
theorem Leftover.other_target {os : Os} {x y : Arch} (h : Leftover R ⟨os, y⟩ makes fs fs')
    (hxy : x ≠ y) {t : Location}
    (ht : t = packagePlace R ⟨os, x⟩ ∨ t = sidecarPlace R ⟨os, x⟩) : fs'.node? t = fs.node? t := by
  have hlen : t.length ≤ R.length + 2 := by
    rcases ht with rfl | rfl
    · exact length_packagePlace.le
    · exact length_sidecarPlace.le
  exact h.same t (target_not_spot hxy ht) (not_behind_names hlen _).1 (not_behind_names hlen _).2

/-- After a release for one architecture, a release for another one finds what it would have found
before it. -/
theorem Leftover.beside {os : Os} {x y : Arch} (h : Leftover R ⟨os, y⟩ makes fs fs') (hxy : x ≠ y)
    (htree : fs.Tree) : Beside R ⟨os, x⟩ makes fs fs' where
  way q hq := h.version hq
  direct q _ := htree.links q
  packages := h.packages
  lacking hnone := by
    have hbelow : ∀ name, name ≠ "" → fs.node? (packagesPlace R ++ [name]) = none := fun name hname =>
      htree.rooted.none_below (by simp [hnone]) (List.cons_ne_nil _ _) (not_fixed_append hname)
    exact ⟨hbelow _ (isName_package _).ne_empty,
      hbelow _ (isName_checksumName (isName_package _)).ne_empty⟩
  package := by
    rw [h.other_target hxy (Or.inl rfl)]
    exact .same _
  sidecar := by
    rw [h.other_target hxy (Or.inr rfl)]
    exact .same _
  build := h.build
  binary := h.binary
  plain q _ := htree.links q
  plain' q hq target := by
    by_cases ht : q = packagePlace R ⟨os, x⟩ ∨ q = sidecarPlace R ⟨os, x⟩
    · rw [h.other_target hxy ht]
      exact htree.links q target
    · -- The other places are those of both architectures.
      refine h.plain q ?_ target
      rw [mem_spots] at hq ⊢
      tauto

theorem Ends.agreed {ε α : Type} {S : Pairing} {r r' : Except ε α}
    (h : Ends (Agreed S) S r r' fs fs') : r' = r ∧ S fs fs' := by
  cases r <;> cases r' <;> first | exact h.elim | exact ⟨by rw [h.1], h.2⟩

theorem not_build_of_packages {q : Location} (hq : packagesPlace R <+: q) :
    ¬ buildPlace R <+: q := fun hbuild =>
  (List.prefix_or_prefix_of_prefix hq hbuild).elim (buildPlace_apart R).2 (buildPlace_apart R).1

theorem packages_commute {os : Os} {x y : Arch} {fx fy fxy fyx : FileSystem}
    (hx : Along R ⟨os, x⟩ makes fs fy fx fyx) (hy : Along R ⟨os, y⟩ makes fs fx fy fxy) :
    fxy.node? (packagesPlace R) = fyx.node? (packagesPlace R) := by
  rcases hx.left.packages with hsame | ⟨hnone, hdir, -⟩
  · have hlast : fxy.node? (packagesPlace R) = fy.node? (packagesPlace R) :=
      hy.packages.resolve_right fun h => h.2.2 hsame
    rcases hy.left.packages with hsame' | ⟨hnone, hdir, -⟩
    · have hlast' : fyx.node? (packagesPlace R) = fx.node? (packagesPlace R) :=
        hx.packages.resolve_right fun h => h.2.2 hsame'
      rw [hlast, hlast', hsame, hsame']
    · rcases hx.left'.packages with hkept | ⟨hnone', -⟩
      · rw [hlast, hkept]
      · simp [hdir] at hnone'
  · have hlast : fyx.node? (packagesPlace R) = fx.node? (packagesPlace R) :=
      hx.packages.resolve_right fun h => by simp [hdir] at h
    rcases hy.left'.packages with hkept | ⟨hnone', -⟩
    · rw [hlast, hkept]
    · simp [hdir] at hnone'

/-- What is in the directory of packages, after releases of both architectures in either order. -/
theorem contents_commute {os : Os} {x y : Arch} {fx fy fxy fyx : FileSystem} (hxy : x ≠ y)
    (hx : Along R ⟨os, x⟩ makes fs fy fx fyx) (hy : Along R ⟨os, y⟩ makes fs fx fy fxy)
    {q : Location} (hq : packagesPlace R <+: q) : Like (fxy.node? q) (fyx.node? q) := by
  by_cases hdir : q = packagesPlace R
  · rw [hdir, packages_commute hx hy]
    exact .same _
  by_cases hqx : q = packagePlace R ⟨os, x⟩ ∨ q = sidecarPlace R ⟨os, x⟩
  · rw [hy.left'.other_target hxy hqx]
    rcases hqx with rfl | rfl
    · exact hx.package
    · exact hx.sidecar
  by_cases hqy : q = packagePlace R ⟨os, y⟩ ∨ q = sidecarPlace R ⟨os, y⟩
  · rw [hx.left'.other_target hxy.symm hqy]
    rcases hqy with rfl | rfl
    · exact hy.package.symm
    · exact hy.sidecar.symm
  · -- No release changes anything else there.
    have hbuild := not_build_of_packages hq
    have hbehind : ∀ name, ¬ buildPlace R ++ [name] <+: q := fun name hname =>
      hbuild ((List.prefix_append _ _).trans hname)
    have hspot : ∀ z, z = x ∨ z = y → q ∉ spots R ⟨os, z⟩ := by
      rintro z hz hmem
      rw [mem_spots] at hmem
      rcases hmem with h | h | h | h | h
      · exact hdir h
      · rw [h] at hbuild
        exact hbuild (List.prefix_refl _)
      · rw [h] at hbehind
        exact hbehind _ (List.prefix_refl _)
      · rw [h] at hbehind
        exact hbehind _ (List.prefix_refl _)
      · rcases hz with rfl | rfl
        · exact hqx h
        · exact hqy h
    have hkept : ∀ {z fs fs'}, (z = x ∨ z = y) → Leftover R ⟨os, z⟩ makes fs fs' →
        fs'.node? q = fs.node? q := fun hz h =>
      h.same q (hspot _ hz) (hbehind _) (hbehind _)
    rw [hkept (Or.inr rfl) hy.left', hkept (Or.inl rfl) hx.left, hkept (Or.inl rfl) hx.left',
      hkept (Or.inr rfl) hy.left]
    exact .same _

section Order

/-- What a release returns on a machine where nothing is refused, and what it leaves. -/
def World.releases (w : World σ) (runner : Runner σ) (settings : Settings) (toolchain : Path)
    (host : Host) (arch : Arch) : Except ReleaseError Report × World σ :=
  w.run runner (release settings toolchain host arch).run

variable {w v : World σ} {toolchain : Path}

theorem releases_beside {os : Os} {x : Arch} (hR : Plain R)
    (hrunner : Consistent runner R (rootSettings R collision checksum) toolchain os makes)
    (hb : Beside R ⟨os, x⟩ makes w.machine.files v.machine.files) :
    (v.releases runner (rootSettings R collision checksum) toolchain (.ok os) x).1
        = (w.releases runner (rootSettings R collision checksum) toolchain (.ok os) x).1 ∧
      Along R ⟨os, x⟩ makes w.machine.files v.machine.files
        (w.releases runner (rootSettings R collision checksum) toolchain (.ok os)
          x).2.machine.files
        (v.releases runner (rootSettings R collision checksum) toolchain (.ok os)
          x).2.machine.files := by
  unfold World.releases
  exact (release_lockstep hR hb hrunner w v ⟨rfl, rfl⟩).agreed

/-- Releases of two architectures end as they do in the other order, and leave the same packages. -/
theorem releases_commute {host : Host} {x y : Arch} (hR : Plain R) (htree : w.machine.files.Tree)
    (hrunner : ∀ os, host = .ok os →
      Consistent runner R (rootSettings R collision checksum) toolchain os makes) (hxy : x ≠ y) :
    let next (v : World σ) (arch : Arch) :=
      v.releases runner (rootSettings R collision checksum) toolchain host arch
    (next (next w y).2 x).1 = (next w x).1 ∧ (next (next w x).2 y).1 = (next w y).1 ∧
      ∀ q, packagesPlace R <+: q → Like ((next (next w x).2 y).2.machine.files.node? q)
        ((next (next w y).2 x).2.machine.files.node? q) := by
  dsimp only
  cases host with
  | error name => exact ⟨rfl, rfl, fun _ _ => .same _⟩
  | ok os =>
    have hleft : ∀ z other, z ≠ other → Leftover R ⟨os, z⟩ makes w.machine.files
        (w.releases runner (rootSettings R collision checksum) toolchain (.ok os)
          z).2.machine.files := by
      intro z other hz
      have hstill : Leftover R ⟨os, other⟩ makes w.machine.files w.machine.files :=
        .refl fun q _ => htree.links q
      exact (releases_beside hR (hrunner os rfl) (hstill.beside hz htree)).2.left
    obtain ⟨hsame, hx⟩ :=
      releases_beside hR (hrunner os rfl) ((hleft y x hxy.symm).beside hxy htree)
    obtain ⟨hsame', hy⟩ :=
      releases_beside hR (hrunner os rfl) ((hleft x y hxy).beside hxy.symm htree)
    exact ⟨hsame, hsame', fun q hq => contents_commute hxy hx hy hq⟩

theorem consistent_honestRunner (R : Location) (os : Os) (content : Bytes) (settings : Settings)
    (toolchain : Path) :
    Consistent (honestRunner R os content id) R settings toolchain os false where
  publish arch version := by
    refine ⟨.ok { code := some 0 }, content, newDirectoryMode, 0, fun m s => ?_⟩
    have hcall : honestRunner R os content id (publishInvocation toolchain settings
        ⟨arch, version, os⟩) m s
          = (.ok { code := some 0 }, { m with files := publish R os content m.files }, s) := by
      simp [honestRunner, publishInvocation]
    rw [hcall]
    have hoff := publish_sameOff R os content m.files
    have hself := publish_self R os content m.files
    exact ⟨rfl, fun q hq _ => hoff q hq, Or.inl (hoff _ (ne_of_way (List.prefix_refl _))),
      by simp [hself], by simp, fun _ _ => ⟨_, hself⟩⟩
  test i hi := by
    rcases hi with rfl | rfl
    · exact ⟨fun _ => .ok { code := some 0, stdout := Utf8.encode formatExpected }, fun m s _ _ =>
        by simp [honestRunner, formatInvocation]⟩
    · exact ⟨fun _ => .ok { code := some 1 }, fun m s _ _ =>
        by simp [honestRunner, strictInvocation, strictFlag]⟩

/-- The fresh project is released for both architectures in either order. -/
theorem fresh_releases_commute :
    let next (v : World Unit) (arch : Arch) := v.releases (honestRunner ["work"] .linux [0x7f] id)
      (rootSettings ["work"] .fail true) ⟨"/opt/dotnet"⟩ (.ok .linux) arch
    (next (next freshWorld .arm64).2 .amd64).1 = (next freshWorld .amd64).1 ∧
      (next (next freshWorld .amd64).2 .arm64).1 = (next freshWorld .arm64).1 ∧
      ∀ q, packagesPlace ["work"] <+: q →
        Like ((next (next freshWorld .amd64).2 .arm64).2.machine.files.node? q)
          ((next (next freshWorld .arm64).2 .amd64).2.machine.files.node? q) :=
  releases_commute (by decide)
    ⟨linkFree_of_entries (by decide), rooted_of_entries (by decide +kernel)⟩
    (fun os hos => by
      obtain rfl := Except.ok.inj hos
      exact consistent_honestRunner _ _ _ _ _) (by decide)

end Order

end Slipway
