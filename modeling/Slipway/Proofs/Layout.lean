import Slipway.Proofs.Canonical
import Slipway.Proofs.Stages

/-!
# The usual layout

Where a release keeps its files below a root, and what the move of the binary to its canonical name
does there.
-/

namespace Slipway

open FileSystem World

variable {R : Location} {collision : CollisionPolicy} {checksum : Bool}

/-! ## The usual layout -/

/-- The usual settings below the root at `R`. -/
def rootSettings (R : Location) (collision : CollisionPolicy) (checksum : Bool) : Settings :=
  { Settings.below (pathOf R) with collision, checksum }

theorem isName_product (R : Location) (collision : CollisionPolicy) (checksum : Bool) :
    IsName (rootSettings R collision checksum).product := by
  change IsName productName
  decide

theorem isName_toolchainOutput (R : Location) (collision : CollisionPolicy) (checksum : Bool) :
    IsName (rootSettings R collision checksum).toolchainOutput := by
  change IsName toolchainOutputName
  decide

def packagesPlace (R : Location) : Location := R ++ ["packages"]
def buildPlace (R : Location) : Location := R ++ ["src", "build"]

section Names

variable (R : Location) (collision : CollisionPolicy) (checksum : Bool)

theorem packagesDir_join :
    (rootSettings R collision checksum).packagesDir = (pathOf R).join packagesDirName := rfl

theorem packagePath_join (request : BuildRequest) :
    packagePath (rootSettings R collision checksum) request
      = (rootSettings R collision checksum).packagesDir.join
        (request.platform.packageName productName) := rfl

theorem producedPath_join (os : Os) :
    producedPath (rootSettings R collision checksum) os
      = (rootSettings R collision checksum).buildDir.join (os.executable toolchainOutputName) := rfl

theorem canonicalPath_join (os : Os) :
    canonicalPath (rootSettings R collision checksum) os
      = (rootSettings R collision checksum).buildDir.join (os.executable productName) := rfl

end Names

section Layout

variable (collision : CollisionPolicy) (checksum : Bool) (hR : Plain R)

include hR

theorem stepsOf_root_join {right : String} (h : ¬ Path.isAbsolute ⟨right⟩) :
    stepsOf ((pathOf R).join right) = R ++ stepsOf ⟨right⟩ := by
  rw [stepsOf_join h, stepsOf_pathOf hR]

theorem stepsOf_packagesDir :
    stepsOf (rootSettings R collision checksum).packagesDir = packagesPlace R :=
  stepsOf_root_join hR (by decide)

theorem stepsOf_buildDir :
    stepsOf (rootSettings R collision checksum).buildDir = buildPlace R :=
  stepsOf_root_join hR (by decide)

omit hR in
theorem isAbsolute_root_join {right : String} (h : ¬ Path.isAbsolute ⟨right⟩) :
    ((pathOf R).join right).isAbsolute = true := by
  rw [Path.isAbsolute_join h]
  exact isAbsolute_pathOf R

omit hR in
theorem isAbsolute_packagesDir :
    (rootSettings R collision checksum).packagesDir.isAbsolute = true :=
  isAbsolute_root_join (by decide)

omit hR in
theorem isAbsolute_buildDir :
    (rootSettings R collision checksum).buildDir.isAbsolute = true :=
  isAbsolute_root_join (by decide)

theorem plain_packagesPlace : Plain (packagesPlace R) := hR.append (by decide)

theorem plain_buildPlace : Plain (buildPlace R) := hR.append (by decide)

end Layout

/-- No link is on the way to the packages or to the build directory. -/
def Clear (R : Location) (m : Machine) : Prop :=
  m.files.Direct (packagesPlace R) ∧ m.files.Direct (buildPlace R)

theorem buildPlace_apart (R : Location) :
    ¬ buildPlace R <+: packagesPlace R ∧ ¬ packagesPlace R <+: buildPlace R := by
  unfold buildPlace packagesPlace
  rw [List.prefix_append_right_inj, List.prefix_append_right_inj]
  decide

theorem place_of_packagesDir {fs : FileSystem} {here place : Location}
    {collision : CollisionPolicy} {checksum : Bool} (hR : Plain R)
    (hd : fs.Direct (packagesPlace R))
    (hreach : fs.Reaches here (rootSettings R collision checksum).packagesDir place) :
    place = packagesPlace R := by
  have hsteps := stepsOf_packagesDir collision checksum hR
  rw [← hsteps] at hd ⊢
  refine hreach.eq_stepsOf (isAbsolute_packagesDir collision checksum) ?_ hd
  rw [hsteps]
  exact plain_packagesPlace hR

theorem place_of_buildDir {fs : FileSystem} {here place : Location}
    {collision : CollisionPolicy} {checksum : Bool} (hR : Plain R)
    (hd : fs.Direct (buildPlace R))
    (hreach : fs.Reaches here (rootSettings R collision checksum).buildDir place) :
    place = buildPlace R := by
  have hsteps := stepsOf_buildDir collision checksum hR
  rw [← hsteps] at hd ⊢
  refine hreach.eq_stepsOf (isAbsolute_buildDir collision checksum) ?_ hd
  rw [hsteps]
  exact plain_buildPlace hR

theorem not_behind_build {q : Location} {name : String}
    (h : q <+: packagesPlace R ∨ q <+: buildPlace R) : ¬ buildPlace R ++ [name] <+: q := by
  intro hq
  rcases h with h | h
  · exact (buildPlace_apart R).1 (((List.prefix_append _ _).trans hq).trans h)
  · have hlen := (hq.trans h).length_le
    rw [List.length_append, List.length_singleton] at hlen
    omega

/-- Where the package for a platform belongs. -/
def packagePlace (R : Location) (p : Platform) : Location :=
  packagesPlace R ++ [p.packageName productName]

/-- Where the checksum file of the package for a platform belongs. -/
def sidecarPlace (R : Location) (p : Platform) : Location :=
  packagesPlace R ++ [checksumName (p.packageName productName)]

theorem ne_packagesPlace (name : String) : packagesPlace R ++ [name] ≠ packagesPlace R := by
  intro h
  have hlen := congrArg List.length h
  simp at hlen

theorem ne_build_of_packages {q : Location} {name : String} (h : packagesPlace R <+: q) :
    q ≠ buildPlace R ++ [name] := by
  rintro rfl
  rcases List.prefix_concat_iff.mp h with heq | h
  · have hlen := congrArg List.length heq
    simp [packagesPlace, buildPlace] at hlen
  · exact (buildPlace_apart R).2 h

theorem packages_ne_build (name other : String) :
    packagesPlace R ++ [name] ≠ buildPlace R ++ [other] :=
  ne_build_of_packages (List.prefix_append _ _)

/-! ## The places of a release -/

def versionPlace (R : Location) : Location := R ++ ["src", "version.txt"]

/-- Where the toolchain leaves the binary. -/
def producedPlace (R : Location) (os : Os) : Location :=
  buildPlace R ++ [os.executable toolchainOutputName]

/-- Where the binary belongs. -/
def binaryPlace (R : Location) (os : Os) : Location := buildPlace R ++ [os.executable productName]

theorem isName_produced (os : Os) : IsName (os.executable toolchainOutputName) :=
  isName_executable (by decide) os

theorem isName_binary (os : Os) : IsName (os.executable productName) :=
  isName_executable (by decide) os

theorem produced_ne_binary (os : Os) :
    os.executable toolchainOutputName ≠ os.executable productName := by
  cases os <;> decide

theorem plain_concat {place : Location} {name : String} (hp : Plain place) (hn : IsName name) :
    Plain (place ++ [name]) :=
  hp.append (by simpa [Plain] using hn)

section Layout

variable (collision : CollisionPolicy) (checksum : Bool) (hR : Plain R)

include hR

theorem plain_binaryPlace (os : Os) : Plain (binaryPlace R os) :=
  plain_concat (plain_buildPlace hR) (isName_binary os)

theorem versionFile_eq :
    (rootSettings R collision checksum).versionFile = pathOf (versionPlace R) := by
  change (pathOf R).join versionFileName = pathOf (R ++ ["src", "version.txt"])
  exact join_pathOf hR (by simp) (by decide) (by decide)

theorem packagesDir_eq :
    (rootSettings R collision checksum).packagesDir = pathOf (packagesPlace R) := by
  change (pathOf R).join packagesDirName = pathOf (R ++ ["packages"])
  exact join_pathOf hR (by simp) (by decide) (by decide)

theorem buildDir_eq : (rootSettings R collision checksum).buildDir = pathOf (buildPlace R) := by
  change (pathOf R).join buildDirName = pathOf (R ++ ["src", "build"])
  exact join_pathOf hR (by simp) (by decide) (by decide)

theorem canonicalPath_eq (os : Os) :
    canonicalPath (rootSettings R collision checksum) os = pathOf (binaryPlace R os) := by
  unfold canonicalPath
  rw [buildDir_eq collision checksum hR]
  exact (isName_binary os).join_pathOf (plain_buildPlace hR)

end Layout

/-! ## Ways without links -/

/-- No link is on the way to the packages, nor to the binary under either of its names. -/
structure Linkless (R : Location) (m : Machine) : Prop where
  packages : m.files.Direct (packagesPlace R)
  produced : ∀ os, m.files.Direct (producedPlace R os)
  binary : ∀ os, m.files.Direct (binaryPlace R os)

theorem Linkless.build {m : Machine} (h : Linkless R m) : m.files.Direct (buildPlace R) :=
  fun q hq => h.binary .linux q (hq.trans (List.prefix_append _ _))

theorem Linkless.clear {m : Machine} (h : Linkless R m) : Clear R m := ⟨h.packages, h.build⟩

theorem direct_append {fs : FileSystem} {names : Location} (h : fs.Direct R)
    (ho : ∀ q, R <+: q → fs.Ordinary q) : fs.Direct (R ++ names) := by
  intro q hq target
  rcases List.prefix_or_prefix_of_prefix hq (List.prefix_append R names) with hup | hdown
  · exact h q hup target
  · exact (ho q hdown).1 target

theorem linkless_of_ordinary {m : Machine} (h : m.files.Direct R)
    (ho : ∀ q, R <+: q → m.files.Ordinary q) : Linkless R m := by
  refine ⟨direct_append h ho, fun os => ?_, fun os => ?_⟩
  · unfold producedPlace buildPlace
    rw [List.append_assoc]
    exact direct_append h ho
  · unfold binaryPlace buildPlace
    rw [List.append_assoc]
    exact direct_append h ho

theorem renamed_node {m : Machine} {dir : Path} {P : Location} {name newName : String}
    {moved : FileSystem × Location × Location} (hn : IsName name) (hn' : IsName newName)
    (hne : name ≠ newName) (hP : ∀ place, m.files.Reaches m.directory dir place → place = P)
    (h : m.files.renameWith m.directory (dir.join name) (dir.join newName) = .ok moved) :
    (m.renamed (.ok moved)).2.files.node? (P ++ [newName]) = m.files.node? (P ++ [name]) ∧
      (m.renamed (.ok moved)).2.files.node? (P ++ [name]) = none := by
  obtain ⟨place, hreach, hplaces, node, -, hmoved⟩ := renameWith_join hn hn' h
  obtain rfl := hP place hreach
  obtain ⟨files, origin, destination⟩ := moved
  obtain ⟨rfl, rfl⟩ := Prod.mk.inj hplaces
  have hdiffer : place ++ [name] ≠ place ++ [newName] := by simpa using hne
  have hapart : ¬ place ++ [newName] <+: place ++ [name] := fun hunder =>
    hdiffer (hunder.eq_of_length (by simp)).symm
  simp only [Machine.renamed, if_neg hdiffer]
  rcases hmoved with ⟨-, heq⟩ | ⟨hmoved, -⟩
  · exact absurd heq hdiffer
  · simp only at hmoved
    rw [hmoved]
    exact ⟨node?_moveTree_new (not_fixed_append hn.ne_empty) (not_fixed_append hn'.ne_empty) hapart,
      node?_moveTree_origin (not_fixed_append hn.ne_empty) (List.prefix_refl _) hapart⟩

/-- The published binary got its canonical name, and nothing else was moved. -/
structure Moved (R : Location) (os : Os) (m m' : Machine) : Prop where
  binary : m'.files.node? (binaryPlace R os) = m.files.node? (producedPlace R os)
  produced : m'.files.node? (producedPlace R os) = none
  same : ∀ q, ¬ producedPlace R os <+: q → ¬ binaryPlace R os <+: q →
    m'.files.node? q = m.files.node? q

theorem moved_of_renamed {m : Machine} {os : Os} {moved : FileSystem × Location × Location}
    (hR : Plain R) (hd : m.files.Direct (buildPlace R))
    (h : m.files.renameWith m.directory (producedPath (rootSettings R collision checksum) os)
      (canonicalPath (rootSettings R collision checksum) os) = .ok moved) :
    Moved R os m (m.renamed (.ok moved)).2 := by
  have hplace : ∀ place,
      m.files.Reaches m.directory (rootSettings R collision checksum).buildDir place →
        place = buildPlace R := fun _ hreach => place_of_buildDir hR hd hreach
  obtain ⟨hbinary, hproduced⟩ :=
    renamed_node (isName_produced os) (isName_binary os) (produced_ne_binary os) hplace h
  obtain ⟨place, hreach, hsame⟩ := renamed_frame (isName_produced os) (isName_binary os) h
  obtain rfl := hplace place hreach
  exact ⟨hbinary, hproduced, hsame⟩

theorem path_of_found {fs : FileSystem} {here : Location} {path : Path} {os : Os} (hR : Plain R)
    (hd : fs.Direct (binaryPlace R os))
    (h : path = canonicalPath (rootSettings R collision checksum) os ∨
      fs.canonicalize here (canonicalPath (rootSettings R collision checksum) os) = .ok path) :
    path = pathOf (binaryPlace R os) := by
  rw [canonicalPath_eq collision checksum hR] at h
  rcases h with hsame | hfound
  · exact hsame
  · have hplain := plain_binaryPlace hR os
    have hsteps := walkSteps_pathOf hplain (by simp [binaryPlace])
    rw [← hsteps] at hplain hd
    rw [canonicalize_direct (isAbsolute_pathOf _) hplain hd hfound, hsteps]

theorem concat_prefix_concat {place : Location} {name other : String}
    (h : place ++ [name] <+: place ++ [other]) : name = other := by
  simpa using h.eq_of_length (by simp)

theorem Moved.linkless {m m' : Machine} {os : Os} (h : Moved R os m m') (hl : Linkless R m) :
    Linkless R m' := by
  have hway : ∀ q, q <+: packagesPlace R ∨ q <+: buildPlace R →
      m'.files.node? q = m.files.node? q :=
    fun q hq => h.same q (not_behind_build hq) (not_behind_build hq)
  -- A name in the build directory stays, or it is one of the two that the rename is about.
  have hname : ∀ name, m.files.Direct (buildPlace R ++ [name]) →
      m'.files.Direct (buildPlace R ++ [name]) := by
    intro name hd q hq target
    rcases List.prefix_concat_iff.mp hq with rfl | hq
    · by_cases hb : name = os.executable productName
      · subst hb
        have hold := hl.produced os _ (List.prefix_refl _) target
        rw [← h.binary] at hold
        exact hold
      · by_cases hp : name = os.executable toolchainOutputName
        · subst hp
          have hnone := h.produced
          unfold producedPlace at hnone
          simp [hnone]
        · rw [h.same _ (fun hq => hp (concat_prefix_concat hq).symm)
            (fun hq => hb (concat_prefix_concat hq).symm)]
          exact hd _ (List.prefix_refl _) target
    · rw [hway q (Or.inr hq)]
      exact hl.build q hq target
  refine ⟨fun q hq target => ?_, fun os' => hname _ (hl.produced os'),
    fun os' => hname _ (hl.binary os')⟩
  rw [hway q (Or.inl hq)]
  exact hl.packages q hq target

/-! ## Ways -/

/-- The path of a location leads there when every directory on the way can be walked through. -/
theorem reaches_pathOf {fs : FileSystem} {here P : Location} (hp : Plain P)
    (hsizes : ∀ name ∈ P, name.utf8ByteSize ≤ maxNameBytes)
    (henter : ∀ q, q <+: P → fs.Enterable q) : fs.Reaches here (pathOf P) P := by
  unfold Reaches startOf
  rw [if_pos (isAbsolute_pathOf P), stepsOf_pathOf hp,
    walk_of_enterable hp hsizes (fun q _ hq => henter q (by simpa using hq)) (by simp),
    List.nil_append]
  exact walk_dot.mpr ⟨henter _ (List.prefix_refl _), rfl⟩

theorem FileSystem.Reaches.along {fs fs' : FileSystem} {here here' P : Location}
    (h : fs.Reaches here (pathOf P) P) (hp : Plain P) (hd : fs.Direct P)
    (hsame : ∀ q, q <+: P → fs'.node? q = fs.node? q) : fs'.Reaches here' (pathOf P) P := by
  unfold Reaches startOf at h
  rw [if_pos (isAbsolute_pathOf P), stepsOf_pathOf hp] at h
  obtain ⟨henter, hsizes, -⟩ := walk_down hp (fun q _ hq => hd q (by simpa using hq)) (by simp) h
  refine reaches_pathOf hp hsizes (fun q hq => ?_)
  obtain ⟨mode, hnode, hexec⟩ := henter q List.nil_prefix (by simpa using hq)
  exact ⟨mode, by rw [hsame q hq, hnode], hexec⟩

theorem size_packageName (p : Platform) :
    (p.packageName productName).utf8ByteSize ≤ maxNameBytes := by
  obtain ⟨os, arch⟩ := p
  cases os <;> cases arch <;> decide

end Slipway
