import Slipway.Proofs.Lockstep
import Slipway.Proofs.Readiness

/-!
# What a release leaves behind

A release changes the directories that it makes, the binary, its package and its checksum file. Two
machines that differ in what another release may have left stay alike in what this one reads.
-/

namespace Slipway

open FileSystem World

variable {R : Location} {p : Platform} {makes : Bool} {fs fs' fs₀ fs₀' fs₁ fs₁' : FileSystem}

/-! ## What a release may change -/

/-- The places where a release looks for its own files or puts them. -/
def spots (R : Location) (p : Platform) : List Location :=
  [packagesPlace R, buildPlace R, producedPlace R p.os, binaryPlace R p.os, packagePlace R p,
    sidecarPlace R p]

theorem mem_spots {q : Location} : q ∈ spots R p ↔ q = packagesPlace R ∨ q = buildPlace R ∨
    q = producedPlace R p.os ∨ q = binaryPlace R p.os ∨ q = packagePlace R p ∨
    q = sidecarPlace R p := by
  simp [spots]

/-- The directory was made, in the directory above it. -/
def Founded (fs fs' : FileSystem) (R : Location) : Prop :=
  fs.node? (packagesPlace R) = none ∧
    fs'.node? (packagesPlace R) = some (.directory newDirectoryMode) ∧ fs.Changeable R

/-- What a release for a platform may have changed. `makes` tells whether the toolchain makes its
directory when that is missing. -/
structure Leftover (R : Location) (p : Platform) (makes : Bool) (fs fs' : FileSystem) : Prop where
  same : ∀ q, q ∉ spots R p → ¬ producedPlace R p.os <+: q → ¬ binaryPlace R p.os <+: q →
    fs'.node? q = fs.node? q
  packages : fs'.node? (packagesPlace R) = fs.node? (packagesPlace R) ∨ Founded fs fs' R
  build : fs'.node? (buildPlace R) = fs.node? (buildPlace R) ∨ makes = true ∧
    fs.node? (buildPlace R) = none ∧
    fs'.node? (buildPlace R) = some (.directory newDirectoryMode)
  plain : ∀ q ∈ spots R p, ∀ target, fs'.node? q ≠ some (.link target)
  binary : (fs'.node? (binaryPlace R p.os)).any Node.isDirectory
    = (fs.node? (binaryPlace R p.os)).any Node.isDirectory

/-! ### Places that differ -/

theorem packagePlace_ne_sidecarPlace (p q : Platform) : packagePlace R p ≠ sidecarPlace R q := by
  unfold packagePlace sidecarPlace
  rw [Ne, List.append_cancel_left_eq, List.cons.injEq]
  obtain ⟨os, arch⟩ := p
  obtain ⟨os', arch'⟩ := q
  cases os <;> cases arch <;> cases os' <;> cases arch' <;> decide

theorem targetNames_ne {os : Os} {x y : Arch} (h : x ≠ y) :
    Platform.packageName ⟨os, x⟩ productName ≠ Platform.packageName ⟨os, y⟩ productName ∧
      checksumName (Platform.packageName ⟨os, x⟩ productName)
        ≠ checksumName (Platform.packageName ⟨os, y⟩ productName) := by
  cases os <;> cases x <;> cases y <;> first | exact absurd rfl h | decide

theorem not_behind_names {q : Location} (h : q.length ≤ R.length + 2) (os : Os) :
    ¬ producedPlace R os <+: q ∧ ¬ binaryPlace R os <+: q := by
  constructor <;> intro hq <;> have hlen := hq.length_le <;>
    simp [producedPlace, binaryPlace, buildPlace] at hlen <;> omega

theorem length_packagePlace : (packagePlace R p).length = R.length + 2 := by
  simp [packagePlace, packagesPlace]

theorem length_sidecarPlace : (sidecarPlace R p).length = R.length + 2 := by
  simp [sidecarPlace, packagesPlace]

theorem version_not_spot {q : Location} (hq : q <+: versionPlace R) : q ∉ spots R p := by
  have hways : q <+: R ∨ q = R ++ ["src"] ∨ q = versionPlace R := by
    have hsplit : versionPlace R = R ++ ["src"] ++ ["version.txt"] := by simp [versionPlace]
    rw [hsplit] at hq ⊢
    rcases List.prefix_concat_iff.mp hq with rfl | hq
    · exact Or.inr (Or.inr rfl)
    · rcases List.prefix_concat_iff.mp hq with rfl | hq
      · exact Or.inr (Or.inl rfl)
      · exact Or.inl hq
  have hfar : ∀ names : List String, names ≠ [] → names ≠ ["src"] →
      names ≠ ["src", "version.txt"] → q ≠ R ++ names := by
    rintro names hnil hsrc hver rfl
    rcases hways with hup | heq | heq
    · have hlen := hup.length_le
      rw [List.length_append] at hlen
      exact hnil (List.length_eq_zero_iff.mp (by omega))
    · exact hsrc (List.append_cancel_left heq)
    · exact hver (List.append_cancel_left heq)
  rw [mem_spots]
  rintro (h | h | h | h | h | h)
  · exact hfar ["packages"] (by simp) (by simp) (by simp) h
  · exact hfar ["src", "build"] (by simp) (by simp) (by simp) h
  · exact hfar ["src", "build", p.os.executable toolchainOutputName] (by simp) (by simp) (by simp)
      (by rw [h]; simp [producedPlace, buildPlace])
  · exact hfar ["src", "build", p.os.executable productName] (by simp) (by simp) (by simp)
      (by rw [h]; simp [binaryPlace, buildPlace])
  · exact hfar ["packages", p.packageName productName] (by simp) (by simp) (by simp)
      (by rw [h]; simp [packagePlace, packagesPlace])
  · exact hfar ["packages", checksumName (p.packageName productName)] (by simp) (by simp) (by simp)
      (by rw [h]; simp [sidecarPlace, packagesPlace])

theorem length_of_version {q : Location} (hq : q <+: versionPlace R) :
    q.length ≤ R.length + 2 := by
  simpa [versionPlace] using hq.length_le

/-! ### Steps -/

namespace Leftover

theorem version {q : Location} (h : Leftover R p makes fs fs') (hq : q <+: versionPlace R) :
    fs'.node? q = fs.node? q :=
  h.same q (version_not_spot hq) (not_behind_names (length_of_version hq) _).1
    (not_behind_names (length_of_version hq) _).2

theorem root {q : Location} (h : Leftover R p makes fs fs') (hq : q <+: R) :
    fs'.node? q = fs.node? q :=
  h.version (hq.trans (List.prefix_append _ _))

theorem refl (h : ∀ q ∈ spots R p, ∀ target, fs.node? q ≠ some (.link target)) :
    Leftover R p makes fs fs :=
  ⟨fun _ _ _ _ => rfl, Or.inl rfl, Or.inl rfl, h, rfl⟩

theorem trans (h : Leftover R p makes fs fs') (h' : Leftover R p makes fs' fs₁) :
    Leftover R p makes fs fs₁ where
  same q hq hp hb := (h'.same q hq hp hb).trans (h.same q hq hp hb)
  packages := by
    rcases h'.packages with hsame' | ⟨hnone', hdir', hchange'⟩
    · rcases h.packages with hsame | ⟨hnone, hdir, hchange⟩
      · exact Or.inl (hsame'.trans hsame)
      · exact Or.inr ⟨hnone, hsame'.trans hdir, hchange⟩
    · rcases h.packages with hsame | ⟨hnone, hdir, -⟩
      · refine Or.inr ⟨hsame ▸ hnone', hdir', ?_⟩
        unfold Changeable at hchange' ⊢
        rwa [h.root (List.prefix_refl _)] at hchange'
      · rw [hdir] at hnone'
        simp at hnone'
  build := by
    rcases h'.build with hsame' | ⟨hmakes, hnone', hdir'⟩
    · rcases h.build with hsame | ⟨hmakes, hnone, hdir⟩
      · exact Or.inl (hsame'.trans hsame)
      · exact Or.inr ⟨hmakes, hnone, hsame'.trans hdir⟩
    · rcases h.build with hsame | ⟨-, hnone, hdir⟩
      · exact Or.inr ⟨hmakes, hsame ▸ hnone', hdir'⟩
      · rw [hdir] at hnone'
        simp at hnone'
  plain := h'.plain
  binary := h'.binary.trans h.binary

end Leftover

/-! ### Places that differ from the directories -/

theorem packagesPlace_ne_buildPlace : packagesPlace R ≠ buildPlace R :=
  fun h => (buildPlace_apart R).2 (h ▸ List.prefix_refl _)

theorem packages_ne_buildPlace (name : String) : packagesPlace R ++ [name] ≠ buildPlace R :=
  fun h => (buildPlace_apart R).2 (h ▸ List.prefix_append _ _)

theorem target_ne {t : Location} (h : t = packagePlace R p ∨ t = sidecarPlace R p) :
    t ≠ packagesPlace R ∧ t ≠ buildPlace R ∧ ∀ name, t ≠ buildPlace R ++ [name] := by
  rcases h with rfl | rfl <;>
    exact ⟨ne_packagesPlace _, packages_ne_buildPlace _, packages_ne_build _⟩

namespace Leftover

theorem of_target {t : Location} (ht : t = packagePlace R p ∨ t = sidecarPlace R p)
    (h : SameOff t fs fs') (hplain : ∀ q ∈ spots R p, ∀ target, fs.node? q ≠ some (.link target))
    (hafter : ∀ target, fs'.node? t ≠ some (.link target)) : Leftover R p makes fs fs' := by
  obtain ⟨hpackages, hbuild, hnames⟩ := target_ne ht
  refine ⟨fun q hq _ _ => h q ?_, Or.inl (h _ hpackages.symm), Or.inl (h _ hbuild.symm),
    fun q hq target => ?_, ?_⟩
  · rintro rfl
    rcases ht with rfl | rfl <;> simp [spots] at hq
  · by_cases heq : q = t
    · rw [heq]
      exact hafter target
    · rw [h q heq]
      exact hplain q hq target
  · have hbinary : fs'.node? (binaryPlace R p.os) = fs.node? (binaryPlace R p.os) :=
      h _ (hnames _).symm
    rw [hbinary]

theorem of_founded (hf : Founded fs fs' R) (h : SameOff (packagesPlace R) fs fs')
    (hplain : ∀ q ∈ spots R p, ∀ target, fs.node? q ≠ some (.link target)) :
    Leftover R p makes fs fs' := by
  refine ⟨fun q hq _ _ => h q ?_, Or.inr hf, Or.inl (h _ packagesPlace_ne_buildPlace.symm),
    fun q hq target => ?_, ?_⟩
  · rintro rfl
    simp [spots] at hq
  · by_cases heq : q = packagesPlace R
    · rw [heq, hf.2.1]
      simp
    · rw [h q heq]
      exact hplain q hq target
  · have hbinary : fs'.node? (binaryPlace R p.os) = fs.node? (binaryPlace R p.os) :=
      h _ (packagesPlace_ne _).symm
    rw [hbinary]

theorem of_moved {m m' : Machine} {data : FileData} (h : Moved R p.os m m')
    (hdata : m.files.node? (producedPlace R p.os) = some (.file data))
    (hold : (m.files.node? (binaryPlace R p.os)).any Node.isDirectory = false)
    (hplain : ∀ q ∈ spots R p, ∀ target, m.files.node? q ≠ some (.link target)) :
    Leftover R p makes m.files m'.files := by
  have hfar : ∀ q : Location, q.length ≤ R.length + 2 → m'.files.node? q = m.files.node? q :=
    fun q hq => h.same q (not_behind_names hq _).1 (not_behind_names hq _).2
  have hpackages := hfar (packagesPlace R) (by simp [packagesPlace])
  have hbuild := hfar (buildPlace R) (by simp [buildPlace])
  refine ⟨fun q _ hproduced hbinary => h.same q hproduced hbinary, Or.inl hpackages,
    Or.inl hbuild, fun q hq target => ?_, ?_⟩
  · have hq' := hq
    rw [mem_spots] at hq'
    rcases hq' with rfl | rfl | rfl | rfl | rfl | rfl
    · rw [hpackages]
      exact hplain _ hq target
    · rw [hbuild]
      exact hplain _ hq target
    · rw [h.produced]
      simp
    · rw [h.binary, hdata]
      simp
    · rw [hfar _ length_packagePlace.le]
      exact hplain _ hq target
    · rw [hfar _ length_sidecarPlace.le]
      exact hplain _ hq target
  · rw [h.binary, hdata, hold]
    rfl

theorem of_published (helse : ∀ q, q ≠ producedPlace R p.os → q ≠ buildPlace R →
      fs'.node? q = fs.node? q)
    (hbuild : fs'.node? (buildPlace R) = fs.node? (buildPlace R) ∨ makes = true ∧
      fs.node? (buildPlace R) = none ∧
      fs'.node? (buildPlace R) = some (.directory newDirectoryMode))
    (hafter : ∀ target, fs'.node? (producedPlace R p.os) ≠ some (.link target))
    (hplain : ∀ q ∈ spots R p, ∀ target, fs.node? q ≠ some (.link target)) :
    Leftover R p makes fs fs' := by
  refine ⟨fun q hq _ _ => ?_, Or.inl (helse _ (packagesPlace_ne _) packagesPlace_ne_buildPlace),
    hbuild, fun q hq target => ?_, ?_⟩
  · rw [mem_spots] at hq
    push Not at hq
    exact helse q hq.2.2.1 hq.2.1
  · by_cases hproduced : q = producedPlace R p.os
    · rw [hproduced]
      exact hafter target
    · by_cases hdir : q = buildPlace R
      · subst hdir
        rcases hbuild with hsame | ⟨-, -, hdir⟩
        · rw [hsame]
          exact hplain _ hq target
        · simp [hdir]
      · rw [helse q hproduced hdir]
        exact hplain q hq target
  · rw [helse _ (binary_ne_produced R p.os) (ne_of_way (List.prefix_refl _)).symm]

end Leftover

/-! ## Two machines -/

/-- Two machines on which a release for the platform does the same. The first one may lack a
directory that a release makes. -/
structure Beside (R : Location) (p : Platform) (makes : Bool) (fs fs' : FileSystem) : Prop where
  way : ∀ q, q <+: versionPlace R → fs'.node? q = fs.node? q
  direct : fs.Direct (versionPlace R)
  packages : fs'.node? (packagesPlace R) = fs.node? (packagesPlace R) ∨ Founded fs fs' R
  lacking : fs.node? (packagesPlace R) = none →
    fs.node? (packagePlace R p) = none ∧ fs.node? (sidecarPlace R p) = none
  package : Like (fs.node? (packagePlace R p)) (fs'.node? (packagePlace R p))
  sidecar : Like (fs.node? (sidecarPlace R p)) (fs'.node? (sidecarPlace R p))
  build : fs'.node? (buildPlace R) = fs.node? (buildPlace R) ∨ makes = true ∧
    fs.node? (buildPlace R) = none ∧
    fs'.node? (buildPlace R) = some (.directory newDirectoryMode)
  binary : (fs'.node? (binaryPlace R p.os)).any Node.isDirectory
    = (fs.node? (binaryPlace R p.os)).any Node.isDirectory
  plain : ∀ q ∈ spots R p, ∀ target, fs.node? q ≠ some (.link target)
  plain' : ∀ q ∈ spots R p, ∀ target, fs'.node? q ≠ some (.link target)

/-- The same machines later in a release. Its package and its checksum file are alike. -/
structure Along (R : Location) (p : Platform) (makes : Bool) (fs₀ fs₀' fs fs' : FileSystem) :
    Prop where
  left : Leftover R p makes fs₀ fs
  left' : Leftover R p makes fs₀' fs'
  packages : fs'.node? (packagesPlace R) = fs.node? (packagesPlace R) ∨
    fs.node? (packagesPlace R) = none ∧
      fs'.node? (packagesPlace R) = some (.directory newDirectoryMode) ∧
      fs₀'.node? (packagesPlace R) ≠ fs₀.node? (packagesPlace R)
  package : Like (fs.node? (packagePlace R p)) (fs'.node? (packagePlace R p))
  sidecar : Like (fs.node? (sidecarPlace R p)) (fs'.node? (sidecarPlace R p))

namespace Along

theorem step (h : Along R p makes fs₀ fs₀' fs fs') (hleft : Leftover R p makes fs fs₁)
    (hleft' : Leftover R p makes fs' fs₁')
    (hsame : ∀ q, packagesPlace R <+: q → fs₁.node? q = fs.node? q)
    (hsame' : ∀ q, packagesPlace R <+: q → fs₁'.node? q = fs'.node? q) :
    Along R p makes fs₀ fs₀' fs₁ fs₁' := by
  have hpackage : packagesPlace R <+: packagePlace R p := List.prefix_append _ _
  have hsidecar : packagesPlace R <+: sidecarPlace R p := List.prefix_append _ _
  refine ⟨h.left.trans hleft, h.left'.trans hleft', ?_, ?_, ?_⟩
  · rw [hsame _ (List.prefix_refl _), hsame' _ (List.prefix_refl _)]
    exact h.packages
  · rw [hsame _ hpackage, hsame' _ hpackage]
    exact h.package
  · rw [hsame _ hsidecar, hsame' _ hsidecar]
    exact h.sidecar

theorem way (h : Along R p makes fs₀ fs₀' fs fs') (hbeside : Beside R p makes fs₀ fs₀')
    {q : Location} (hq : q <+: versionPlace R) : fs'.node? q = fs.node? q := by
  rw [h.left'.version hq, h.left.version hq, hbeside.way q hq]

theorem direct (h : Along R p makes fs₀ fs₀' fs fs') (hbeside : Beside R p makes fs₀ fs₀') :
    fs.Direct (versionPlace R) := by
  intro q hq target
  rw [h.left.version hq]
  exact hbeside.direct q hq target

theorem target {t : Location} (ht : t = packagePlace R p ∨ t = sidecarPlace R p)
    (h : Along R p makes fs₀ fs₀' fs fs') (ha : Altered t fs fs' fs₁ fs₁') :
    Along R p makes fs₀ fs₀' fs₁ fs₁' := by
  obtain ⟨hpackages, -, -⟩ := target_ne ht
  have hplain' : ∀ target, fs₁'.node? t ≠ some (.link target) := ha.like.no_link ha.plain
  have hlike : ∀ q, Like (fs.node? q) (fs'.node? q) → Like (fs₁.node? q) (fs₁'.node? q) := by
    intro q hq
    by_cases heq : q = t
    · rw [heq]
      exact ha.like
    · rwa [ha.off q heq, ha.off' q heq]
  refine ⟨h.left.trans (.of_target ht ha.off h.left.plain ha.plain),
    h.left'.trans (.of_target ht ha.off' h.left'.plain hplain'), ?_, hlike _ h.package,
    hlike _ h.sidecar⟩
  rw [ha.off _ hpackages.symm, ha.off' _ hpackages.symm]
  exact h.packages

end Along

theorem Beside.along (h : Beside R p makes fs fs') : Along R p makes fs fs' fs fs' := by
  refine ⟨.refl h.plain, .refl h.plain', ?_, h.package, h.sidecar⟩
  rcases h.packages with hsame | ⟨hnone, hdir, -⟩
  · exact Or.inl hsame
  · exact Or.inr ⟨hnone, hdir, by simp [hnone, hdir]⟩

/-- Nothing has happened yet. -/
def Still (fs₀ fs₀' : FileSystem) : Pairing := fun fs fs' => fs = fs₀ ∧ fs' = fs₀'

end Slipway
