import Slipway.Proofs.History

/-!
# Checksum files and their packages

A checksum file describes the package next to it until a forced release drops or replaces the
package and leaves the checksum file. Nothing else in a history separates the two.
-/

namespace Slipway

open FileSystem World

variable {may : Refusals} {R : Location} {fs fs' fs₁ : FileSystem} {p q : Platform}
  {collision : CollisionPolicy} {checksum : Bool} {host : Host} {arch : Arch}

theorem sameBut_of_ne (h : SameBut (packagesPlace R) (p.packageName productName) fs fs')
    (hq : q ≠ p) :
    fs'.node? (packagePlace R q) = fs.node? (packagePlace R q) ∧
      fs'.node? (sidecarPlace R q) = fs.node? (sidecarPlace R q) := by
  refine ⟨h _ ?_ ?_, h _ ?_ ?_⟩ <;> intro heq <;>
    have hname := List.singleton_inj.mp (List.append_cancel_left heq)
  · exact hq (packageName_injective hname).2
  · exact checksumName_ne_packageName _ hname.symm
  · exact checksumName_ne_packageName _ hname
  · exact hq (packageName_injective (checksumName_injective hname)).2

/-! ## Descriptions -/

/-- What a checksum file says of a package with this content. -/
def sidecarText (p : Platform) (content : Bytes) : Bytes :=
  Utf8.encode ((ContentHash.ofBytes content).checksumLine (p.packageName productName))

/-- The checksum file of the package for a platform describes it, if it is there. -/
def DescribedFor (R : Location) (p : Platform) (fs : FileSystem) : Prop :=
  ∀ node, fs.node? (sidecarPlace R p) = some node → ∃ sidecar data, node = .file sidecar ∧
    fs.node? (packagePlace R p) = some (.file data) ∧ sidecar.content = sidecarText p data.content

/-- Every checksum file describes the package next to it. -/
def Described (R : Location) (fs : FileSystem) : Prop := ∀ p, DescribedFor R p fs

theorem DescribedFor.of_same (h : DescribedFor R p fs)
    (hs : fs'.node? (packagePlace R p) = fs.node? (packagePlace R p) ∧
      fs'.node? (sidecarPlace R p) = fs.node? (sidecarPlace R p)) : DescribedFor R p fs' := by
  unfold DescribedFor
  rw [hs.1, hs.2]
  exact h

theorem describedFor_of_none (h : fs.node? (sidecarPlace R p) = none) : DescribedFor R p fs := by
  intro node hnode
  rw [h] at hnode
  simp at hnode

/-- The directory of packages was created by a release, if it is there, and only files are in it. -/
structure Tidy (R : Location) (fs : FileSystem) : Prop where
  home : fs.node? (packagesPlace R) = none ∨
    fs.node? (packagesPlace R) = some (.directory newDirectoryMode)
  files : ∀ name, name ≠ "" → fs.node? (packagesPlace R ++ [name]) = none ∨
    ∃ data, fs.node? (packagesPlace R ++ [name]) = some (.file data)

theorem Tidy.ordinary (h : Tidy R fs) (name : String) : fs.Ordinary (packagesPlace R ++ [name]) := by
  by_cases hname : name = ""
  · have hfixed : Fixed (packagesPlace R ++ [name]) := Or.inr (by simp [isGone, hname])
    exact ⟨fun target => by simp [node?_of_fixed hfixed], fun d => by simp [node?_of_fixed hfixed]⟩
  · rcases h.files name hname with hnone | ⟨data, hdata⟩
    · exact ordinary_of_none hnone
    · exact ⟨fun target => by simp [hdata], fun d => by simp [hdata]⟩

theorem Opened.same (h : Opened (packagesPlace R) fs fs') (name : String) :
    fs'.node? (packagesPlace R ++ [name]) = fs.node? (packagesPlace R ++ [name]) := by
  rcases h _ (List.prefix_append _ _) with hsame | ⟨heq, -⟩
  · exact hsame
  · exact absurd heq (ne_packagesPlace name)

theorem Tidy.opened (h : Tidy R fs) (ho : Opened (packagesPlace R) fs fs') : Tidy R fs' where
  home := by
    rcases ho _ (List.prefix_refl _) with hsame | ⟨-, -, hdir⟩
    · rw [hsame]
      exact h.home
    · exact Or.inr hdir
  files name hname := by
    rw [ho.same name]
    exact h.files name hname

theorem Opened.of_sameBelow {P : Location} (h : SameBelow P fs fs') : Opened P fs fs' :=
  fun q hq => Or.inl (h q hq)

theorem DescribedFor.opened (h : DescribedFor R p fs) (ho : Opened (packagesPlace R) fs fs') :
    DescribedFor R p fs' :=
  h.of_same ⟨ho.same _, ho.same _⟩

theorem Tidy.reliable {here : Location} {dir : Path} (h : Tidy R fs)
    (hreach : fs.Reaches here dir (packagesPlace R)) (hmay : ∀ path, ¬ may (.remove path)) :
    Reliable may fs (packagesPlace R) := by
  refine ⟨hmay, by simp [isGone, packagesPlace], newDirectoryMode, ?_, by decide⟩
  obtain ⟨mode, hdir, -⟩ := hreach.enterable
  rcases h.home with hnone | hdir'
  · rw [hnone] at hdir
    simp at hdir
  · exact hdir'

/-! ## One release -/

/-- A forced release found a checksum file for its platform and left it as it was, although it
dropped the package or replaced it by another one. -/
def Orphaned (R : Location) (p : Platform) (collision : CollisionPolicy) (checksum : Bool)
    (fs fs' : FileSystem) (r : Except ReleaseError Report) : Prop :=
  collision = .overwrite ∧ ∃ sidecar, fs.node? (sidecarPlace R p) = some (.file sidecar) ∧
    fs'.node? (sidecarPlace R p) = some (.file sidecar) ∧
    ((∃ e, r = .error (.packaging e)) ∧ fs'.node? (packagePlace R p) = none ∨
      (∃ report, r = .ok report) ∧ checksum = false ∧ ∃ data,
        fs'.node? (packagePlace R p) = some (.file data) ∧
        sidecar.content ≠ sidecarText p data.content)

theorem Orphaned.not_described {r : Except ReleaseError Report}
    (h : Orphaned R p collision checksum fs fs' r) : ¬ Described R fs' := by
  obtain ⟨-, sidecar, -, hside, hbad⟩ := h
  intro hd
  obtain ⟨sidecar', data, heq, hdata, htext⟩ := hd p _ hside
  obtain rfl := Node.file.inj heq
  rcases hbad with ⟨-, hnone⟩ | ⟨-, -, data', hdata', hne⟩
  · rw [hdata] at hnone
    simp at hnone
  · rw [hdata, Option.some.injEq, Node.file.injEq] at hdata'
    subst hdata'
    exact hne htext

/-- What packaging for a platform does to a tidy directory of packages. -/
inductive Repacked (R : Location) (p : Platform) (collision : CollisionPolicy) (checksum : Bool)
    (fs fs' : FileSystem) : Except PackagingError Package → Prop
  | untouched {e : PackagingError} (same : fs' = fs) :
    Repacked R p collision checksum fs fs' (.error e)
  | dropped {e : PackagingError} (same : SameBut (packagesPlace R) (p.packageName productName) fs fs')
    (fresh : collision = .fail → fs.node? (packagePlace R p) = none)
    (gone : fs'.node? (packagePlace R p) = none)
    (sidecar : fs'.node? (sidecarPlace R p) = fs.node? (sidecarPlace R p) ∨
      fs'.node? (sidecarPlace R p) = none) :
    Repacked R p collision checksum fs fs' (.error e)
  | made {package : Package} {data : FileData}
    (same : SameBut (packagesPlace R) (p.packageName productName) fs fs')
    (fresh : collision = .fail → fs.node? (packagePlace R p) = none)
    (stands : fs'.node? (packagePlace R p) = some (.file data))
    (plain : checksum = false → fs'.node? (sidecarPlace R p) = fs.node? (sidecarPlace R p))
    (described : checksum = true → ∃ sidecar, fs'.node? (sidecarPlace R p) = some (.file sidecar) ∧
      sidecar.content = sidecarText p data.content) :
    Repacked R p collision checksum fs fs' (.ok package)

theorem Packaged.repacked {verified : VerifiedArtifact} {here : Location}
    {r : Except PackagingError Package} (hR : Plain R) (ht : Tidy R fs)
    (hd : fs.Direct (packagesPlace R)) (hmay : ∀ path, ¬ may (.remove path))
    (h : Packaged (rootSettings R collision checksum) verified may here fs fs' r) :
    Repacked R verified.artifact.request.platform collision checksum fs fs' r := by
  cases h with
  | untouched same => exact .untouched same
  | dropped named reaches fresh changeable same gone sidecar =>
    obtain rfl := place_of_packagesDir hR hd reaches
    subst named
    have hrel := ht.reliable reaches hmay
    refine .dropped same fresh (gone hrel) ?_
    rcases sidecar with hsame | ⟨-, hsame | ⟨-, hgone⟩⟩
    · exact Or.inl hsame
    · exact Or.inl hsame
    · exact Or.inr (hgone hrel)
  | made named reaches refused fresh same stands found archived finished reported =>
    obtain rfl := place_of_packagesDir hR hd reaches
    subst named
    obtain ⟨data, hdata, rfl⟩ := stands
    refine .made same fresh hdata (fun hc => (finished.plain hc).2) (fun hc => ?_)
    obtain ⟨-, -, sidecar, hsidecar, hcontent⟩ := finished.described hc
    exact ⟨sidecar, hsidecar, hcontent⟩

theorem Repacked.tidy {r : Except PackagingError Package} (ht : Tidy R fs)
    (h : Repacked R p collision checksum fs fs' r) : Tidy R fs' := by
  have hside : checksumName (p.packageName productName) ≠ "" :=
    (isName_checksumName (isName_packageName (by decide) p)).ne_empty
  have hall : SameBut (packagesPlace R) (p.packageName productName) fs fs' →
      (fs'.node? (packagePlace R p) = none ∨
        ∃ data, fs'.node? (packagePlace R p) = some (.file data)) →
      (fs'.node? (sidecarPlace R p) = none ∨
        ∃ data, fs'.node? (sidecarPlace R p) = some (.file data)) → Tidy R fs' := by
    intro hsame hpackage hsidecar
    refine ⟨?_, fun name hname => ?_⟩
    · rw [hsame _ (ne_packagesPlace _).symm (ne_packagesPlace _).symm]
      exact ht.home
    · by_cases hp : packagesPlace R ++ [name] = packagePlace R p
      · rw [hp]
        exact hpackage
      · by_cases hs : packagesPlace R ++ [name] = sidecarPlace R p
        · rw [hs]
          exact hsidecar
        · rw [hsame _ hp hs]
          exact ht.files name hname
  cases h with
  | untouched same => rwa [same]
  | dropped same fresh gone sidecar =>
    refine hall same (Or.inl gone) ?_
    rcases sidecar with hsame | hnone
    · rw [hsame]
      exact ht.files _ hside
    · exact Or.inl hnone
  | made same fresh stands plain described =>
    refine hall same (Or.inr ⟨_, stands⟩) ?_
    cases checksum with
    | false =>
      rw [plain rfl]
      exact ht.files _ hside
    | true =>
      obtain ⟨sidecar, hsidecar, -⟩ := described rfl
      exact Or.inr ⟨sidecar, hsidecar⟩

theorem Repacked.others {r : Except PackagingError Package} (hd : Described R fs)
    (h : Repacked R p collision checksum fs fs' r) (hq : q ≠ p) : DescribedFor R q fs' := by
  cases h with
  | untouched same => rw [same]; exact hd q
  | dropped same fresh gone sidecar => exact (hd q).of_same (sameBut_of_ne same hq)
  | made same fresh stands plain described => exact (hd q).of_same (sameBut_of_ne same hq)

/-- A package that stands can only be opened by force. -/
theorem overwrite_of_described {node : Node} (hd : Described R fs)
    (hnode : fs.node? (sidecarPlace R p) = some node)
    (fresh : collision = .fail → fs.node? (packagePlace R p) = none) :
    collision = .overwrite ∧ ∃ sidecar, node = .file sidecar := by
  obtain ⟨sidecar, data, rfl, hdata, -⟩ := hd p node hnode
  refine ⟨?_, sidecar, rfl⟩
  cases collision with
  | overwrite => rfl
  | fail =>
    rw [fresh rfl] at hdata
    simp at hdata

theorem Repacked.failed {e : PackagingError} (hd : Described R fs)
    (h : Repacked R p collision checksum fs fs' (.error e)) :
    DescribedFor R p fs' ∨ Orphaned R p collision checksum fs fs' (.error (.packaging e)) := by
  cases h with
  | untouched same => rw [same]; exact Or.inl (hd p)
  | dropped same fresh gone sidecar =>
    rcases sidecar with hsame | hnone
    · cases hnode : fs.node? (sidecarPlace R p) with
      | none => exact Or.inl (describedFor_of_none (hsame.trans hnode))
      | some node =>
        obtain ⟨hc, side, rfl⟩ := overwrite_of_described hd hnode fresh
        exact Or.inr ⟨hc, side, hnode, hsame.trans hnode, Or.inl ⟨⟨e, rfl⟩, gone⟩⟩
    · exact Or.inl (describedFor_of_none hnone)

theorem Repacked.succeeded {package : Package} {report : Report} (hd : Described R fs)
    (h : Repacked R p collision checksum fs fs' (.ok package)) :
    DescribedFor R p fs' ∨ Orphaned R p collision checksum fs fs' (.ok report) := by
  cases h with
  | @made _ data same fresh stands plain described =>
    cases hsum : checksum with
    | true =>
      obtain ⟨sidecar, hsidecar, htext⟩ := described hsum
      refine Or.inl (fun node hnode => ⟨sidecar, data, ?_, stands, htext⟩)
      rw [hsidecar] at hnode
      exact (Option.some.inj hnode).symm
    | false =>
      have hsame := plain hsum
      cases hnode : fs.node? (sidecarPlace R p) with
      | none => exact Or.inl (describedFor_of_none (hsame.trans hnode))
      | some node =>
        obtain ⟨hc, side, rfl⟩ := overwrite_of_described hd hnode fresh
        by_cases htext : side.content = sidecarText p data.content
        · refine Or.inl (fun node hnode' => ⟨side, data, ?_, stands, htext⟩)
          rw [hsame, hnode] at hnode'
          exact (Option.some.inj hnode').symm
        · exact Or.inr ⟨hc, side, hnode, hsame.trans hnode,
            Or.inr ⟨⟨report, rfl⟩, rfl, data, stands, htext⟩⟩

theorem Orphaned.opened {r : Except ReleaseError Report} (ho : Opened (packagesPlace R) fs fs₁)
    (h : Orphaned R p collision checksum fs₁ fs' r) : Orphaned R p collision checksum fs fs' r := by
  obtain ⟨hc, sidecar, hside, hrest⟩ := h
  refine ⟨hc, sidecar, ?_, hrest⟩
  rw [← hside]
  exact (ho.same _).symm

theorem Described.of_repacked {r : Except PackagingError Package} {result : Except ReleaseError Report}
    (hd : Described R fs) (h : Repacked R p collision checksum fs fs' r)
    (hp : DescribedFor R p fs' ∨ Orphaned R p collision checksum fs fs' result) :
    Described R fs' ∨ Orphaned R p collision checksum fs fs' result := by
  rcases hp with hp | hp
  · refine Or.inl (fun q => ?_)
    by_cases hq : q = p
    · rw [hq]
      exact hp
    · exact h.others hd hq
  · exact Or.inr hp

/-- A release keeps the checksum files right, or orphans the one for its platform. -/
theorem Leaves.described {r : Except ReleaseError Report} (hR : Plain R) (ht : Tidy R fs)
    (hd : Described R fs) (hmay : ∀ path, ¬ may (.remove path))
    (h : Leaves R may collision checksum host arch fs fs' r) :
    Tidy R fs' ∧ (Described R fs' ∨ ∃ p : Platform, host = .ok p.os ∧ arch = p.arch ∧
      Orphaned R p collision checksum fs fs' r) := by
  cases h with
  | early same =>
    have ho := Opened.of_sameBelow same
    exact ⟨ht.opened ho, Or.inl (fun p => (hd p).opened ho)⟩
  | @dropped verified here fs₁ e os cpu opened direct packaged =>
    have hrepacked := packaged.repacked hR (ht.opened opened) direct hmay
    have hd₁ : Described R fs₁ := fun p => (hd p).opened opened
    refine ⟨hrepacked.tidy (ht.opened opened), ?_⟩
    rcases hd₁.of_repacked hrepacked (hrepacked.failed hd₁) with hgood | hbad
    · exact Or.inl hgood
    · exact Or.inr ⟨verified.artifact.request.platform, os, cpu.symm, hbad.opened opened⟩
  | @made verified here fs₁ package report os cpu opened direct packaged reported =>
    have hrepacked := packaged.repacked hR (ht.opened opened) direct hmay
    have hd₁ : Described R fs₁ := fun p => (hd p).opened opened
    refine ⟨hrepacked.tidy (ht.opened opened), ?_⟩
    rcases hd₁.of_repacked hrepacked (hrepacked.succeeded hd₁) with hgood | hbad
    · exact Or.inl hgood
    · exact Or.inr ⟨verified.artifact.request.platform, os, cpu.symm, hbad.opened opened⟩

/-! ## Histories -/

/-- The release orphaned the checksum file for its platform. -/
def Attempt.Orphans (R : Location) (a : Attempt) : Prop :=
  ∃ p : Platform, a.host = .ok p.os ∧ a.arch = p.arch ∧
    Orphaned R p a.collision a.checksum a.before.files a.after.files a.result

theorem History.described {m : Machine} {attempts : List Attempt} (hR : Plain R)
    (hmay : ∀ path, ¬ may (.remove path)) (ht : Tidy R m.files) (hd : Described R m.files)
    (h : History R may m attempts) (hno : ∀ a ∈ attempts, ¬ a.Orphans R) :
    ∀ a ∈ attempts, Described R a.after.files := by
  induction attempts generalizing m with
  | nil => simp
  | cons a rest ih =>
    obtain ⟨hsame, hclear, hhappens, hrest⟩ := h
    have ho := Opened.of_sameBelow hsame
    have ht' := ht.opened ho
    have hleaves := hhappens.leaves hR hclear (fun _ name => ht'.ordinary name)
    obtain ⟨hafter, hgood⟩ := hleaves.described hR ht' (fun p => (hd p).opened ho) hmay
    have hdescribed := hgood.resolve_right (hno a List.mem_cons_self)
    intro b hb
    rcases List.mem_cons.mp hb with rfl | hb
    · exact hdescribed
    · exact ih hafter hdescribed hrest (fun c hc => hno c (List.mem_cons_of_mem _ hc)) b hb

/-- Without a directory of packages at its start, a history has every checksum file describe the
package next to it as long as no forced release orphans one, and no longer. -/
theorem checksum_files_describe_iff {m : Machine} {attempts : List Attempt} (hR : Plain R)
    (hmay : ∀ path, ¬ may (.remove path))
    (hnew : ∀ place, packagesPlace R <+: place → ¬ Fixed place → m.files.node? place = none)
    (h : History R may m attempts) :
    (∀ a ∈ attempts, Described R a.after.files) ↔ ∀ a ∈ attempts, ¬ a.Orphans R := by
  constructor
  · rintro hall a ha ⟨p, -, -, horphaned⟩
    exact horphaned.not_described (hall a ha)
  · intro hno
    have hnone : ∀ name, name ≠ "" → m.files.node? (packagesPlace R ++ [name]) = none :=
      fun name hname => hnew _ (List.prefix_append _ _) (not_fixed_append hname)
    have hhome : ¬ Fixed (packagesPlace R) := not_fixed_append (by decide)
    have ht : Tidy R m.files :=
      ⟨Or.inl (hnew _ (List.prefix_refl _) hhome), fun name hname => Or.inl (hnone name hname)⟩
    have hd : Described R m.files := fun p => describedFor_of_none
      (hnone _ (isName_checksumName (isName_packageName (by decide) p)).ne_empty)
    exact h.described hR hmay ht hd hno

/-! ## The histories of the fresh project -/

theorem freshProject_new (place : Location) (h : packagesPlace ["work"] <+: place)
    (hplace : ¬ Fixed place) : freshWorld.machine.files.node? place = none :=
  freshProject_nothing h hplace

/-- After the first release of the fresh project the checksum file describes its package. -/
theorem first_checksum_file_describes : ∃ a : Attempt,
    History ["work"] Refusals.never freshWorld.machine [a] ∧ a.packaged ⟨.linux, .amd64⟩ ∧
      a.checksum = true ∧ Described ["work"] a.after.files := by
  obtain ⟨a, hhistory, hpackaged, hpolicy, hchecksum, -⟩ := fresh_attempt ⟨.linux, .amd64⟩ true
  have hnone : ∀ b ∈ [a], ¬ b.Orphans ["work"] := by
    intro b hb
    rw [List.mem_singleton.mp hb]
    rintro ⟨p, -, -, hc, -⟩
    rw [hpolicy] at hc
    simp at hc
  exact ⟨a, hhistory, hpackaged, hchecksum, (checksum_files_describe_iff (by decide) (fun _ => id)
    freshProject_new hhistory).mpr hnone a List.mem_cons_self⟩

theorem Leaves.sidecar {report : Report} (hR : Plain R)
    (h : Leaves R may collision true host arch fs fs' (.ok report))
    (hp : report.platform = p.os ∧ report.arch = p.arch) :
    ∃ sidecar, fs'.node? (sidecarPlace R p) = some (.file sidecar) := by
  cases h with
  | @made verified here fs₁ package report os cpu opened direct packaged reported =>
    have hplatform : verified.artifact.request.platform = p := by
      obtain ⟨-, hos, harch⟩ := reported
      unfold BuildRequest.platform
      rw [← hos, ← harch, hp.1, hp.2]
    cases packaged with
    | made named reaches refused fresh same stands found archived finished reported' =>
      obtain rfl := place_of_packagesDir hR direct reaches
      rw [hplatform] at named
      subst named
      obtain ⟨-, -, sidecar, hsidecar, -⟩ := finished.described rfl
      exact ⟨sidecar, hsidecar⟩

/-- A forced release whose binary becomes a directory orphans the checksum file of the release before
it. -/
theorem forced_release_orphans_checksum_file : ∃ a b : Attempt,
    (∀ place, packagesPlace ["work"] <+: place → ¬ Fixed place →
      freshWorld.machine.files.node? place = none) ∧
    History ["work"] Refusals.never freshWorld.machine [a, b] ∧
    ¬ ∀ c ∈ [a, b], Described ["work"] c.after.files := by
  obtain ⟨a, hfirst, hpackaged, hpolicy, hchecksum, hready, hstocked⟩ :=
    fresh_attempt ⟨.linux, .amd64⟩ true
  obtain ⟨hsame, hclear, ha, -⟩ := hfirst
  let w : World Unit := ⟨a.after, (), [], [], []⟩
  have hw : Ready ["work"] ⟨.linux, .amd64⟩ "1.2.3" w.machine.files := hready
  obtain ⟨e, w', hrun, hgone, hothers⟩ :=
    hw.drops Refusals.never ⟨"/opt/dotnet"⟩ false [0x7f] hstocked
  let b : Attempt := ⟨.overwrite, false, ⟨"/opt/dotnet"⟩, .ok .linux, .amd64, a.after, w'.machine,
    w'.started, .error (.packaging e)⟩
  have hspares : Spares (honestRunner ["work"] .linux [0x7f] (spoilBinary ["work"] .linux))
      (packagesPlace ["work"]) (Clear ["work"]) :=
    spares_clear (fun _ _ => spoilBinary_direct)
      (fun fs q hq => spoilBinary_sameOff _ _ fs q (ne_build_of_packages hq))
  have hb : b.Happens ["work"] Refusals.never :=
    ⟨Unit, _, w, w', hspares, rfl, rfl, (List.append_nil _).symm, hrun⟩
  refine ⟨a, b, freshProject_new, ⟨hsame, hclear, ha, SameBelow.refl _ _, hready.clear, hb, trivial⟩,
    fun hall => ?_⟩
  -- The first release left a checksum file, and the second one did not touch it.
  have hleaves := ha.leaves (by decide) hclear (by simp [hpolicy])
  obtain ⟨report, hr, hreport⟩ := Attempt.packaged_iff.mp hpackaged
  rw [hr, hchecksum] at hleaves
  obtain ⟨sidecar, hsidecar⟩ := hleaves.sidecar (by decide) hreport
  have hside : w'.machine.files.node? (sidecarPlace ["work"] ⟨.linux, .amd64⟩)
      = some (.file sidecar) :=
    (hothers _ (checksumName_ne _)).trans hsidecar
  obtain ⟨-, data, -, hdata, -⟩ := hall b (by simp) ⟨.linux, .amd64⟩ _ hside
  exact absurd (hgone.symm.trans hdata) (by simp)

end Slipway
