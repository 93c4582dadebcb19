import Slipway.Proofs.Readiness
import Slipway.Proofs.Trees

/-!
# The preflight and the writer

The preflight looks at the places of the package and its checksum file before any work is done. The
writer comes to them one after the other and creates a file at each. Without links they decide in
the same way whether something is there, whatever directories are created in between.
-/

namespace Slipway

open FileSystem World

/-! ## The writer -/

variable {σ : Type} {runner : Runner σ} {may : Refusals} {w w' : World σ} {settings : Settings}
  {fs : FileSystem} {place : Location} {dir : Path} {name : String} {file binary : Handle}

/-- What is at a path is seen, and files are opened as the file system says. -/
structure Forthright (may : Refusals) : Prop where
  looks : ∀ path, ¬ may (.pathExists path)
  opens : ∀ creation path, ¬ may (.openWrite creation path)

theorem performs_openWrite_error {m m' : Machine} {creation : Creation} {path : Path}
    {e : SystemError} (hmay : Forthright may)
    (h : m.Performs may (.openWrite creation path) (.error e) m') :
    m.files.openWrite m.directory creation path m.now = .error e := by
  rcases h with h | ⟨hrefused, -⟩
  · have hr := congrArg Prod.fst h
    simp only [Machine.reply] at hr
    cases hfs : m.files.openWrite m.directory creation path m.now with
    | error e' => simpa [hfs, Machine.opened] using hr.symm
    | ok opened => simp [hfs, Machine.opened] at hr
  · exact absurd hrefused (hmay.opens _ _)

theorem runs_createFile_collision {r : Except PackagingError Handle} (hmay : Forthright may)
    (hc : settings.collision = .fail) (hn : IsName name) (ht : w.machine.files.Tree)
    (h : w.Runs runner may (createFile settings (dir.join name)).run r w') :
    (w.machine.files.exists? w.machine.directory (dir.join name) = true →
      r = .error (.packageExists (dir.join name))) ∧
    (w.machine.files.exists? w.machine.directory (dir.join name) = false →
      (∃ file, r = .ok file) ∨ ∃ e, r = .error (.write (dir.join name) e)) := by
  rw [createFile, runs_orElse, hc] at h
  obtain ⟨x, hopen, rfl⟩ := h
  rw [runs_attempt, runs_file] at hopen
  obtain ⟨m, hm, rfl⟩ := hopen
  cases x with
  | ok file =>
    refine ⟨fun hthere => ?_, fun _ => Or.inl ⟨file, rfl⟩⟩
    obtain ⟨hr, -⟩ := Machine.performs_ok hm (by simp [FileAction.failure])
    simp [Machine.reply, CollisionPolicy.creation, FileSystem.openWrite,
      openFresh_of_exists hn ht hthere, Machine.opened] at hr
  | error e =>
    have hfailed : w.machine.files.openFresh w.machine.directory (dir.join name) w.machine.now
        = .error e := performs_openWrite_error hmay hm
    refine ⟨fun hthere => ?_, fun hfree => Or.inr ⟨e, ?_⟩⟩
    · rw [openFresh_of_exists hn ht hthere] at hfailed
      obtain rfl := Except.error.inj hfailed
      rfl
    · have hkind : e.kind ≠ .alreadyExists := fun hk => by
        rw [exists?_of_openFresh hn ht.links hfailed hk] at hfree
        simp at hfree
      simp [Except.mapError, hkind]

theorem runs_createFile_replaces {r : Except PackagingError Handle} {path : Path}
    (hmay : Forthright may) (hc : settings.collision = .overwrite)
    (h : w.Runs runner may (createFile settings path).run r w') (other : Path) :
    r ≠ .error (.packageExists other) := by
  rw [createFile, runs_orElse, hc] at h
  obtain ⟨x, hopen, rfl⟩ := h
  rw [runs_attempt, runs_file] at hopen
  obtain ⟨m, hm, rfl⟩ := hopen
  cases x with
  | ok file => simp [Except.mapError]
  | error e =>
    have hfailed : w.machine.files.openAny w.machine.directory path w.machine.now true
        = .error e := performs_openWrite_error hmay hm
    simp [Except.mapError, openAny_kind hfailed]

/-- How a checksum file is written for a package at `path`, by what is in its place. -/
inductive SidecarEnds {α : Type} (path sidecar : Path) (there : Bool) :
    Except PackagingError α → Prop
  | unhashed {e : SystemError} : SidecarEnds path sidecar there (.error (.write path e))
  | taken (taken : there = true) : SidecarEnds path sidecar there (.error (.packageExists sidecar))
  | unwritten {e : SystemError} (free : there = false) :
    SidecarEnds path sidecar there (.error (.write sidecar e))
  | made {a : α} (free : there = false) : SidecarEnds path sidecar there (.ok a)

theorem SidecarEnds.map {α β : Type} {path sidecar : Path} {there : Bool}
    {r : Except PackagingError α} (h : SidecarEnds path sidecar there r) (f : α → β) :
    SidecarEnds path sidecar there (r.map f) := by
  cases h with
  | unhashed => exact .unhashed
  | taken taken => exact .taken taken
  | unwritten free => exact .unwritten free
  | made free => exact .made free

theorem runs_writeChecksum_collision {r : Except PackagingError (ContentHash × Path)}
    (hmay : Forthright may) (hc : settings.collision = .fail) (hn : IsName name)
    (ht : w.machine.files.Tree)
    (h : w.Runs runner may (writeChecksum settings (dir.join name) name).run r w') :
    SidecarEnds (dir.join name) (checksumPath (dir.join name))
      (w.machine.files.exists? w.machine.directory (checksumPath (dir.join name))) r := by
  obtain ⟨up, -, hpath⟩ := checksumPath_join hn dir
  have hcreates := fun {x : Except PackagingError Handle} {hash : ContentHash} {w₁ w₂ : World σ}
      (hashes : w.Runs runner may (hashFile (dir.join name)).run (.ok hash) w₁)
      (creates : w₁.Runs runner may (createFile settings (checksumPath (dir.join name))).run x w₂) => by
    have hmachine := (hashes.untouched (hashFile_only _)).1
    rw [hpath] at creates
    have hcollides :=
      runs_createFile_collision hmay hc (isName_checksumName hn) (by rwa [hmachine]) creates
    rwa [hmachine, ← hpath] at hcollides
  -- A file that was created was not there.
  have hfree : ∀ {sidecar : Handle} {hash : ContentHash} {w₁ w₂ : World σ},
      w.Runs runner may (hashFile (dir.join name)).run (.ok hash) w₁ →
      w₁.Runs runner may (createFile settings (checksumPath (dir.join name))).run (.ok sidecar) w₂ →
      w.machine.files.exists? w.machine.directory (checksumPath (dir.join name)) = false := by
    intro sidecar hash w₁ w₂ hashes creates
    by_contra hthere
    exact absurd ((hcreates hashes creates).1 (by simpa using hthere)) (by simp)
  cases runs_writeChecksum_cases h with
  | unhashed => exact .unhashed
  | uncreated hashes creates =>
    obtain ⟨htaken, hfree⟩ := hcreates hashes creates
    cases hthere : w.machine.files.exists? w.machine.directory (checksumPath (dir.join name)) with
    | true =>
      obtain rfl := Except.error.inj (htaken hthere)
      exact .taken rfl
    | false =>
      rcases hfree hthere with ⟨file, hok⟩ | ⟨e', he⟩
      · simp at hok
      · obtain rfl := Except.error.inj he
        exact .unwritten rfl
  | unwritten hashes creates => exact .unwritten (hfree hashes creates)
  | written hashes creates => exact .made (hfree hashes creates)

theorem exists?_checksumPath_congr {here : Location} {fs' : FileSystem} (hn : IsName name)
    (ht : fs.Tree) (ht' : fs'.Tree) (hreach : fs.Reaches here dir place) (hk : Keeps fs fs')
    (hk' : Keeps fs' fs) (hsame : SameOff (place ++ [name]) fs fs') :
    fs'.exists? here (checksumPath (dir.join name))
      = fs.exists? here (checksumPath (dir.join name)) := by
  obtain ⟨up, hsameWay, hpath⟩ := checksumPath_join hn dir
  rw [hpath]
  refine exists?_congr (isName_checksumName hn) ht.links ht'.links hk hk' (fun other hother => ?_)
  obtain rfl := ((reaches_sameWay hsameWay).mp hother).unique hreach
  exact hsame _ sidecar_ne_package

theorem runs_fillPackage_collision {artifact : Path} {entry : String}
    {r : Except PackagingError (Nat × Option (ContentHash × Path))} (hmay : Forthright may)
    (hc : settings.collision = .fail) (hn : IsName name) (ht : w.machine.files.Tree)
    (hreach : w.machine.files.Reaches w.machine.directory dir place)
    (hh : w.machine.files.Holds file []) (hp : file.place = place ++ [name])
    (h : w.Runs runner may
      (fillPackage settings file binary artifact (dir.join name) name entry).run r w') :
    (∃ e, r = .error (.archive artifact (dir.join name) e)) ∨
    (∃ e, r = .error (.write (dir.join name) e)) ∨
    settings.checksum = false ∧ (∃ a, r = .ok a) ∨
    settings.checksum = true ∧ SidecarEnds (dir.join name) (checksumPath (dir.join name))
      (w.machine.files.exists? w.machine.directory (checksumPath (dir.join name))) r := by
  cases runs_fillPackage_cases h with
  | unarchived => exact Or.inl ⟨_, rfl⟩
  | undescribed => exact Or.inr (Or.inl ⟨_, rfl⟩)
  | plain archives describes unasked => exact Or.inr (Or.inr (Or.inl ⟨unasked, _, rfl⟩))
  | @checksum status x r w₁ w' archives describes asked writes result =>
    refine Or.inr (Or.inr (Or.inr ⟨asked, ?_⟩))
    obtain ⟨hsame, content, hcontent, -⟩ := runs_writeArchive hh archives
    have ht₁ : w₁.machine.files.Tree := ht.written hsame hh hcontent
    -- The archive is not in the way of the checksum file.
    have hside : w₁.machine.files.exists? w₁.machine.directory (checksumPath (dir.join name))
        = w.machine.files.exists? w.machine.directory (checksumPath (dir.join name)) := by
      rw [(archives.stays (writeArchive_only _ _ _)).2.directory]
      exact exists?_checksumPath_congr hn ht ht₁ hreach (hsame.touches hh rfl).keeps
        (hsame.symm.touches hcontent rfl).keeps (hp ▸ hsame)
    rw [← hside, result]
    exact (runs_writeChecksum_collision hmay hc hn ht₁ writes).map _

/-- How packaging ends when new files have to be new, by what is in their places. -/
inductive Collision (checksum : Bool) (path sidecar : Path) (there there' : Bool) :
    Except PackagingError Package → Prop
  /-- It stopped before the package was open, or while the archive was written. -/
  | stopped {e : PackagingError} (other : ∀ p, e ≠ .packageExists p)
    (other' : ∀ p s, e ≠ .write p s) : Collision checksum path sidecar there there' (.error e)
  | package (taken : there = true) :
    Collision checksum path sidecar there there' (.error (.packageExists path))
  | unwritten {e : SystemError} (free : there = false) :
    Collision checksum path sidecar there there' (.error (.write path e))
  | plain {package : Package} (free : there = false) (unasked : checksum = false) :
    Collision checksum path sidecar there there' (.ok package)
  | sidecar {r : Except PackagingError Package} (free : there = false) (asked : checksum = true)
    (ends : SidecarEnds path sidecar there' r) : Collision checksum path sidecar there there' r

theorem runs_finishPackage_collision {verified : VerifiedArtifact}
    {opened : Bool × Handle × Handle} {r : Except PackagingError Package} (hmay : Forthright may)
    (hc : settings.collision = .fail) (hn : IsName name)
    (hname : name = verified.artifact.request.platform.packageName settings.product)
    (ht : w.machine.files.Tree)
    (hreach : w.machine.files.Reaches w.machine.directory settings.packagesDir place)
    (hh : w.machine.files.Holds opened.2.2 []) (hp : opened.2.2.place = place ++ [name])
    (h : w.Runs runner may (finishPackage settings verified opened).run r w') :
    Collision settings.checksum (settings.packagesDir.join name)
      (checksumPath (settings.packagesDir.join name)) false
      (w.machine.files.exists? w.machine.directory
        (checksumPath (settings.packagesDir.join name))) r := by
  subst hname
  cases runs_finishPackage_cases h with
  | dropped fills removes =>
    rcases runs_fillPackage_collision hmay hc hn ht hreach hh hp fills with
      ⟨e', he⟩ | ⟨e', he⟩ | ⟨-, a, hok⟩ | ⟨hsum, hends⟩
    · obtain rfl := Except.error.inj he
      exact .stopped (by simp) (by simp)
    · obtain rfl := Except.error.inj he
      exact .unwritten rfl
    · simp at hok
    · refine .sidecar rfl hsum ?_
      cases hends with
      | unhashed => exact .unhashed
      | taken taken => exact .taken taken
      | unwritten free => exact .unwritten free
  | made fills same =>
    rcases runs_fillPackage_collision hmay hc hn ht hreach hh hp fills with
      ⟨e', he⟩ | ⟨e', he⟩ | ⟨hsum, -⟩ | ⟨hsum, hends⟩
    · simp at he
    · simp at he
    · exact .plain rfl hsum
    · refine .sidecar rfl hsum ?_
      cases hends with
      | made free => exact .made free

theorem runs_openFiles_collision {verified : VerifiedArtifact} {replaced : Bool}
    {r : Except PackagingError (Bool × Handle × Handle)} (hmay : Forthright may)
    (hc : settings.collision = .fail) (hn : IsName name)
    (hpath : packagePath settings verified.artifact.request = dir.join name)
    (ht : w.machine.files.Tree)
    (h : w.Runs runner may (openFiles settings verified replaced).run r w') :
    (∀ opened, r = .ok opened →
      w.machine.files.exists? w.machine.directory (dir.join name) = false) ∧
    ∀ e, r = .error e → ∀ checksum sidecar there, Collision checksum (dir.join name) sidecar
      (w.machine.files.exists? w.machine.directory (dir.join name)) there (.error e) := by
  cases runs_openFiles_cases h with
  | unread =>
    refine ⟨by simp, fun e he checksum sidecar there => ?_⟩
    obtain rfl := Except.error.inj he
    exact .stopped (by simp) (by simp)
  | @read binary x r w' reads creates result =>
    rw [hpath] at creates
    obtain ⟨htaken, hfree⟩ := runs_createFile_collision hmay hc hn ht creates
    cases x with
    | ok file =>
      rw [result]
      refine ⟨fun _ _ => ?_, by simp [Except.map]⟩
      by_contra hthere
      exact absurd (htaken (eq_true_of_ne_false hthere)) (by simp)
    | error e =>
      rw [result]
      refine ⟨by simp [Except.map], fun e' he checksum sidecar there => ?_⟩
      obtain rfl := Except.error.inj he
      cases hthere : w.machine.files.exists? w.machine.directory (dir.join name) with
      | true =>
        obtain rfl := Except.error.inj (htaken hthere)
        exact .package rfl
      | false =>
        rcases hfree hthere with ⟨file, hok⟩ | ⟨e', he⟩
        · simp at hok
        · obtain rfl := Except.error.inj he
          exact .unwritten rfl

theorem runs_packInto_collision {verified : VerifiedArtifact} {replaced : Bool}
    {r : Except PackagingError Package} (hmay : Forthright may) (hc : settings.collision = .fail)
    (hproduct : '/' ∉ settings.product.toList) (ht : w.machine.files.Tree)
    (h : w.Runs runner may (packInto settings verified replaced).run r w') :
    Collision settings.checksum (packagePath settings verified.artifact.request)
      (checksumPath (packagePath settings verified.artifact.request))
      (w.machine.files.exists? w.machine.directory
        (packagePath settings verified.artifact.request))
      (w.machine.files.exists? w.machine.directory
        (checksumPath (packagePath settings verified.artifact.request))) r := by
  have hn := isName_packageName hproduct verified.artifact.request.platform
  rw [packInto_opened, runs_stage_bind] at h
  rcases h with ⟨opened, w₁, hopen, h⟩ | ⟨e, hopen, rfl⟩
  · have hfree := (runs_openFiles_collision hmay hc hn rfl ht hopen).1 _ rfl
    rcases runs_openFiles_created hn rfl (fun _ _ hover => by simp [hc] at hover) hopen with
      ⟨⟨e, he⟩, -⟩ | ⟨place, origin, node, file, hok, -, hdir, hcreated⟩
    · simp at he
    obtain rfl := Except.ok.inj hok
    have hopens := hcreated.opens
    have ht₁ := hcreated.tree hc ht
    have hreach := hcreated.reaches.keeps hcreated.touches.keeps
    -- Nor is the empty package in the way of the checksum file.
    have hkeeps : Keeps w₁.machine.files w.machine.files :=
      hopens.sameOff.symm.keeps (hopens.place_eq ▸ hopens.holds.not_leads)
    have hside := exists?_checksumPath_congr hn ht ht₁ hcreated.reaches hcreated.touches.keeps
      hkeeps hopens.sameOff
    unfold packagePath
    rw [← hdir] at hreach hside hfree ⊢
    have hends := runs_finishPackage_collision hmay hc hn rfl ht₁ hreach hopens.holds
      hopens.place_eq h
    rwa [hside, ← hfree] at hends
  · exact (runs_openFiles_collision hmay hc hn rfl ht hopen).2 _ rfl _ _ _

theorem runs_package_collision {verified : VerifiedArtifact} {r : Except PackagingError Package}
    (hmay : Forthright may) (hc : settings.collision = .fail)
    (hproduct : '/' ∉ settings.product.toList) (hdown : ".." ∉ stepsOf settings.packagesDir)
    (ht : w.machine.files.Tree) (h : w.Runs runner may (package settings verified).run r w') :
    Collision settings.checksum (packagePath settings verified.artifact.request)
      (checksumPath (packagePath settings verified.artifact.request))
      (w.machine.files.exists? w.machine.directory
        (packagePath settings verified.artifact.request))
      (w.machine.files.exists? w.machine.directory
        (checksumPath (packagePath settings verified.artifact.request))) r := by
  rw [package_eq] at h
  obtain ⟨w₀, ⟨hw₀, -⟩, ⟨e, rfl, -⟩ | ⟨w₁, w₂, replaced, hdirs, -, hw₂, h⟩⟩ := runs_prepared h
  · exact .stopped (by simp) (by simp)
  · rw [← hw₀] at ht ⊢
    have hn := isName_packageName hproduct verified.artifact.request.platform
    have hp := descends_stepsOf hdown
    have hdir : w₁.machine.directory = w₀.machine.directory :=
      (hdirs.stays ((makeLineage_only _).mono fun _ => Action.Builds.stays)).2.directory
    have ht₁ : w₁.machine.files.Tree := runs_makeDirectories_tree ht hdirs
    have halong : GrowsAlong (wayOf w₀.machine.directory settings.packagesDir) w₀.machine.files
        w₁.machine.files := (runs_makeDirectories_prepares hdirs).along hp (ht.links.direct _)
    have hpack := halong.exists? hn ht hp
    -- The checksum file's path may end in fewer dots, but names the same directory.
    have hside : w₁.machine.files.exists? w₀.machine.directory
          (checksumPath (packagePath settings verified.artifact.request))
        = w₀.machine.files.exists? w₀.machine.directory
          (checksumPath (packagePath settings verified.artifact.request)) := by
      obtain ⟨up, hsameWay, hpath⟩ := checksumPath_join hn settings.packagesDir
      obtain ⟨-, dots, hsteps, -⟩ := id hsameWay
      unfold packagePath
      rw [hpath]
      refine GrowsAlong.exists? (isName_checksumName hn) ht (fun n hmem => hp n ?_)
        (wayOf_sameWay hsameWay ▸ halong)
      rw [hsteps]
      exact List.mem_append_left _ hmem
    have hends := runs_packInto_collision hmay hc hproduct (by rwa [hw₂]) h
    rw [hw₂] at hends
    unfold packagePath at hends hside ⊢
    rwa [hdir, hpack, hside] at hends

/-! ## The policy to replace -/

section Replace

variable (hmay : Forthright may) (hc : settings.collision = .overwrite)

include hmay hc

theorem runs_writeChecksum_replaces {r : Except PackagingError (ContentHash × Path)} {path : Path}
    (h : w.Runs runner may (writeChecksum settings path name).run r w') (other : Path) :
    r ≠ .error (.packageExists other) := by
  rintro rfl
  cases runs_writeChecksum_cases h with
  | uncreated hashes creates => exact runs_createFile_replaces hmay hc creates other rfl

theorem runs_fillPackage_replaces {artifact path : Path} {entry : String}
    {r : Except PackagingError (Nat × Option (ContentHash × Path))}
    (h : w.Runs runner may (fillPackage settings file binary artifact path name entry).run r w')
    (other : Path) : r ≠ .error (.packageExists other) := by
  cases runs_fillPackage_cases h with
  | unarchived | undescribed | plain => simp
  | @checksum status x r w₁ w' archives describes asked writes result =>
    rw [result]
    cases x with
    | ok written => simp [Except.map]
    | error e =>
      intro he
      obtain rfl := Except.error.inj he
      exact runs_writeChecksum_replaces hmay hc writes other rfl

theorem runs_packInto_replaces {verified : VerifiedArtifact} {replaced : Bool}
    {r : Except PackagingError Package}
    (h : w.Runs runner may (packInto settings verified replaced).run r w') (other : Path) :
    r ≠ .error (.packageExists other) := by
  rw [packInto_opened, runs_stage_bind] at h
  rcases h with ⟨opened, w₁, -, h⟩ | ⟨e, hopen, rfl⟩
  · cases runs_finishPackage_cases h with
    | dropped fills =>
      intro he
      obtain rfl := Except.error.inj he
      exact runs_fillPackage_replaces hmay hc fills other rfl
    | made => simp
  · intro he
    obtain rfl := Except.error.inj he
    cases runs_openFiles_cases hopen with
    | @read binary x r w' reads creates result =>
      cases x with
      | ok file => simp [Except.map] at result
      | error e =>
        obtain rfl := Except.error.inj result
        exact runs_createFile_replaces hmay hc creates other rfl

theorem runs_package_replaces {verified : VerifiedArtifact} {r : Except PackagingError Package}
    (h : w.Runs runner may (package settings verified).run r w') (other : Path) :
    r ≠ .error (.packageExists other) := by
  rw [package_eq] at h
  obtain ⟨w₀, -, ⟨e, rfl, -⟩ | ⟨w₁, w₂, replaced, -, -, -, h⟩⟩ := runs_prepared h
  · simp
  · exact runs_packInto_replaces hmay hc h other

end Replace

/-! ## Agreement -/

/-- The path that is in the way of packaging, when new files have to be new. -/
def collisionAt (settings : Settings) (request : BuildRequest) (m : Machine) : Option Path :=
  (packageTargets settings request).find? (m.files.exists? m.directory)

theorem runs_ensureAvailable_iff {request : BuildRequest} {r : Except PackagingError Unit}
    (hlooks : ∀ path, ¬ may (.pathExists path)) (hc : settings.collision = .fail)
    (h : w.Runs runner may (ensureAvailable settings request).run r w') :
    r = match collisionAt settings request w.machine with
      | some path => .error (.packageExists path)
      | none => .ok () := by
  have hsees : ∀ {path}, Unseen may w.machine path →
      w.machine.files.exists? w.machine.directory path = false := fun {path} hunseen => by
    by_contra hthere
    exact hlooks path (hunseen (eq_true_of_ne_false hthere))
  obtain ⟨-, ⟨rfl, hfree⟩ | ⟨before, path, after, rfl, -, htargets, hthere, hbefore⟩⟩ :=
    runs_ensureAvailable h
  · have hnone : collisionAt settings request w.machine = none :=
      List.find?_eq_none.mpr (fun path hpath => by simp [hsees (hfree hc path hpath)])
    rw [hnone]
  · have hsome : collisionAt settings request w.machine = some path :=
      List.find?_eq_some_iff_append.mpr ⟨hthere, before, after, htargets, fun other hother => by
        simp [hsees (hbefore other hother)]⟩
    rw [hsome]

/-- The error of a packaging, if there is one, is about the package or its checksum file: their
directory was created, the binary opened and the archive written. -/
def AboutTargets (r : Except PackagingError Package) : Prop :=
  ∀ e, r = .error e → (∃ p, e = .packageExists p) ∨ ∃ p s, e = .write p s

/-- The writer collides with what the preflight finds, unless the package itself cannot be written. -/
theorem Collision.agrees {request : BuildRequest} {m : Machine} {r : Except PackagingError Package}
    (habout : AboutTargets r)
    (h : Collision settings.checksum (packagePath settings request)
      (checksumPath (packagePath settings request))
      (m.files.exists? m.directory (packagePath settings request))
      (m.files.exists? m.directory (checksumPath (packagePath settings request))) r) :
    (∃ s, r = .error (.write (packagePath settings request) s)) ∨
      match collisionAt settings request m with
      | some path => r = .error (.packageExists path)
      | none => (∃ package, r = .ok package) ∨ ∃ p s, r = .error (.write p s) := by
  unfold collisionAt packageTargets
  cases h with
  | @stopped e other other' =>
    rcases habout e rfl with ⟨p, rfl⟩ | ⟨p, s, rfl⟩
    · exact absurd rfl (other p)
    · exact absurd rfl (other' p s)
  | package taken =>
    refine Or.inr ?_
    dsimp only
    split_ifs <;> simp [taken]
  | unwritten free => exact Or.inl ⟨_, rfl⟩
  | plain free unasked => simp [unasked, free]
  | sidecar free asked ends =>
    cases ends with
    | unhashed => exact Or.inl ⟨_, rfl⟩
    | taken taken => simp [asked, free, taken]
    | unwritten free' => simp [asked, free, free']
    | made free' => simp [asked, free, free']

/-- What the preflight says before a packaging, and how that ends. -/
structure Agreement (settings : Settings) (request : BuildRequest) (m : Machine)
    (a : Except PackagingError Unit) (r : Except PackagingError Package) : Prop where
  /-- The preflight reports what is in the way. -/
  reports : settings.collision = .fail →
    ∀ p, a = .error (.packageExists p) ↔ collisionAt settings request m = some p
  /-- No collision comes as a surprise. -/
  foreseen : settings.collision = .fail →
    ∀ p, r = .error (.packageExists p) → a = .error (.packageExists p)
  /-- A reported collision happens, unless the package itself cannot be written. -/
  happens : settings.collision = .fail →
    (∀ s, r ≠ .error (.write (packagePath settings request) s)) →
    ∀ p, a = .error (.packageExists p) → r = .error (.packageExists p)
  clear : settings.collision = .fail → a = .ok () →
    (∃ package, r = .ok package) ∨ ∃ p s, r = .error (.write p s)
  replaces : settings.collision = .overwrite →
    ∀ p, a ≠ .error (.packageExists p) ∧ r ≠ .error (.packageExists p)

/-- The fresh project after a build, with a directory of packages and one file in it. -/
def packagedProject (mode : Nat) (name : String) : FileSystem where
  entries := freshProject.entries ++ [
    (binaryPlace ["work"] .linux, .file ⟨2, Utf8.encode "binary", 0o755, 0⟩),
    (packagesPlace ["work"], .directory mode),
    (packagesPlace ["work"] ++ [name], .file ⟨3, Utf8.encode "there", newFileMode, 0⟩)]
  nextSerial := 4

/-- The packaged project is all there is. Its root is the current directory. -/
def packagedWorld (mode : Nat) (name : String) : World Unit :=
  { machine := { files := packagedProject mode name, directory := ["work"] }, runner := () }

def takenWorld : World Unit := packagedWorld newDirectoryMode "fxml_linux_amd64.tar.gz"

/-- Nothing can be added to the packages, and a checksum file is there. -/
def lockedWorld : World Unit := packagedWorld 0o555 "fxml_linux_amd64.tar.gz.sha256"

/-- The settings of the packaged project, with packages in `dir`. -/
def packagedSettings (dir : String) (checksum : Bool) : Settings :=
  { rootSettings ["work"] .fail checksum with packagesDir := ⟨dir⟩ }

def packagedBinary : VerifiedArtifact :=
  ⟨⟨pathOf (binaryPlace ["work"] .linux), ⟨.amd64, "1.2.3", .linux⟩⟩, []⟩

def idleRunner : Runner Unit := fun _ m s => (.ok { code := some 0 }, m, s)

theorem takenWorld_tree : takenWorld.machine.files.Tree :=
  ⟨linkFree_of_entries (by decide), rooted_of_entries (by decide +kernel)⟩

theorem lockedWorld_tree : lockedWorld.machine.files.Tree :=
  ⟨linkFree_of_entries (by decide), rooted_of_entries (by decide +kernel)⟩

end Slipway
