import Slipway.Proofs.Atomicity

/-!
# A package that was made

What is reported of a package is true of the files at the end: its size, its hash, its checksum file
and whether it took the place of something. Nothing else has changed, but for new directories.
-/

namespace Slipway

open FileSystem World

variable {σ : Type} {runner : Runner σ} {may : Refusals} {w w' : World σ} {settings : Settings}
  {fs fs' : FileSystem} {here place : Location} {dir : Path} {name : String} {file binary : Handle}

/-! ## Opening -/

theorem Replaceable.spared {places : List Location} (h : Replaceable settings fs place)
    (hg : Spared places fs fs' place) : Replaceable settings fs' place :=
  fun hc => (h hc).spared hg

theorem FileSystem.Reaches.exists?_eq (h : fs.Reaches here dir place) (hn : IsName name)
    (hr : refuse? (dir.join name) = none) (hsize : name.utf8ByteSize ≤ maxNameBytes)
    (hlink : ∀ target, fs.node? (place ++ [name]) ≠ some (.link target)) :
    fs.exists? here (dir.join name) = (fs.node? (place ++ [name])).isSome := by
  unfold exists? findNode
  rw [h.find hn hr hsize hlink]
  cases fs.node? (place ++ [name]) <;> rfl

theorem performs_pathExists_join {m m' : Machine} {there : Bool} (hn : IsName name)
    (hlook : ¬ may (.pathExists (dir.join name)))
    (hreach : m.files.Reaches m.directory dir place) (hr : refuse? (dir.join name) = none)
    (hsize : name.utf8ByteSize ≤ maxNameBytes)
    (hlink : ∀ target, m.files.node? (place ++ [name]) ≠ some (.link target))
    (h : m.Performs may (.pathExists (dir.join name)) there m') :
    there = (m.files.node? (place ++ [name])).isSome := by
  rw [← hreach.exists?_eq hn hr hsize hlink]
  rcases performs_pathExists h with ⟨rfl, hsome⟩ | ⟨rfl, hunseen⟩
  · exact hsome.symm
  · cases hex : m.files.exists? m.directory (dir.join name) with
    | false => rfl
    | true => exact absurd (hunseen hex) hlook

/-- The binary is open, and the package is an empty file in its directory. -/
structure Readied (settings : Settings) (verified : VerifiedArtifact) (dir : Path) (name : String)
    (m m' : Machine) (opened : Bool × Handle × Handle) : Prop where
  directory : m'.directory = m.directory
  created : Created settings m.files m.directory dir name (placeOf m.directory dir) m'.files
    opened.2.2
  replaced : opened.1 = (m.files.node? (placeOf m.directory dir ++ [name])).isSome
  binary : ∃ origin node, m.files.findNode m.directory verified.artifact.path = .ok (origin, node) ∧
    opened.2.1 = ⟨origin, serialOf node⟩

theorem runs_openPackage_readied {verified : VerifiedArtifact} {opened : Bool × Handle × Handle}
    (hn : IsName name) (hpath : packagePath settings verified.artifact.request = dir.join name)
    (hlook : ¬ may (.pathExists (dir.join name)))
    (hdirs : w.machine.files.Unlinked w.machine.directory settings.packagesDir)
    (hl : w.machine.files.Unlinked w.machine.directory (dir.join name))
    (hs : Replaceable settings w.machine.files (placeOf w.machine.directory dir ++ [name]))
    (h : w.Runs runner may (openPackage settings verified).run (.ok opened) w') :
    ∃ m : Machine, m.directory = w.machine.directory ∧
      (∀ q, Spared (trailOf w.machine.directory settings.packagesDir) w.machine.files m.files q) ∧
      Readied settings verified dir name m w'.machine opened := by
  rw [openPackage_eq] at h
  obtain ⟨w₀, ⟨hw₀, -⟩, ⟨e, he, -⟩ | ⟨w₁, w₂, replaced, hmake, hlooked, hw₂, hopen⟩⟩ :=
    runs_prepared h
  · simp at he
  rw [← hw₀] at hdirs hl hs ⊢
  have hstays := (hmake.stays ((makeLineage_only _).mono fun _ => Action.Builds.stays)).2
  have hspared := runs_makeDirectories_spares hdirs hmake
  refine ⟨w₁.machine, hstays.directory, hspared, ?_⟩
  have hl' := hl.spared hspared
  have hs' := hs.spared (hspared _)
  rw [← hstays.directory] at hl' hs'
  obtain ⟨hdir, hlink⟩ := Unlinked.of_join hn hl'
  rw [hpath] at hlooked
  rw [← hw₂] at hdir hs' hlooked hlink ⊢
  rcases runs_openFiles_created hn hpath (fun place hreach => by
      obtain rfl := hreach.eq_placeOf hdir
      exact hs') hopen with
    ⟨⟨e, he⟩, -⟩ | ⟨place, origin, node, file, hok, hfind, hdirectory, hcreated⟩
  · simp at he
  · obtain rfl := Except.ok.inj hok
    obtain rfl := hcreated.reaches.eq_placeOf hdir
    exact ⟨hdirectory, hcreated, performs_pathExists_join hn hlook hcreated.reaches
      hcreated.refused hcreated.size hlink hlooked, origin, node, hfind, rfl⟩

/-! ## Filling -/

/-- What is reported of a package with the content is true, and nothing else has changed. -/
structure Reported (settings : Settings) (place : Location) (name line : String) (sidecar : Path)
    (content : Bytes) (size : Nat) (written : Option (ContentHash × Path)) (m m' : Machine) :
    Prop where
  directory : m'.directory = m.directory
  size_eq : size = content.length
  written_eq : written
    = if settings.checksum then some (ContentHash.ofBytes content, sidecar) else none
  recorded : settings.checksum = true → ∃ data,
    m'.files.findNode m'.directory sidecar = .ok (place ++ [checksumName name], .file data) ∧
      data.content = Utf8.encode ((ContentHash.ofBytes content).checksumLine line)
  others : ∀ q, q ≠ place ++ [name] →
    (settings.checksum = true → q ≠ place ++ [checksumName name]) →
    m'.files.node? q = m.files.node? q

theorem runs_fillPackage_reported {artifact : Path} {line entry : String} {size : Nat}
    {written : Option (ContentHash × Path)} (hn : IsName name)
    (hreach : w.machine.files.Reaches w.machine.directory dir place)
    (hr : refuse? (dir.join name) = none) (hsize : name.utf8ByteSize ≤ maxNameBytes)
    (hh : w.machine.files.Holds file []) (hp : file.place = place ++ [name])
    (hs : settings.checksum = true →
      Replaceable settings w.machine.files (place ++ [checksumName name]))
    (h : w.Runs runner may (fillPackage settings file binary artifact (dir.join name) line
      entry).run (.ok (size, written)) w') :
    ∃ content, w'.machine.files.Holds file content ∧
      w.Archives runner may binary entry content ∧
      Keeps w.machine.files w'.machine.files ∧
      Reported settings place name line (checksumPath (dir.join name)) content size written
        w.machine w'.machine := by
  cases runs_fillPackage_cases h with
  | plain archives describes unasked =>
    obtain ⟨hsame, hkeeps, hdir, hreach', content, hcontent, harchived⟩ :=
      runs_writeArchive_into hreach hh hp archives
    have hlength := performs_describe hn hreach' hr hsize hcontent hp describes
    exact ⟨content, hcontent, harchived, hkeeps, hdir, hlength, by simp [unasked],
      fun hc => by simp [unasked] at hc, fun q hq _ => hsame q hq⟩
  | @checksum status x _ w₁ _ archives describes asked writes result =>
    obtain ⟨hsame, hkeeps, hdir, hreach', content, hcontent, harchived⟩ :=
      runs_writeArchive_into hreach hh hp archives
    have hlength := performs_describe hn hreach' hr hsize hcontent hp describes
    obtain ⟨htouch, ⟨⟨e, rfl⟩, -⟩ | ⟨rfl, ⟨-, data, hnode, hdata⟩, node, hfind⟩⟩ :=
      runs_writeChecksum hn hreach' hr hsize hcontent hp
        ((hs asked).of_same (hsame _ sidecar_ne_package)) writes
    · simp [Except.map] at result
    obtain ⟨rfl, rfl⟩ := Prod.mk.inj (Except.ok.inj result)
    have hdir' := (writes.stays (writeChecksum_only _ _ _)).2.directory
    have hholds : w'.machine.files.Holds file content :=
      hcontent.of_same (by rw [hp]; exact htouch.sameOff _ sidecar_ne_package.symm)
    refine ⟨content, hholds, harchived, hkeeps.trans htouch.keeps, hdir'.trans hdir,
      hlength, by rw [if_pos asked], fun _ => ⟨data, ?_, hdata⟩, fun q hq hq' => ?_⟩
    · obtain rfl := Option.some.inj ((node?_of_findNode hfind).symm.trans hnode)
      exact hfind
    · rw [htouch.sameOff q (hq' asked)]
      exact hsame q hq

/-! ## The package -/

/-- A package is made in two steps: it is opened, and then it is filled. -/
theorem runs_package_made {verified : VerifiedArtifact} {made : Package} (hn : IsName name)
    (hpath : packagePath settings verified.artifact.request = dir.join name)
    (hplace : placeOf w.machine.directory dir = place)
    (hlook : ¬ may (.pathExists (dir.join name)))
    (hdirs : w.machine.files.Unlinked w.machine.directory settings.packagesDir)
    (hlink : w.machine.files.Unlinked w.machine.directory (dir.join name))
    (hfile : Replaceable settings w.machine.files (place ++ [name]))
    (hside : settings.checksum = true →
      Replaceable settings w.machine.files (place ++ [checksumName name]))
    (h : w.Runs runner may (package settings verified).run (.ok made) w') :
    ∃ m m₁ opened content size written,
      (∀ q, Spared (trailOf w.machine.directory settings.packagesDir) w.machine.files m.files q) ∧
      m.directory = w.machine.directory ∧
      Readied settings verified dir name m m₁ opened ∧
      ArchivedFrom (verified.artifact.request.os.executable settings.product)
        (m₁.files.openNode? opened.2.1) content ∧
      (∃ data, w'.machine.files.findNode w'.machine.directory (dir.join name)
        = .ok (place ++ [name], .file data) ∧ data.content = content) ∧
      Reported settings place name
        (verified.artifact.request.platform.packageName settings.product)
        (checksumPath (dir.join name)) content size written m₁ w'.machine ∧
      made = {
        name := verified.artifact.request.platform.packageName settings.product
        path := dir.join name
        size := size
        replaced := opened.1
        sha256 := written.map (·.1)
        checksumPath := written.map (·.2) } := by
  rw [package_opened, runs_stage_bind_ok] at h
  obtain ⟨opened, w₁, hopen, hfinish⟩ := h
  obtain ⟨m, hdir, hspared, hreadied⟩ :=
    runs_openPackage_readied hn hpath hlook hdirs hlink (hplace.symm ▸ hfile) hopen
  cases runs_finishPackage_cases hfinish with
  | @made size written w₂ _ hfill hmachine =>
    have hcreated := hreadied.created
    rw [hdir, hplace] at hcreated
    have hreach := hcreated.reaches.keeps hcreated.touches.keeps
    rw [← hdir, ← hreadied.directory] at hreach
    rw [hpath] at hfill ⊢
    obtain ⟨content, hholds, harchived, hkeeps, hreported⟩ :=
      runs_fillPackage_reported hn hreach hcreated.refused hcreated.size hcreated.opens.holds
        hcreated.opens.place_eq (fun hsum => ((hside hsum).spared (hspared _)).of_same
          (hcreated.opens.sameOff _ sidecar_ne_package)) hfill
    have hreach' := hreach.keeps hkeeps
    rw [← hreported.directory] at hreach'
    obtain ⟨data, hfind, -, hdata⟩ := findNode_of_holds hn hreach' hcreated.refused hcreated.size
      hholds hcreated.opens.place_eq
    rw [← hmachine] at hfind hreported
    exact ⟨m, w₁.machine, opened, content, size, written, hspared, hdir, hreadied,
      harchived.archivedFrom, ⟨data, hfind, hdata⟩, hreported, rfl⟩

/-- How the files are, and what is reported, when a package was made between the two machines. -/
structure Delivers (settings : Settings) (verified : VerifiedArtifact) (m m' : Machine)
    (made : Package) : Prop where
  path : made.path = packagePath settings verified.artifact.request
  name : made.name = verified.artifact.request.platform.packageName settings.product
  package : ∃ data,
    m'.files.findNode m'.directory made.path = .ok (placeOf m.directory made.path, .file data) ∧
      made.size = data.content.length ∧
      made.sha256 = if settings.checksum then some (ContentHash.ofBytes data.content) else none
  checksumPath : made.checksumPath
    = if settings.checksum then some (Slipway.checksumPath made.path) else none
  /-- The checksum file is next to the package and holds the line for it, and nothing else. -/
  sidecar : settings.checksum = true → ∃ dir last hash data,
    placeOf m.directory made.path = dir ++ [last] ∧ made.sha256 = some hash ∧
      placeOf m.directory (Slipway.checksumPath made.path) = dir ++ [last ++ ".sha256"] ∧
      m'.files.findNode m'.directory (Slipway.checksumPath made.path)
        = .ok (dir ++ [last ++ ".sha256"], .file data) ∧
      data.content = Utf8.encode (hash.checksumLine made.name)
  replaced : made.replaced = true ↔ (m.files.node? (placeOf m.directory made.path)).isSome = true
  fresh : settings.collision = .fail → made.replaced = false
  others : ∀ q, q ≠ placeOf m.directory made.path →
    (settings.checksum = true → q ≠ placeOf m.directory (Slipway.checksumPath made.path)) →
    Spared (trailOf m.directory settings.packagesDir) m.files m'.files q
  binary : m'.files.node? (placeOf m.directory verified.artifact.path)
    = m.files.node? (placeOf m.directory verified.artifact.path)

/-- Whatever packaging reports of a package that it made is so. -/
theorem package_delivers {verified : VerifiedArtifact} {made : Package}
    (hlook : ¬ may (.pathExists (packagePath settings verified.artifact.request)))
    (hlinks : ∀ path ∈ settings.packagesDir :: verified.artifact.path ::
      packageTargets settings verified.artifact.request,
      w.machine.files.Unlinked w.machine.directory path)
    (hfiles : ∀ path ∈ packageTargets settings verified.artifact.request,
      Replaceable settings w.machine.files (placeOf w.machine.directory path))
    (hapart : ∀ path ∈ packageTargets settings verified.artifact.request,
      placeOf w.machine.directory verified.artifact.path ≠ placeOf w.machine.directory path)
    (h : w.Runs runner may (package settings verified).run (.ok made) w') :
    Delivers settings verified w.machine w'.machine made := by
  obtain ⟨dir, name, hn, hpath⟩ := exists_packagePath_join settings verified.artifact.request
  obtain ⟨up, hup, hside⟩ := checksumPath_join hn dir
  obtain ⟨place, hdir⟩ : ∃ place, placeOf w.machine.directory dir = place := ⟨_, rfl⟩
  have hplace : placeOf w.machine.directory (dir.join name) = place ++ [name] := by
    rw [placeOf_join hn, hdir]
  have hplace' : placeOf w.machine.directory (checksumPath (dir.join name))
      = place ++ [checksumName name] := by
    rw [hside, placeOf_join (isName_checksumName hn), placeOf_sameWay hup, hdir]
  simp only [List.forall_mem_cons, mem_packageTargets_iff, hpath, forall_eq_or_imp, and_imp,
    forall_eq_apply_imp_iff] at hlook hlinks hfiles hapart
  obtain ⟨hdirs, horigin, hlink, -⟩ := hlinks
  rw [hplace, hplace'] at hfiles hapart
  obtain ⟨m, m₁, opened, content, size, written, hspared, hm, hreadied, harchived,
    ⟨data, hfind, rfl⟩, hreported, rfl⟩ :=
    runs_package_made hn hpath hdir hlook hdirs hlink hfiles.1 hfiles.2 h
  obtain ⟨-, hcreated, hreplaced, origin, node, hfound, hbinary⟩ := hreadied
  rw [hm] at hfound
  rw [hm, hdir] at hcreated hreplaced
  have hothers : ∀ q, q ≠ place ++ [name] →
      (settings.checksum = true → q ≠ place ++ [checksumName name]) →
      w'.machine.files.node? q = m.files.node? q := fun q hq hq' =>
    (hreported.others q hq hq').trans (hcreated.opens.sameOff q hq)
  -- A directory that was made on the way could not have been opened for writing.
  have hthere : m.files.node? (place ++ [name]) = w.machine.files.node? (place ++ [name]) := by
    rcases hcreated.before with hnone | ⟨data, hdata⟩
    · exact (hspared _).same (by simp [hnone])
    · exact (hspared _).same (by simp [hdata])
  constructor
  case path => exact hpath.symm
  case name => rfl
  case package =>
    refine ⟨data, hplace ▸ hfind, hreported.size_eq, ?_⟩
    rw [hreported.written_eq]
    cases settings.checksum <;> rfl
  case checksumPath =>
    rw [hreported.written_eq]
    cases settings.checksum <;> rfl
  case sidecar =>
    intro hsum
    obtain ⟨line, hline, hcontent⟩ := hreported.recorded hsum
    refine ⟨_, _, _, line, hplace, ?_, hplace', hline, hcontent⟩
    rw [hreported.written_eq, if_pos hsum]
    rfl
  case replaced => rw [hplace, ← hthere, hreplaced]
  case fresh =>
    intro hc
    rw [hreplaced, hcreated.fresh hc]
    rfl
  case others =>
    rw [hplace, hplace']
    exact fun q hq hq' => (hspared q).trans (Or.inl (hothers q hq hq'))
  case binary =>
    obtain rfl := findNode_place (horigin.spared hspared) hfound
    rw [hothers _ hapart.1 hapart.2]
    -- Nor can such a directory be archived.
    refine (hspared _).same fun hnew => ?_
    obtain rfl := Option.some.inj ((node?_of_findNode hfound).symm.trans hnew)
    refine absurd ?_ (harchived.1 newDirectoryMode)
    rw [hbinary]
    unfold openNode?
    rw [hcreated.opens.sameOff _ hapart.1, hnew]
    simp [serialOf]

/-- The binary of the packaged project, for a platform that has no package there. -/
def unpackagedBinary : VerifiedArtifact :=
  ⟨⟨pathOf (binaryPlace ["work"] .linux), ⟨.arm64, "1.2.3", .linux⟩⟩, []⟩

theorem unpackagedBinary_packs (collision : CollisionPolicy) (checksum : Bool) :
    ∃ made w', takenWorld.Runs idleRunner Refusals.never
      (package (rootSettings ["work"] collision checksum) unpackagedBinary).run (.ok made) w' := by
  obtain ⟨w₁, hdirs, hfiles⟩ : ∃ w₁, takenWorld.Runs idleRunner Refusals.never
      (makeDirectories (pathOf (packagesPlace ["work"]))).run (.ok ()) w₁ ∧
        w₁.machine.files = takenWorld.machine.files :=
    ⟨_, runs_of_run_eq (by decide +kernel), eq_of_entries (by decide +kernel) (by decide +kernel)⟩
  have hpackable : Packable (rootSettings ["work"] collision checksum) unpackagedBinary
      w₁.machine.files w₁.machine.directory (packagesPlace ["work"]) := by
    rw [hfiles]
    exact (takenWorld_ready .arm64).packable rfl (by decide) rfl (by decide)
      ⟨by decide, fun _ => by decide⟩
  obtain ⟨made, w', hrun, -⟩ := package_succeeds hdirs hpackable
  exact ⟨made, w', hrun⟩

theorem second_package_delivers :
    ∃ made w', takenWorld.Runs idleRunner Refusals.never
        (package (rootSettings ["work"] .overwrite true) unpackagedBinary).run (.ok made) w' ∧
      made.replaced = false ∧
      Delivers (rootSettings ["work"] .overwrite true) unpackagedBinary takenWorld.machine
        w'.machine made := by
  obtain ⟨made, w', hrun⟩ := unpackagedBinary_packs .overwrite true
  have hdelivers := package_delivers (fun h => h) (fun _ _ q _ => takenWorld_tree.links q)
    (fun _ _ _ => ordinary_of_entries (by decide) _) (by decide +kernel) hrun
  refine ⟨made, w', hrun, ?_, hdelivers⟩
  have hnone : takenWorld.machine.files.node?
      (placeOf takenWorld.machine.directory made.path) = none := by
    rw [hdelivers.path]
    decide +kernel
  simpa [hnone] using hdelivers.replaced

end Slipway
