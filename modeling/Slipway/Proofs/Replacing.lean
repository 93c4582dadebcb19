import Slipway.Proofs.Delivery
import Slipway.Proofs.Likeness

/-!
# Replacing a package

What a forced package and its checksum file hold does not depend on the files whose places they
take. Whether they can be written depends on the permissions of those files.
-/

namespace Slipway

open FileSystem World

variable {σ : Type} {runner : Runner σ} {w w' v v' : World σ} {settings : Settings}
  {verified : VerifiedArtifact} {request : BuildRequest} {made other : Package} {m n : Machine}
  {fs fs' : FileSystem} {here place q : Location} {dir up : Path} {name entry : String}
  {file binary : Handle} {content content' : Bytes}

/-! ## Reading the same binary -/

/-- An open binary is the same on both machines. Of anything but a file, the clock tells the time of
its last change. -/
structure SameOpen (binary : Handle) (m n : Machine) : Prop where
  node : n.files.openNode? binary = m.files.openNode? binary
  clock : n.now = m.now ∨ ∃ data, m.files.openNode? binary = some (.file data)

theorem SameOpen.refl (binary : Handle) (m : Machine) : SameOpen binary m m := ⟨rfl, Or.inl rfl⟩

theorem SameOpen.reply {a : FileAction} (h : SameOpen binary m n)
    (ha : Action.Reads binary (.file a)) : (n.reply a).1 = (m.reply a).1 := by
  cases a with
  | read other offset count =>
    obtain rfl : other = binary := ha
    simp only [Machine.reply, FileSystem.read, h.node]
  | describeOpen other =>
    obtain rfl : other = binary := ha
    simp only [Machine.reply, FileSystem.describeOpen, h.node]
    rcases h.clock with hnow | ⟨data, hdata⟩
    · rw [hnow]
    · rw [hdata]
      rfl
  | _ => exact ha.elim

theorem World.Runs.reads {α : Type} {may : Refusals} {p : Program α} {r : α}
    (h : w.Runs runner may p r w') (hp : p.Only (Action.Reads binary))
    (hs : SameOpen binary w.machine v.machine) : v.Runs runner may p r v := by
  induction p generalizing w with
  | done a => exact ⟨h.1, rfl⟩
  | ask action next ih =>
    obtain ⟨reply, w₁, ha, hrest⟩ := h
    have hw₁ := (ha.untouched hp.1.asks).1
    refine ⟨reply, v, ?_, ih reply hrest (hp.2 reply) (hw₁ ▸ hs)⟩
    cases action with
    | file a =>
      obtain ⟨m₁, hm, -⟩ := ha
      have hasks : ∀ m : Machine, (m.reply a).2 = m := fun m => by
        have hperf : m.Performs may a (m.reply a).1 (m.reply a).2 := Or.inl rfl
        exact Machine.performs_asks hperf hp.1.asks
      refine ⟨v.machine, ?_, rfl⟩
      rcases hm with hm | ⟨hmay, hfail, -⟩
      · refine Or.inl (Prod.ext ?_ (hasks v.machine).symm)
        exact (congrArg Prod.fst hm).trans (hs.reply hp.1).symm
      · exact Or.inr ⟨hmay, hfail, Or.inl rfl⟩
    | _ => exact hp.1.elim

theorem World.Archives.unique (h : w.Archives runner Refusals.never binary entry content)
    (h' : v.Archives runner Refusals.never binary entry content')
    (hs : SameOpen binary w.machine v.machine) : content' = content := by
  obtain ⟨records, w₁, hcollect, rfl⟩ := h
  obtain ⟨records', v₁, hcollect', rfl⟩ := h'
  have hsame := hcollect'.unique (hcollect.reads (collectRecords_only _ _) hs)
  rw [(Prod.mk.inj hsame.1).1]

/-! ## The files that packaging writes -/

/-- The package of a request is called `name` in `dir`. Its checksum file is looked for in `up`,
which leads to the same directory. -/
structure Placed (settings : Settings) (request : BuildRequest) (dir up : Path) (name : String) :
    Prop where
  named : IsName name
  package : packagePath settings request = dir.join name
  sidecar : checksumPath (dir.join name) = up.join (checksumName name)
  sameWay : up.SameWay dir

theorem exists_placed (settings : Settings) (request : BuildRequest) :
    ∃ dir up name, Placed settings request dir up name := by
  obtain ⟨dir, name, hn, hpackage⟩ := exists_packagePath_join settings request
  obtain ⟨up, hway, hsidecar⟩ := checksumPath_join hn dir
  exact ⟨dir, up, name, hn, hpackage, hsidecar, hway⟩

/-- The places of the package, and of the checksum file when it is asked for. -/
def targetPlaces (settings : Settings) (request : BuildRequest) (here : Location) : List Location :=
  (packageTargets settings request).map (placeOf here)

theorem Placed.packagePlace (h : Placed settings request dir up name) (here : Location) :
    placeOf here (packagePath settings request) = placeOf here dir ++ [name] := by
  rw [h.package, placeOf_join h.named]

theorem Placed.mem_targetPlaces (h : Placed settings request dir up name) :
    q ∈ targetPlaces settings request here ↔ q = placeOf here dir ++ [name] ∨
      settings.checksum = true ∧ q = placeOf here dir ++ [checksumName name] := by
  have hside : placeOf here (checksumPath (packagePath settings request))
      = placeOf here dir ++ [checksumName name] := by
    rw [h.package, h.sidecar, placeOf_join (isName_checksumName h.named), placeOf_sameWay h.sameWay]
  simp only [targetPlaces, List.mem_map, mem_packageTargets_iff]
  constructor
  · rintro ⟨path, hpath | ⟨hsum, hpath⟩, hplace⟩
    · exact Or.inl (by rw [← hplace, hpath, h.packagePlace])
    · exact Or.inr ⟨hsum, by rw [← hplace, hpath, hside]⟩
  · rintro (hq | ⟨hsum, hq⟩)
    · exact ⟨_, Or.inl rfl, by rw [h.packagePlace, hq]⟩
    · exact ⟨_, Or.inr ⟨hsum, rfl⟩, by rw [hside, hq]⟩

/-- Nothing is at the place, or a file. -/
def Filed (fs : FileSystem) (place : Location) : Prop :=
  fs.node? place = none ∨ ∃ data, fs.node? place = some (.file data)

theorem Filed.ordinary (h : Filed fs place) : fs.Ordinary place := by
  rcases h with hnone | ⟨data, hdata⟩
  · exact ordinary_of_none hnone
  · exact ⟨by simp [hdata], by simp [hdata]⟩

theorem Writable.filed (h : Writable settings fs place) : Filed fs place := by
  rcases h with ⟨hnone, -⟩ | ⟨-, data, hdata, -⟩
  · exact Or.inl hnone
  · exact Or.inr ⟨data, hdata⟩

theorem Writable.mode (h : Writable settings fs place) :
    ownerWrites (fileMode fs place) = true := by
  rcases h with ⟨hnone, -⟩ | ⟨-, data, hdata, hwrites⟩
  · rw [fileMode, hnone]
    decide
  · rw [fileMode_eq hdata, hwrites]

theorem Taken.openable (hc : settings.collision = .overwrite) (hn : IsName name)
    (hf : fs.Ordinary (place ++ [name])) (h : Taken settings fs here dir name place fs' file) :
    Openable settings fs here dir name place := by
  refine ⟨hn, h.size, h.reaches, h.refused, ?_⟩
  cases hnode : fs.node? (place ++ [name]) with
  | none => exact Or.inl ⟨hnode, by rw [List.dropLast_concat]; exact h.changeable hnode⟩
  | some node =>
    rcases h.writable node hnode with ⟨device, rfl⟩ | ⟨data, rfl, hwrites⟩
    · exact absurd hnode (hf.2 device)
    · exact Or.inr ⟨hc, data, hnode, hwrites⟩

theorem runs_createFile_openable (hc : settings.collision = .overwrite) (hn : IsName name)
    (hl : w.machine.files.Unlinked w.machine.directory (dir.join name))
    (hf : w.machine.files.Ordinary (placeOf w.machine.directory dir ++ [name]))
    (h : w.Runs runner Refusals.never (createFile settings (dir.join name)).run (.ok file) w') :
    Openable settings w.machine.files w.machine.directory dir name
      (placeOf w.machine.directory dir) := by
  rcases runs_createFile_takes hn hl h with ⟨⟨e, he⟩, -⟩ | ⟨file', -, -, htaken⟩
  · simp at he
  · exact htaken.openable hc hn hf

theorem runs_createFile_opens
    (hroom : Openable settings w.machine.files w.machine.directory dir name place)
    (h : w.Runs runner Refusals.never (createFile settings (dir.join name)).run (.ok file) w') :
    w.machine.Stays w'.machine ∧ Opens w.machine.files (place ++ [name]) w'.machine.files file ∧
      fileMode w'.machine.files (place ++ [name]) = fileMode w.machine.files (place ++ [name]) ∧
      ∀ data, w.machine.files.node? (place ++ [name]) = some (.file data) →
        w'.machine.files.node? (place ++ [name])
          = some (.file { data with content := [], modified := w.machine.now }) := by
  obtain ⟨file', w₁, hcreate, hends⟩ := createFile_ends hroom
  obtain ⟨hfile, rfl⟩ := h.unique hcreate
  obtain rfl := Except.ok.inj hfile
  exact hends

/-! ## What a packaging that succeeds has found -/

theorem FileSystem.SameOff.unlinked {path : Path} (h : SameOff place fs fs')
    (hf : ∀ target, fs'.node? place ≠ some (.link target)) (hl : fs.Unlinked here path) :
    fs'.Unlinked here path := by
  intro q hq target hlink
  by_cases hplace : q = place
  · exact hf target (hplace ▸ hlink)
  · exact hl q hq target ((h q hplace).symm.trans hlink)

theorem runs_hashFile_readable {path : Path} {hash : ContentHash} {data : FileData}
    (hfind : w.machine.files.findNode w.machine.directory path = .ok (place, .file data))
    (h : w.Runs runner Refusals.never (hashFile path).run (.ok hash) w') :
    ownerReads data.mode = true := by
  rw [hashFile, runs_stage_bind_ok] at h
  obtain ⟨opened, w₁, hopen, -⟩ := h
  rw [runs_attempt, runs_file] at hopen
  obtain ⟨m, hm, -⟩ := hopen
  obtain ⟨hr, -⟩ := Machine.performs_ok hm (by simp [FileAction.failure])
  obtain ⟨found, node, hfound, -, hreads⟩ := openRead_ok hr.symm
  obtain ⟨-, rfl⟩ := Prod.mk.inj (Except.ok.inj (hfound.symm.trans hfind))
  exact hreads

theorem runs_writeArchive_mode (hh : w.machine.files.Holds file [])
    (h : w.Runs runner Refusals.never (writeArchive file binary entry).run (.ok ()) w') :
    fileMode w'.machine.files file.place = fileMode w.machine.files file.place := by
  obtain ⟨-, content, -, harchives⟩ := runs_writeArchive hh h
  obtain ⟨records, w₁, hcollect, -⟩ := harchives rfl
  obtain ⟨w₂, hagain, hmode⟩ := writeArchive_ends hh
    (hcollect.reads (collectRecords_only _ _) (SameOpen.refl _ _))
  obtain rfl : w' = w₂ := (h.unique hagain).2
  exact hmode

theorem Placed.sidecar_openable (hc : settings.collision = .overwrite)
    (hp : Placed settings request dir up name)
    (hl : w.machine.files.Unlinked w.machine.directory (up.join (checksumName name)))
    (hs : w.machine.files.Ordinary (placeOf w.machine.directory dir ++ [checksumName name]))
    (h : w.Runs runner Refusals.never (createFile settings (checksumPath (dir.join name))).run
      (.ok file) w') :
    Openable settings w.machine.files w.machine.directory up (checksumName name)
      (placeOf w.machine.directory dir) := by
  rw [hp.sidecar] at h
  rw [← placeOf_sameWay hp.sameWay] at hs ⊢
  exact runs_createFile_openable hc (isName_checksumName hp.named) hl hs h

theorem runs_fillPackage_room {artifact : Path} {line : String}
    {filled : Nat × Option (ContentHash × Path)} (hc : settings.collision = .overwrite)
    (hsum : settings.checksum = true) (hp : Placed settings request dir up name)
    (hreach : w.machine.files.Reaches w.machine.directory dir (placeOf w.machine.directory dir))
    (hr : refuse? (dir.join name) = none) (hsize : name.utf8ByteSize ≤ maxNameBytes)
    (hh : w.machine.files.Holds file [])
    (hfile : file.place = placeOf w.machine.directory dir ++ [name])
    (hl : w.machine.files.Unlinked w.machine.directory (up.join (checksumName name)))
    (hs : w.machine.files.Ordinary (placeOf w.machine.directory dir ++ [checksumName name]))
    (h : w.Runs runner Refusals.never (fillPackage settings file binary artifact (dir.join name)
      line entry).run (.ok filled) w') :
    ownerReads (fileMode w.machine.files (placeOf w.machine.directory dir ++ [name])) = true ∧
      Openable settings w.machine.files w.machine.directory up (checksumName name)
        (placeOf w.machine.directory dir) := by
  cases runs_fillPackage_cases h with
  | plain archives describes unasked => simp [unasked] at hsum
  | @checksum status x _ w₁ _ archives describes asked writes result =>
    obtain ⟨hash, w₂, sidecar, w₃, hhash, hcreate⟩ : ∃ hash w₂ sidecar w₃,
        w₁.Runs runner Refusals.never (hashFile (dir.join name)).run (.ok hash) w₂ ∧
        w₂.Runs runner Refusals.never (createFile settings (checksumPath (dir.join name))).run
          (.ok sidecar) w₃ := by
      cases runs_writeChecksum_cases writes with
      | unhashed | uncreated | unwritten => simp [Except.map] at result
      | written hashes creates => exact ⟨_, _, _, _, hashes, creates⟩
    have hw₂ := (hhash.untouched (hashFile_only _)).1
    obtain ⟨hoff, hkeeps, hdir, hreach', content, hholds, -⟩ :=
      runs_writeArchive_into hreach hh hfile archives
    have hmode := runs_writeArchive_mode hh archives
    rw [hfile] at hmode
    rw [← hdir] at hfile hl hs hoff hreach' hmode ⊢
    obtain ⟨data, hfind, -⟩ := findNode_of_holds hp.named hreach' hr hsize hholds hfile
    have hnode := node?_of_findNode hfind
    have hside := hoff (placeOf w₁.machine.directory dir ++ [checksumName name]) sidecar_ne_package
    constructor
    · rw [← hmode, fileMode_eq hnode]
      exact runs_hashFile_readable hfind hhash
    · have hroom : Openable settings w₁.machine.files w₁.machine.directory up (checksumName name)
          (placeOf w₁.machine.directory dir) := by
        rw [← hw₂]
        refine hp.sidecar_openable hc ?_ ?_ hcreate
        · rw [hw₂]
          exact hoff.unlinked (by simp [hnode]) hl
        · rw [hw₂]
          exact hs.of_same hside
      exact hroom.keeps (hoff.symm.keeps (hfile ▸ hholds.not_leads)) hside.symm

/-- What packaging writes to a place when the archive is `content`. -/
def targetContent (settings : Settings) (request : BuildRequest) (here : Location) (content : Bytes)
    (place : Location) : Bytes :=
  if place = placeOf here (packagePath settings request) then content
  else Utf8.encode ((ContentHash.ofBytes content).checksumLine
    (request.platform.packageName settings.product))

/-- The package has the content, its checksum file is for it, and so is what is reported. Files that
were there keep their modes, and nothing else has changed. -/
structure Packed (settings : Settings) (request : BuildRequest) (here : Location) (content : Bytes)
    (replaced : Bool) (fs fs' : FileSystem) (made : Package) : Prop where
  targets : ∀ q ∈ targetPlaces settings request here, ∃ data,
    fs'.node? q = some (.file data) ∧ data.content = targetContent settings request here content q ∧
      data.mode = fileMode fs q
  others : SameOutside (targetPlaces settings request here) fs fs'
  reported : made = {
    name := request.platform.packageName settings.product
    path := packagePath settings request
    size := content.length
    replaced := replaced
    sha256 := if settings.checksum then some (ContentHash.ofBytes content) else none
    checksumPath := if settings.checksum then some (checksumPath (packagePath settings request))
      else none }

theorem runs_packInto_steps {may : Refusals} {replaced : Bool}
    (h : w.Runs runner may (packInto settings verified replaced).run (.ok made) w') :
    ∃ binary file size written, ∃ w₁ w₂ : World σ,
      w.machine.files.openRead w.machine.directory verified.artifact.path = .ok binary ∧
      w.Runs runner may (createFile settings (packagePath settings verified.artifact.request)).run
        (.ok file) w₁ ∧
      w₁.Runs runner may (fillPackage settings file binary verified.artifact.path
        (packagePath settings verified.artifact.request)
        (verified.artifact.request.platform.packageName settings.product)
        (verified.artifact.request.os.executable settings.product)).run (.ok (size, written)) w₂ ∧
      w'.machine = w₂.machine ∧ made = {
        name := verified.artifact.request.platform.packageName settings.product
        path := packagePath settings verified.artifact.request
        size := size
        replaced := replaced
        sha256 := written.map (·.1)
        checksumPath := written.map (·.2) } := by
  rw [packInto_opened, runs_stage_bind_ok] at h
  obtain ⟨opened, w₁, hopen, hfinish⟩ := h
  cases runs_openFiles_cases hopen with
  | @read binary x _ _ reads creates result =>
    obtain ⟨hbinary, -⟩ := Machine.performs_ok reads (by simp [FileAction.failure])
    cases x with
    | error e => simp [Except.map] at result
    | ok file =>
      obtain rfl := Except.ok.inj result
      cases runs_finishPackage_cases hfinish with
      | made fills same => exact ⟨binary, file, _, _, w₁, _, hbinary.symm, creates, fills, same, rfl⟩

theorem runs_filled {artifact : Path} {line : String} {size : Nat}
    {written : Option (ContentHash × Path)} {w₁ w₂ : World σ} (hc : settings.collision = .overwrite)
    (hp : Placed settings request dir up name)
    (hl : w.machine.files.Unlinked w.machine.directory (dir.join name))
    (hl' : settings.checksum = true →
      w.machine.files.Unlinked w.machine.directory (up.join (checksumName name)))
    (hs : ∀ q ∈ targetPlaces settings request w.machine.directory, w.machine.files.Ordinary q)
    (hcreate : w.Runs runner Refusals.never (createFile settings (dir.join name)).run (.ok file) w₁)
    (hfill : w₁.Runs runner Refusals.never (fillPackage settings file binary artifact
      (dir.join name) line entry).run (.ok (size, written)) w₂) :
    Opens w.machine.files (placeOf w.machine.directory dir ++ [name]) w₁.machine.files file ∧
      Room settings w.machine.files w.machine.directory dir up name
        (placeOf w.machine.directory dir) ∧
      ∃ content, w₂.machine.files.Holds file content ∧
        w₁.Archives runner Refusals.never binary entry content ∧
        Reported settings (placeOf w.machine.directory dir) name line
          (checksumPath (dir.join name)) content size written w₁.machine w₂.machine := by
  have hpackage := runs_createFile_openable hc hp.named hl
    (hs _ (hp.mem_targetPlaces.mpr (Or.inl rfl))) hcreate
  obtain ⟨hstays, hopens, hmode, -⟩ := runs_createFile_opens hpackage hcreate
  have hdir := hstays.directory
  have hreach := hpackage.reaches.keeps (hpackage.writable.keeps_of_sameOff hopens.sameOff)
  have hsame := hopens.sameOff (placeOf w.machine.directory dir ++ [checksumName name])
    sidecar_ne_package
  have hside : settings.checksum = true → w₁.machine.files.Ordinary
      (placeOf w.machine.directory dir ++ [checksumName name]) := fun hsum =>
    (hs _ (hp.mem_targetPlaces.mpr (Or.inr ⟨hsum, rfl⟩))).of_same hsame
  obtain ⟨content, hholds, harchives, -, hreported⟩ :=
    runs_fillPackage_reported hp.named (by rw [hdir]; exact hreach) hpackage.refused
      hpackage.size hopens.holds hopens.place_eq (fun hsum _ => hside hsum) hfill
  refine ⟨hopens, ⟨hpackage, fun hsum => ?_, fun hsum => ?_⟩, content, hholds, harchives, hreported⟩
  all_goals
    have hnew := hopens.holds.not_leads
    rw [hopens.place_eq] at hnew
    obtain ⟨hreads, hroom⟩ := runs_fillPackage_room hc hsum hp (by rw [hdir]; exact hreach)
      hpackage.refused hpackage.size hopens.holds (by rw [hdir]; exact hopens.place_eq)
      (hopens.sameOff.unlinked (fun target hlink => hnew _ hlink trivial)
        (by rw [hdir]; exact hl' hsum)) (by rw [hdir]; exact hside hsum) hfill
    rw [hdir] at hreads hroom
  · exact hmode ▸ hreads
  · exact hroom.keeps (hopens.sameOff.symm.keeps hnew) hsame.symm

/-- A packaging that succeeded has found a binary to read and room for its files, and has put a
package with the archive of the binary there. -/
theorem runs_packInto_made {replaced : Bool} (hc : settings.collision = .overwrite)
    (hp : Placed settings verified.artifact.request dir up name)
    (hl : ∀ path ∈ packageTargets settings verified.artifact.request,
      w.machine.files.Unlinked w.machine.directory path)
    (hs : ∀ q ∈ targetPlaces settings verified.artifact.request w.machine.directory,
      w.machine.files.Ordinary q)
    (h : w.Runs runner Refusals.never (packInto settings verified replaced).run (.ok made) w') :
    ∃ binary file w₁ content,
      w.machine.files.openRead w.machine.directory verified.artifact.path = .ok binary ∧
      Room settings w.machine.files w.machine.directory dir up name
        (placeOf w.machine.directory dir) ∧
      w.Runs runner Refusals.never (createFile settings (dir.join name)).run (.ok file) w₁ ∧
      w₁.Archives runner Refusals.never binary
        (verified.artifact.request.os.executable settings.product) content ∧
      Packed settings verified.artifact.request w.machine.directory content replaced
        w.machine.files w'.machine.files made := by
  simp only [mem_packageTargets_iff, forall_eq_or_imp, and_imp, forall_eq_apply_imp_iff,
    hp.package, hp.sidecar] at hl
  obtain ⟨binary, file, size, written, w₁, w₂, hbinary, hcreate, hfill, hmachine, hmade⟩ :=
    runs_packInto_steps h
  rw [hp.package] at hcreate hfill hmade
  obtain ⟨hopens, hroom, content, hholds, harchives, hreported⟩ :=
    runs_filled hc hp hl.1 hl.2 hs hcreate hfill
  have hcollects : ∀ file' w₃, w.Runs runner Refusals.never
      (createFile settings (dir.join name)).run (.ok file') w₃ → ∃ records,
      w₃.Runs runner Refusals.never (collectRecords binary
        (verified.artifact.request.os.executable settings.product)) (records, .ok ()) w₃ := by
    intro file' w₃ hagain
    obtain rfl := (hagain.unique hcreate).2
    obtain ⟨records, w₄, hcollect, -⟩ := harchives
    exact ⟨records, hcollect.reads (collectRecords_only _ _) (SameOpen.refl _ _)⟩
  -- With that room there is a run that keeps the modes, and no other run is possible.
  obtain ⟨package, data, w₃, hagain, -, hnode, hdata, hmode⟩ : ∃ package data w₃,
      w.Runs runner Refusals.never (packInto settings verified replaced).run (.ok package) w₃ ∧ _ :=
    packInto_ends hp.package hp.sidecar hbinary hroom (fun file' w₃ h _ => hcollects file' w₃ h)
  obtain rfl := (hagain.unique h).2
  refine ⟨binary, file, w₁, content, hbinary, hroom, hcreate, harchives, ?_, ?_, ?_⟩
  · intro q hq
    rcases hp.mem_targetPlaces.mp hq with rfl | ⟨hsum, rfl⟩
    · obtain ⟨found, hfound, -, hcontent⟩ := hholds
      rw [hopens.place_eq, ← hmachine] at hfound
      obtain rfl := file_unique hnode hfound
      exact ⟨data, hnode, by rw [targetContent, hp.packagePlace, if_pos rfl, hcontent], hdata⟩
    · obtain ⟨line, hline, hcontent⟩ := hreported.recorded hsum
      have hnode' := node?_of_findNode hline
      rw [← hmachine] at hnode'
      rw [fileMode_eq hnode'] at hmode
      refine ⟨line, hnode', ?_, hmode⟩
      rw [targetContent, hp.packagePlace, if_neg sidecar_ne_package, hcontent]
  · intro q hq
    rw [hp.mem_targetPlaces, not_or, not_and] at hq
    rw [hmachine, hreported.others q hq.1 hq.2, hopens.sameOff q hq.1]
  · rw [hmade, hreported.size_eq, hreported.written_eq, hp.package]
    cases settings.checksum <;> rfl

/-! ## Machines that differ in what is replaced -/

/-- The machines differ in the files that packaging writes at most, and neither has anything else in
their places. The artifact is the same. The clocks may differ when it is a file that packaging does
not write. -/
structure Variants (settings : Settings) (verified : VerifiedArtifact) (m n : Machine) : Prop where
  directory : n.directory = m.directory
  others : SameOutside (targetPlaces settings verified.artifact.request m.directory) m.files n.files
  before : ∀ q ∈ targetPlaces settings verified.artifact.request m.directory, Filed m.files q
  after : ∀ q ∈ targetPlaces settings verified.artifact.request m.directory, Filed n.files q
  binary : n.files.node? (placeOf m.directory verified.artifact.path)
    = m.files.node? (placeOf m.directory verified.artifact.path)
  clock : n.now = m.now ∨
    placeOf m.directory verified.artifact.path
      ∉ targetPlaces settings verified.artifact.request m.directory ∧
    ∃ data, m.files.node? (placeOf m.directory verified.artifact.path) = some (.file data)

theorem Variants.keeps (h : Variants settings verified m n) : Keeps m.files n.files := by
  intro q node hleads hnode
  by_cases hq : q ∈ targetPlaces settings verified.artifact.request m.directory
  · rcases h.before q hq with hnone | ⟨data, hdata⟩
    · simp [hnone] at hnode
    · rw [hdata, Option.some.injEq] at hnode
      subst hnode
      exact hleads.elim
  · rw [h.others q hq, hnode]

theorem Variants.unlinked {path : Path} (h : Variants settings verified m n)
    (hl : m.files.Unlinked here path) : n.files.Unlinked here path := by
  intro q hq target hlink
  by_cases hplace : q ∈ targetPlaces settings verified.artifact.request m.directory
  · exact (h.after q hplace).ordinary.1 target hlink
  · exact hl q hq target ((h.others q hplace).symm.trans hlink)

theorem Variants.sameOpen {node : Node} {file' : Handle} {w₁ v₁ : World σ}
    (hp : Placed settings verified.artifact.request dir up name)
    (h : Variants settings verified w.machine v.machine)
    (hnode : w.machine.files.node? (placeOf w.machine.directory verified.artifact.path) = some node)
    (hroom : Openable settings w.machine.files w.machine.directory dir name
      (placeOf w.machine.directory dir))
    (hroom' : Openable settings v.machine.files v.machine.directory dir name
      (placeOf w.machine.directory dir))
    (hcreate : w.Runs runner Refusals.never (createFile settings (dir.join name)).run (.ok file) w₁)
    (hcreate' : v.Runs runner Refusals.never (createFile settings (dir.join name)).run (.ok file')
      v₁) :
    SameOpen ⟨placeOf w.machine.directory verified.artifact.path, serialOf node⟩ w₁.machine
      v₁.machine := by
  obtain ⟨hstays, hopens, -, hemptied⟩ := runs_createFile_opens hroom hcreate
  obtain ⟨hstays', hopens', -, hemptied'⟩ := runs_createFile_opens hroom' hcreate'
  have hmem := hp.mem_targetPlaces.mpr (Or.inl (rfl : placeOf w.machine.directory dir ++ [name] = _))
  have hnode' := h.binary.trans hnode
  have hclock : v.machine.now = w.machine.now → v₁.machine.now = w₁.machine.now := fun hnow => by
    rw [hstays.now, hstays'.now, hnow]
  by_cases hplace : placeOf w.machine.directory verified.artifact.path
      = placeOf w.machine.directory dir ++ [name]
  · -- The artifact is replaced itself, by what is the same at the same time.
    have hnow : v.machine.now = w.machine.now := h.clock.resolve_right fun hoff =>
      hoff.1 (hplace ▸ hmem)
    rw [hplace] at hnode hnode' ⊢
    obtain ⟨data, rfl⟩ : ∃ data, node = .file data := by
      rcases h.before _ hmem with hnone | ⟨data, hdata⟩
      · simp [hnone] at hnode
      · exact ⟨data, Option.some.inj (hnode.symm.trans hdata)⟩
    refine ⟨?_, Or.inl (hclock hnow)⟩
    unfold openNode?
    rw [hemptied data hnode, hemptied' data hnode', hnow]
  · have hsame : v₁.machine.files.openNode?
        ⟨placeOf w.machine.directory verified.artifact.path, serialOf node⟩ = some node ∧
        w₁.machine.files.openNode?
          ⟨placeOf w.machine.directory verified.artifact.path, serialOf node⟩ = some node := by
      unfold openNode?
      rw [hopens.sameOff _ hplace, hopens'.sameOff _ hplace, hnode, hnode']
      simp
    refine ⟨hsame.1.trans hsame.2.symm, h.clock.imp hclock fun ⟨_, data, hdata⟩ => ⟨data, ?_⟩⟩
    rw [hsame.2, ← hnode, hdata]

/-- The files that packaging writes can be written, and the package can be read for its hash. -/
structure Receives (settings : Settings) (request : BuildRequest) (m : Machine) : Prop where
  writable : ∀ q ∈ targetPlaces settings request m.directory, Writable settings m.files q
  readable : settings.checksum = true →
    ownerReads (fileMode m.files (placeOf m.directory (packagePath settings request))) = true

theorem Room.receives (hp : Placed settings request dir up name)
    (h : Room settings m.files m.directory dir up name (placeOf m.directory dir)) :
    Receives settings request m := by
  refine ⟨fun q hq => ?_, fun hsum => hp.packagePlace m.directory ▸ h.readable hsum⟩
  rcases hp.mem_targetPlaces.mp hq with rfl | ⟨hsum, rfl⟩
  · exact h.package.writable
  · exact (h.sidecar hsum).writable

theorem Variants.room (hp : Placed settings verified.artifact.request dir up name)
    (h : Variants settings verified m n)
    (hroom : Room settings m.files m.directory dir up name (placeOf m.directory dir))
    (hr : Receives settings verified.artifact.request n) :
    Room settings n.files n.directory dir up name (placeOf n.directory dir) := by
  obtain ⟨hwritable, hreadable⟩ := hr
  simp only [h.directory, hp.packagePlace, hp.mem_targetPlaces] at hwritable hreadable ⊢
  have hopenable : ∀ {path name}, Openable settings m.files m.directory path name
      (placeOf m.directory dir) → Writable settings n.files (placeOf m.directory dir ++ [name]) →
      Openable settings n.files m.directory path name (placeOf m.directory dir) := fun hold hnew =>
    ⟨hold.named, hold.size, hold.reaches.keeps h.keeps, hold.refused, hnew⟩
  exact ⟨hopenable hroom.package (hwritable _ (Or.inl rfl)), hreadable,
    fun hsum => hopenable (hroom.sidecar hsum) (hwritable _ (Or.inr ⟨hsum, rfl⟩))⟩

/-- What packaging puts into the files on one machine, it puts there on the other. -/
theorem Variants.packs {replaced replaced' : Bool} (hc : settings.collision = .overwrite)
    (hl : ∀ path ∈ verified.artifact.path :: packageTargets settings verified.artifact.request,
      w.machine.files.Unlinked w.machine.directory path)
    (hv : Variants settings verified w.machine v.machine)
    (hr : Receives settings verified.artifact.request v.machine)
    (h : w.Runs runner Refusals.never (packInto settings verified replaced).run (.ok made) w') :
    ∃ content other v', Packed settings verified.artifact.request w.machine.directory content
        replaced w.machine.files w'.machine.files made ∧
      v.Runs runner Refusals.never (packInto settings verified replaced').run (.ok other) v' ∧
      Packed settings verified.artifact.request w.machine.directory content replaced'
        v.machine.files v'.machine.files other := by
  obtain ⟨dir, up, name, hp⟩ := exists_placed settings verified.artifact.request
  obtain ⟨hartifact, htargets⟩ := List.forall_mem_cons.mp hl
  obtain ⟨binary, file, w₁, content, hbinary, hroom, hcreate, harchives, hpacked⟩ :=
    runs_packInto_made hc hp htargets (fun q hq => (hv.before q hq).ordinary) h
  have hroom' := hv.room hp hroom hr
  obtain ⟨node, hfind, rfl⟩ : ∃ node, w.machine.files.findNode w.machine.directory
      verified.artifact.path = .ok (placeOf w.machine.directory verified.artifact.path, node) ∧
        binary = ⟨placeOf w.machine.directory verified.artifact.path, serialOf node⟩ := by
    obtain ⟨origin, node, hfind, hfile, -⟩ := openRead_ok hbinary
    obtain rfl := findNode_place hartifact hfind
    exact ⟨node, hfind, hfile⟩
  have hnode := node?_of_findNode hfind
  have hbinary' : v.machine.files.openRead v.machine.directory verified.artifact.path
      = .ok ⟨placeOf w.machine.directory verified.artifact.path, serialOf node⟩ := by
    have hfind' := findNode_keeps hv.keeps hfind (hv.binary.trans hnode)
    rw [← hbinary, hv.directory]
    unfold FileSystem.openRead
    rw [hfind, hfind']
  -- The archive is collected once the package is open, and by then the binary is the same on both
  -- machines, even if it is the package itself.
  have hcollects : ∀ file' v₁, v.Runs runner Refusals.never
      (createFile settings (dir.join name)).run (.ok file') v₁ → SameOpen
        ⟨placeOf w.machine.directory verified.artifact.path, serialOf node⟩ w₁.machine v₁.machine :=
    fun file' v₁ hcreate' =>
      hv.sameOpen hp hnode hroom.package (hv.directory ▸ hroom'.package) hcreate hcreate'
  obtain ⟨other, data, v', hrun, -⟩ : ∃ other data v', v.Runs runner Refusals.never
      (packInto settings verified replaced').run (.ok other) v' ∧ _ :=
    packInto_ends hp.package hp.sidecar hbinary' hroom' (fun file' v₁ hcreate' _ => by
      obtain ⟨records, w₂, hcollect, -⟩ := harchives
      exact ⟨records, hcollect.reads (collectRecords_only _ _) (hcollects file' v₁ hcreate')⟩)
  obtain ⟨binary', file', v₁, content', hread', -, hcreate', harchives', hpacked'⟩ :=
    runs_packInto_made hc hp (fun path hpath => hv.directory ▸ hv.unlinked (htargets path hpath))
      (fun q hq => (hv.after q (hv.directory ▸ hq)).ordinary) hrun
  obtain rfl := Except.ok.inj (hread'.symm.trans hbinary')
  obtain rfl := harchives.unique harchives' (hcollects file' v₁ hcreate')
  exact ⟨content', other, v', hpacked, hrun, hv.directory ▸ hpacked'⟩

/-! ## Before the package -/

theorem runs_package_packs
    (h : w.Runs runner Refusals.never (package settings verified).run (.ok made) w') :
    ∃ w₁ w₂ : World σ,
      w.Runs runner Refusals.never (makeDirectories settings.packagesDir).run (.ok ()) w₁ ∧
      w₂.machine = w₁.machine ∧ w₂.Runs runner Refusals.never (packInto settings verified
        (w₁.machine.files.exists? w₁.machine.directory
          (packagePath settings verified.artifact.request))).run (.ok made) w' := by
  rw [package_eq] at h
  obtain ⟨w₀, ⟨hw₀, hrunner, -⟩, ⟨e, he, -⟩ | ⟨w₁, w₂, replaced, hdirs, hm, hw₂, hpack⟩⟩ :=
    runs_prepared h
  · simp at he
  obtain ⟨w₃, hdirs', hw₃, -⟩ : ∃ w₃, w.Runs runner Refusals.never
      (makeDirectories settings.packagesDir).run (.ok ()) w₃ ∧ _ := hdirs.elsewhere hw₀.symm
        hrunner.symm
  obtain rfl : replaced = w₃.machine.files.exists? w₃.machine.directory
      (packagePath settings verified.artifact.request) := by
    rw [hw₃]
    exact congrArg Prod.fst (hm.resolve_right fun hmay => hmay.1)
  exact ⟨w₃, w₂, hdirs', hw₂.trans hw₃.symm, hpack⟩

theorem Filed.spared {places : List Location} (h : Filed fs' q) (hs : Spared places fs fs' q) :
    fs'.node? q = fs.node? q := by
  rcases h with hnone | ⟨data, hdata⟩
  · exact hs.same (by simp [hnone])
  · exact hs.same (by simp [hdata])

theorem directories_on_ways {path : Path} {w₁ : World σ} (hpath : path.text.isEmpty = false)
    (hl : w.machine.files.Unlinked w.machine.directory path)
    (hdirs : w.Runs runner Refusals.never (makeDirectories path).run (.ok ()) w₁) :
    ∀ q ∈ waysOf w.machine.directory path,
      ∃ mode, w₁.machine.files.node? q = some (.directory mode) := by
  obtain ⟨above, habove⟩ := lineage_eq_cons path
  have hmade := (runs_makeDirectories_made hdirs).1
  rw [habove] at hmade
  exact directories_of_satisfies (hl.spared (runs_makeDirectories_spares hl hdirs))
    (satisfies_of_makeAll hpath hmade)

theorem waysOf_lineage {p path : Path} (h : path ∈ lineage p) :
    waysOf here path ⊆ waysOf here p := by
  have hstart : startOf here path = startOf here p := by
    unfold startOf
    rw [(stepsOf_lineage h).1]
  unfold waysOf
  rw [hstart]
  exact List.cons_subset_cons _ (trailOf_lineage h)

theorem Filed.off_ways {path : Path} {w₁ : World σ} (h : Filed w₁.machine.files q)
    (hpath : path.text.isEmpty = false) (hl : w.machine.files.Unlinked w.machine.directory path)
    (hdirs : w.Runs runner Refusals.never (makeDirectories path).run (.ok ()) w₁) :
    q ∉ waysOf w.machine.directory path := by
  intro hmem
  obtain ⟨mode, hmode⟩ := directories_on_ways hpath hl hdirs q hmem
  rcases h with hnone | ⟨data, hdata⟩
  · simp [hnone] at hmode
  · simp [hdata] at hmode

theorem Variants.parallel {w₁ : World σ} (h : Variants settings verified w.machine v.machine)
    (hpath : settings.packagesDir.text.isEmpty = false)
    (hl : w.machine.files.Unlinked w.machine.directory settings.packagesDir)
    (hdirs : w.Runs runner Refusals.never (makeDirectories settings.packagesDir).run (.ok ()) w₁)
    (hapart : ∀ q ∈ targetPlaces settings verified.artifact.request w.machine.directory,
      q ∉ waysOf w.machine.directory settings.packagesDir) :
    Parallel (waysOf w.machine.directory settings.packagesDir)
      (targetPlaces settings verified.artifact.request w.machine.directory)
      w.machine.files v.machine.files := by
  refine ⟨fun q hq => ⟨h.others q fun hmem => hapart q hmem hq, fun target hlink => ?_⟩, h.others⟩
  obtain ⟨mode, hmode⟩ := directories_on_ways hpath hl hdirs q hq
  rw [(runs_makeDirectories_spares hl hdirs q).kept hlink] at hmode
  simp at hmode

theorem Variants.extended {places : List Location} (h : Variants settings verified m n)
    (hspared : ∀ q, Spared places m.files fs q)
    (hf : ∀ q ∈ targetPlaces settings verified.artifact.request m.directory, Filed fs q)
    (hkept : ∀ q ∈ targetPlaces settings verified.artifact.request m.directory,
      fs'.node? q = n.files.node? q)
    (ho : SameOutside (targetPlaces settings verified.artifact.request m.directory) fs fs') :
    Variants settings verified { m with files := fs } { n with files := fs' } where
  directory := h.directory
  others := ho
  before := hf
  after := by
    intro q hq
    unfold Filed
    rw [hkept q hq]
    exact h.after q hq
  binary := by
    by_cases hmem : placeOf m.directory verified.artifact.path
        ∈ targetPlaces settings verified.artifact.request m.directory
    · rw [(hf _ hmem).spared (hspared _), hkept _ hmem, h.binary]
    · exact ho _ hmem
  clock := by
    refine h.clock.imp id ?_
    rintro ⟨hout, data, hdata⟩
    exact ⟨hout, data, (hspared _).kept hdata⟩

theorem Variants.directories {w₁ : World σ} (hv : Variants settings verified w.machine v.machine)
    (hl : w.machine.files.Unlinked w.machine.directory settings.packagesDir)
    (hdirs : w.Runs runner Refusals.never (makeDirectories settings.packagesDir).run (.ok ()) w₁)
    (hf : ∀ q ∈ targetPlaces settings verified.artifact.request w.machine.directory,
      Filed w₁.machine.files q) :
    ∃ v₁, v.Runs runner Refusals.never (makeDirectories settings.packagesDir).run (.ok ()) v₁ ∧
      Variants settings verified w₁.machine v₁.machine := by
  obtain ⟨hmade, hw₁⟩ := runs_makeDirectories_made hdirs
  cases hpath : settings.packagesDir.text.isEmpty with
  | true =>
    rw [makeAll_nowhere hpath] at hmade
    rw [← (Prod.mk.inj hmade).2] at hw₁
    exact ⟨v, makeDirectories_runs (makeAll_nowhere hpath), hw₁ ▸ hv⟩
  | false =>
    have hapart : ∀ q ∈ targetPlaces settings verified.artifact.request w.machine.directory,
        q ∉ waysOf w.machine.directory settings.packagesDir :=
      fun q hq => (hf q hq).off_ways hpath hl hdirs
    obtain ⟨hok, hafter⟩ := (hv.parallel hpath hl hdirs hapart).makeAll fun path hpath =>
      waysOf_lineage hpath
    rw [hmade] at hok hafter
    generalize hmade' : makeAll w.machine.directory (lineage settings.packagesDir) v.machine.files
      = made' at hok hafter
    obtain ⟨r, after⟩ := made'
    obtain rfl : r = .ok () := hok
    rw [← hv.directory] at hmade'
    have hdirs' : v.Runs runner Refusals.never (makeDirectories settings.packagesDir).run (.ok ())
      { v with machine := { v.machine with files := after } } := makeDirectories_runs hmade'
    have hspared' := runs_makeDirectories_spares (hv.directory ▸ hv.unlinked hl) hdirs'
    have hkept : ∀ q ∈ targetPlaces settings verified.artifact.request w.machine.directory,
        after.node? q = v.machine.files.node? q := by
      intro q hq
      refine (hspared' q).resolve_right fun hnew => hapart q hq (List.mem_cons_of_mem _ ?_)
      rw [← hv.directory]
      exact hnew.1
    refine ⟨_, hdirs', ?_⟩
    rw [hw₁]
    exact hv.extended (runs_makeDirectories_spares hl hdirs) hf hkept hafter.outside

/-! ## Permissions -/

/-- A file can be written to the place. One that is there may be written to, and a new one may be
added to its directory, unless that is still to be made. -/
structure Admits (fs : FileSystem) (place : Location) : Prop where
  old : ∀ data, fs.node? place = some (.file data) → ownerWrites data.mode = true
  new : fs.node? place = none → fs.node? place.dropLast = none ∨ fs.Changeable place.dropLast

/-- The files that packaging writes can be written. A package that is there can also be read, if its
hash is asked for. -/
structure Admitted (settings : Settings) (request : BuildRequest) (m : Machine) : Prop where
  targets : ∀ q ∈ targetPlaces settings request m.directory, Admits m.files q
  package : settings.checksum = true → ∀ data,
    m.files.node? (placeOf m.directory (packagePath settings request)) = some (.file data) →
      ownerReads data.mode = true

theorem admits_iff_writable {places : List Location} (hc : settings.collision = .overwrite)
    (hs : ∀ q, Spared places fs fs' q) (hf : Filed fs' place)
    (habove : ∃ mode, fs'.node? place.dropLast = some (.directory mode)) :
    Admits fs place ↔ Writable settings fs' place := by
  obtain ⟨mode, habove⟩ := habove
  have hsame := hf.spared (hs place)
  constructor
  · intro h
    rcases hf with hnone | ⟨data, hdata⟩
    · refine Or.inl ⟨hnone, ?_⟩
      rcases h.new (hsame ▸ hnone) with hmissing | hchange
      · rcases hs place.dropLast with hkept | ⟨-, -, hnew⟩
        · rw [hkept, hmissing] at habove
          simp at habove
        · have hgone := (not_or.mp (not_fixed_of_none hmissing)).2
          exact ⟨by simpa using hgone, _, hnew, by decide⟩
      · exact hchange.keeps (keeps_of_spared hs)
    · exact Or.inr ⟨hc, data, hdata, h.old data (hsame ▸ hdata)⟩
  · rintro (⟨hnone, hchange⟩ | ⟨-, data, hdata, hwrites⟩)
    · rw [hsame] at hnone
      refine ⟨by simp [hnone], fun _ => ?_⟩
      rcases hs place.dropLast with hkept | ⟨-, hmissing, -⟩
      · unfold Changeable at hchange ⊢
        rw [hkept] at hchange
        exact Or.inr hchange
      · exact Or.inl hmissing
    · rw [hsame] at hdata
      refine ⟨fun old hold => ?_, by simp [hdata]⟩
      obtain rfl := file_unique hdata hold
      exact hwrites

/-- Once the directories are there, the permissions say whether the files can be written. -/
theorem admitted_iff_receives {places : List Location} (hc : settings.collision = .overwrite)
    (hp : Placed settings request dir up name) (hdir : n.directory = m.directory)
    (hs : ∀ q, Spared places m.files n.files q)
    (hf : ∀ q ∈ targetPlaces settings request m.directory, Filed n.files q)
    (hreach : n.files.Reaches m.directory dir (placeOf m.directory dir)) :
    Admitted settings request m ↔ Receives settings request n := by
  obtain ⟨mode, habove, -⟩ := hreach.enterable
  have hmem := hp.mem_targetPlaces.mpr (Or.inl (rfl : placeOf m.directory dir ++ [name] = _))
  have htargets : ∀ q ∈ targetPlaces settings request m.directory,
      (Admits m.files q ↔ Writable settings n.files q) := by
    intro q hq
    refine admits_iff_writable hc hs (hf q hq) ⟨mode, ?_⟩
    rcases hp.mem_targetPlaces.mp hq with rfl | ⟨-, rfl⟩ <;> rw [List.dropLast_concat, habove]
  have hpackage : (∀ data, m.files.node? (placeOf m.directory dir ++ [name]) = some (.file data) →
      ownerReads data.mode = true) ↔
      ownerReads (fileMode n.files (placeOf m.directory dir ++ [name])) = true := by
    have hsame := (hf _ hmem).spared (hs _)
    rw [← hsame]
    rcases hf _ hmem with hnone | ⟨data, hdata⟩
    · rw [fileMode, hnone]
      exact ⟨fun _ => by decide, by simp⟩
    · rw [fileMode_eq hdata, hdata]
      exact ⟨fun h => h data rfl, by rintro h _ ⟨⟩; exact h⟩
  constructor
  · rintro ⟨hall, hread⟩
    rw [hp.packagePlace] at hread
    refine ⟨?_, ?_⟩ <;> rw [hdir]
    · exact fun q hq => (htargets q hq).mp (hall q hq)
    · rw [hp.packagePlace]
      exact fun hsum => hpackage.mp (hread hsum)
  · rintro ⟨hall, hread⟩
    rw [hdir] at hall hread
    rw [hp.packagePlace] at hread
    refine ⟨fun q hq => (htargets q hq).mpr (hall q hq), ?_⟩
    rw [hp.packagePlace]
    exact fun hsum => hpackage.mpr (hread hsum)

/-! ## The same package -/

/-- Packaging has made its directory, and has room for its files there. -/
structure Provided (runner : Runner σ) (settings : Settings) (verified : VerifiedArtifact)
    (dir up : Path) (name : String) (w w₁ : World σ) : Prop where
  makes : w.Runs runner Refusals.never (makeDirectories settings.packagesDir).run (.ok ()) w₁
  directory : w₁.machine.directory = w.machine.directory
  spared : ∀ q, Spared (trailOf w.machine.directory settings.packagesDir) w.machine.files
    w₁.machine.files q
  links : ∀ path ∈ settings.packagesDir :: verified.artifact.path ::
    packageTargets settings verified.artifact.request,
    w.machine.files.Unlinked w.machine.directory path
  room : Room settings w₁.machine.files w₁.machine.directory dir up name
    (placeOf w₁.machine.directory dir)

theorem runs_package_provided (hc : settings.collision = .overwrite)
    (hp : Placed settings verified.artifact.request dir up name)
    (hlinks : ∀ path ∈ settings.packagesDir :: verified.artifact.path ::
      packageTargets settings verified.artifact.request,
      w.machine.files.Unlinked w.machine.directory path)
    (hfiles : ∀ q ∈ targetPlaces settings verified.artifact.request w.machine.directory,
      Filed w.machine.files q)
    (h : w.Runs runner Refusals.never (package settings verified).run (.ok made) w') :
    ∃ w₁ w₂ : World σ, Provided runner settings verified dir up name w w₁ ∧
      w₂.machine = w₁.machine ∧ w₂.Runs runner Refusals.never (packInto settings verified
        (w₁.machine.files.exists? w₁.machine.directory
          (packagePath settings verified.artifact.request))).run (.ok made) w' ∧
      ∃ content replaced, Packed settings verified.artifact.request w.machine.directory content
        replaced w₁.machine.files w'.machine.files made := by
  obtain ⟨w₁, w₂, hdirs, hw₂, hpack⟩ := runs_package_packs h
  obtain ⟨hdir, htargets⟩ := List.forall_mem_cons.mp hlinks
  have hspared := runs_makeDirectories_spares hdir hdirs
  have hdirectory : w₂.machine.directory = w.machine.directory := by
    rw [hw₂, (runs_makeDirectories_made hdirs).2]
  obtain ⟨-, -, -, content, -, hroom, -, -, hpacked⟩ := runs_packInto_made hc hp
    (fun path hpath => by
      rw [hdirectory, hw₂]
      exact (htargets path (List.mem_cons_of_mem _ hpath)).spared hspared)
    (fun q hq => by
      rw [hdirectory] at hq
      rw [hw₂]
      exact (hfiles q hq).ordinary.spared (hspared q)) hpack
  rw [hdirectory, hw₂] at hpacked
  exact ⟨w₁, w₂, ⟨hdirs, hw₂ ▸ hdirectory, hspared, hlinks, hw₂ ▸ hroom⟩, hw₂, hpack, content, _,
    hpacked⟩

theorem Room.filed (hp : Placed settings request dir up name)
    (h : Room settings m.files m.directory dir up name (placeOf m.directory dir)) :
    ∀ q ∈ targetPlaces settings request m.directory, Filed m.files q :=
  fun q hq => ((h.receives hp).writable q hq).filed

theorem Provided.admitted {w₁ : World σ} (hc : settings.collision = .overwrite)
    (hp : Placed settings verified.artifact.request dir up name)
    (h : Provided runner settings verified dir up name w w₁) :
    Admitted settings verified.artifact.request w.machine := by
  refine (admitted_iff_receives hc hp h.directory h.spared ?_ ?_).mpr (h.room.receives hp)
  · exact h.directory ▸ h.room.filed hp
  · exact h.directory ▸ h.room.package.reaches

theorem Provided.packages {replaced : Bool} {w₁ w₂ : World σ} (hc : settings.collision = .overwrite)
    (hp : Placed settings verified.artifact.request dir up name)
    (h : Provided runner settings verified dir up name w w₁) (hw₂ : w₂.machine = w₁.machine)
    (hpack : w₂.Runs runner Refusals.never (packInto settings verified replaced).run (.ok made) w')
    (hv : Variants settings verified w.machine v.machine)
    (hadm : Admitted settings verified.artifact.request v.machine) :
    ∃ content other v₁ v', Provided runner settings verified dir up name v v₁ ∧
      v.Runs runner Refusals.never (package settings verified).run (.ok other) v' ∧
      Packed settings verified.artifact.request w.machine.directory content replaced
        w₁.machine.files w'.machine.files made ∧
      Packed settings verified.artifact.request w.machine.directory content
        (v₁.machine.files.exists? v₁.machine.directory
          (packagePath settings verified.artifact.request)) v₁.machine.files v'.machine.files
        other ∧
      Variants settings verified w₁.machine v₁.machine := by
  obtain ⟨hdir, htargets⟩ := List.forall_mem_cons.mp h.links
  obtain ⟨v₁, hdirs', hv₁⟩ := hv.directories hdir h.makes (h.directory ▸ h.room.filed hp)
  have hspared := runs_makeDirectories_spares (hv.directory ▸ hv.unlinked hdir) hdirs'
  have hdirectory : v₁.machine.directory = v.machine.directory := by
    rw [(runs_makeDirectories_made hdirs').2]
  have hsame : w₁.machine.directory = v.machine.directory := h.directory.trans hv.directory.symm
  have hreceives : Receives settings verified.artifact.request v₁.machine := by
    refine (admitted_iff_receives hc hp hdirectory hspared ?_ ?_).mp hadm
    · exact hsame ▸ hv₁.after
    · exact hsame ▸ h.room.package.reaches.keeps hv₁.keeps
  have hprovided : Provided runner settings verified dir up name v v₁ :=
    ⟨hdirs', hdirectory, hspared, fun path hpath => hv.directory ▸ hv.unlinked (h.links path hpath),
      hv₁.room hp h.room hreceives⟩
  have hlinks : ∀ path ∈ verified.artifact.path :: packageTargets settings
      verified.artifact.request, w₂.machine.files.Unlinked w₂.machine.directory path := by
    intro path hpath
    rw [hw₂, h.directory]
    exact (htargets path hpath).spared h.spared
  let Q : Except PackagingError Package → Machine → Prop := fun r m => ∃ content other,
    r = .ok other ∧ Packed settings verified.artifact.request w₁.machine.directory content replaced
        w₁.machine.files w'.machine.files made ∧
      Packed settings verified.artifact.request w₁.machine.directory content
        (v₁.machine.files.exists? v₁.machine.directory
          (packagePath settings verified.artifact.request)) v₁.machine.files m.files other
  -- What was told on the way is not known, so packing is followed from every world with the machine.
  obtain ⟨_, v', hrun, content, other, rfl, hpacked, hpacked'⟩ : ∃ r v', v.Runs runner
      Refusals.never (package settings verified).run r v' ∧ Q r v'.machine := by
    refine package_ends hdirs' fun x hx => ?_
    obtain ⟨content, other, x', hpacked, hrun, hpacked'⟩ := Variants.packs hc hlinks
      (v := x) (by rw [hw₂, hx]; exact hv₁) (by rw [hx]; exact hreceives) hpack
    rw [hw₂] at hpacked hpacked'
    rw [hx] at hpacked'
    exact ⟨.ok other, x', hrun, content, other, rfl, hpacked, hpacked'⟩
  rw [h.directory] at hpacked hpacked'
  exact ⟨content, other, v₁, v', hprovided, hrun, hpacked, hpacked', hv₁⟩

/-- The two packagings have written the same, and report the same but for what was there before. -/
structure SamePackage (settings : Settings) (request : BuildRequest) (here : Location)
    (fs fs' : FileSystem) (made other : Package) : Prop where
  reported : other = { made with replaced := other.replaced }
  others : SameOutside (targetPlaces settings request here) fs fs'
  targets : ∀ q ∈ targetPlaces settings request here, ∃ data data',
    fs.node? q = some (.file data) ∧ fs'.node? q = some (.file data') ∧
      data'.content = data.content

theorem Packed.same {replaced replaced' : Bool} {gs gs' : FileSystem}
    (h : Packed settings request here content replaced fs fs' made)
    (h' : Packed settings request here content replaced' gs gs' other)
    (ho : SameOutside (targetPlaces settings request here) fs gs) :
    SamePackage settings request here fs' gs' made other := by
  refine ⟨by rw [h.reported, h'.reported], fun q hq => ?_, fun q hq => ?_⟩
  · rw [h.others q hq, h'.others q hq, ho q hq]
  · obtain ⟨data, hnode, hcontent, -⟩ := h.targets q hq
    obtain ⟨data', hnode', hcontent', -⟩ := h'.targets q hq
    exact ⟨data, data', hnode, hnode', hcontent'.trans hcontent.symm⟩

/-- The machine is as the first packaging left it, and the artifact as the first packaging found
it. -/
structure Repeats (settings : Settings) (verified : VerifiedArtifact) (m m' n : Machine) : Prop where
  directory : n.directory = m.directory
  files : ∀ q, n.files.node? q = m'.files.node? q
  binary : n.files.node? (placeOf m.directory verified.artifact.path)
    = m.files.node? (placeOf m.directory verified.artifact.path)
  clock : n.now = m.now ∨
    placeOf m.directory verified.artifact.path
      ∉ targetPlaces settings verified.artifact.request m.directory ∧
    ∃ data, m.files.node? (placeOf m.directory verified.artifact.path) = some (.file data)

theorem Provided.again {w₁ : World σ} (h : Provided runner settings verified dir up name w w₁) :
    Provided runner settings verified dir up name w₁ w₁ := by
  have hmade := (runs_makeDirectories_made h.makes).1
  refine ⟨?_, rfl, Spared.refl _ _, fun path hpath => ?_, h.room⟩
  · have hagain := makeAll_again hmade
    rw [← h.directory] at hagain
    exact makeDirectories_runs hagain
  · rw [h.directory]
    exact (h.links path hpath).spared h.spared

theorem Repeats.variants {replaced : Bool} {w₁ : World σ}
    (hp : Placed settings verified.artifact.request dir up name)
    (hprovided : Provided runner settings verified dir up name w w₁)
    (hpacked : Packed settings verified.artifact.request w.machine.directory content replaced
      w₁.machine.files w'.machine.files made)
    (h : Repeats settings verified w.machine w'.machine n) :
    Variants settings verified w₁.machine n := by
  have hnow : w₁.machine.now = w.machine.now := by rw [(runs_makeDirectories_made hprovided.makes).2]
  have hspared := hprovided.spared (placeOf w.machine.directory verified.artifact.path)
  have hbefore := hprovided.room.filed hp
  rw [hprovided.directory] at hbefore
  constructor <;> simp only [hprovided.directory, hnow]
  case directory => exact h.directory
  case others => exact fun q hq => (h.files q).trans (hpacked.others q hq)
  case before => exact hbefore
  case after =>
    intro q hq
    obtain ⟨data, hnode, -⟩ := hpacked.targets q hq
    exact Or.inr ⟨data, (h.files q).trans hnode⟩
  case binary =>
    rcases hspared with hsame | ⟨-, hnone, hnew⟩
    · rw [hsame, h.binary]
    · -- A directory that was made would still be there.
      have hgone := (h.files _).symm.trans (h.binary.trans hnone)
      by_cases hmem : placeOf w.machine.directory verified.artifact.path
          ∈ targetPlaces settings verified.artifact.request w.machine.directory
      · obtain ⟨data, hnode, -⟩ := hpacked.targets _ hmem
        simp [hnode] at hgone
      · rw [hpacked.others _ hmem, hnew] at hgone
        simp at hgone
  case clock =>
    refine h.clock.imp id ?_
    rintro ⟨hout, data, hdata⟩
    exact ⟨hout, data, hspared.kept hdata⟩

theorem Repeats.admitted {replaced : Bool} {w₁ : World σ}
    (hp : Placed settings verified.artifact.request dir up name)
    (hprovided : Provided runner settings verified dir up name w w₁)
    (hpacked : Packed settings verified.artifact.request w.machine.directory content replaced
      w₁.machine.files w'.machine.files made)
    (h : Repeats settings verified w.machine w'.machine n) :
    Admitted settings verified.artifact.request n := by
  have hreceives := hprovided.room.receives hp
  have hwritten : ∀ q ∈ targetPlaces settings verified.artifact.request w.machine.directory,
      ∃ data, n.files.node? q = some (.file data) ∧ data.mode = fileMode w₁.machine.files q := by
    intro q hq
    obtain ⟨data, hnode, -, hmode⟩ := hpacked.targets q hq
    exact ⟨data, (h.files q).trans hnode, hmode⟩
  obtain ⟨hwritable, hreadable⟩ := hreceives
  rw [hprovided.directory] at hwritable hreadable
  constructor <;> rw [h.directory]
  case targets =>
    intro q hq
    obtain ⟨data, hnode, hmode⟩ := hwritten q hq
    refine ⟨fun old hold => ?_, by simp [hnode]⟩
    obtain rfl := file_unique hnode hold
    rw [hmode]
    exact (hwritable q hq).mode
  case package =>
    intro hsum old hold
    have hmem := hp.mem_targetPlaces.mpr (Or.inl (hp.packagePlace w.machine.directory))
    obtain ⟨data, hnode, hmode⟩ := hwritten _ hmem
    obtain rfl := file_unique hnode hold
    rw [hmode]
    exact hreadable hsum

theorem Provided.still {w₁ v₁ : World σ}
    (hv : Variants settings verified w₁.machine v.machine)
    (hv₁ : Variants settings verified w₁.machine v₁.machine)
    (h : Provided runner settings verified dir up name v v₁) (q : Location) :
    v₁.machine.files.node? q = v.machine.files.node? q := by
  by_cases hq : q ∈ targetPlaces settings verified.artifact.request w₁.machine.directory
  · exact (hv₁.after q hq).spared (h.spared q)
  · rw [hv₁.others q hq, hv.others q hq]

/-- The second packaging finds the package of the first one, and leaves the files as they are. -/
theorem Repeats.packages {replaced replaced' : Bool} {w₁ w₂ : World σ}
    (hc : settings.collision = .overwrite) (hp : Placed settings verified.artifact.request dir up name)
    (hprovided : Provided runner settings verified dir up name w w₁)
    (hw₂ : w₂.machine = w₁.machine)
    (hpack : w₂.Runs runner Refusals.never (packInto settings verified replaced).run (.ok made) w')
    (hpacked : Packed settings verified.artifact.request w.machine.directory content replaced'
      w₁.machine.files w'.machine.files made)
    (h : Repeats settings verified w.machine w'.machine v.machine) :
    ∃ v', v.Runs runner Refusals.never (package settings verified).run
        (.ok { made with replaced := true }) v' ∧
      ∀ q, Like (v.machine.files.node? q) (v'.machine.files.node? q) := by
  have hvariants := h.variants hp hprovided hpacked
  obtain ⟨content', other, v₁, v', hprovided', hrun, hmade, hother, hv₁⟩ :=
    hprovided.again.packages hc hp hw₂ hpack hvariants (h.admitted hp hprovided hpacked)
  have hstill := hprovided'.still hvariants hv₁
  have hsame := hmade.same hother hv₁.others
  rw [hprovided.directory] at hmade hother hsame
  -- The preparation finds the package that the first packaging has left.
  have hreplaced : other.replaced = true := by
    obtain ⟨data, hnode, -⟩ :=
      hpacked.targets _ (hp.mem_targetPlaces.mpr (Or.inl (hp.packagePlace w.machine.directory)))
    have hdir : v₁.machine.directory = w.machine.directory :=
      hv₁.directory.trans hprovided.directory
    have hthere : v₁.machine.files.node? (placeOf v₁.machine.directory dir ++ [name])
        = some (.file data) := by
      rw [hdir, ← hp.packagePlace, hstill, h.files, hnode]
    have hroom := hprovided'.room.package
    rw [hother.reported, hp.package]
    dsimp only
    rw [hroom.reaches.exists?_eq hp.named hroom.refused hroom.size (by simp [hthere]), hthere]
    rfl
  refine ⟨v', ?_, fun q => ?_⟩
  · rw [← hreplaced, ← hsame.reported]
    exact hrun
  · by_cases hq : q ∈ targetPlaces settings verified.artifact.request w.machine.directory
    · obtain ⟨data, data', hnode, hnode', hcontent⟩ := hsame.targets q hq
      obtain ⟨found, hfound, -, hmode⟩ := hother.targets q hq
      obtain rfl := file_unique hnode' hfound
      have hbefore := (h.files q).trans hnode
      rw [fileMode_eq ((hstill q).trans hbefore)] at hmode
      rw [hbefore, hnode']
      exact .file hcontent hmode
    · exact .of_eq ((hother.others q hq).trans (hstill q))

/-- What packaging writes does not depend on what it replaces, but for the permissions. Packaging the
same artifact again leaves the files as they are. -/
theorem package_forgets_replaced (hc : settings.collision = .overwrite)
    (hlinks : ∀ path ∈ settings.packagesDir :: verified.artifact.path ::
      packageTargets settings verified.artifact.request,
      w.machine.files.Unlinked w.machine.directory path)
    (hfiles : ∀ q ∈ targetPlaces settings verified.artifact.request w.machine.directory,
      Filed w.machine.files q)
    (h : w.Runs runner Refusals.never (package settings verified).run (.ok made) w') :
    (∀ v : World σ, Variants settings verified w.machine v.machine →
      ((∃ other v', v.Runs runner Refusals.never (package settings verified).run (.ok other) v') ↔
        Admitted settings verified.artifact.request v.machine) ∧
      ∀ other v', v.Runs runner Refusals.never (package settings verified).run (.ok other) v' →
        SamePackage settings verified.artifact.request w.machine.directory w'.machine.files
          v'.machine.files made other) ∧
    ∀ u : World σ, Repeats settings verified w.machine w'.machine u.machine →
      ∃ u', u.Runs runner Refusals.never (package settings verified).run
          (.ok { made with replaced := true }) u' ∧
        ∀ q, Like (u.machine.files.node? q) (u'.machine.files.node? q) := by
  obtain ⟨dir, up, name, hp⟩ := exists_placed settings verified.artifact.request
  obtain ⟨w₁, w₂, hprovided, hw₂, hpack, content, replaced, hpacked⟩ :=
    runs_package_provided hc hp hlinks hfiles h
  refine ⟨fun v hv => ?_, fun u hu => ?_⟩
  · have hadmitted : ∀ {other v'},
        v.Runs runner Refusals.never (package settings verified).run (.ok other) v' →
        Admitted settings verified.artifact.request v.machine := by
      intro other v' hrun
      obtain ⟨v₁, v₂, hprovided', -⟩ := runs_package_provided hc hp
        (fun path hpath => hv.directory ▸ hv.unlinked (hlinks path hpath))
        (hv.directory ▸ hv.after) hrun
      exact hprovided'.admitted hc hp
    refine ⟨⟨fun ⟨other, v', hrun⟩ => hadmitted hrun, fun hadm => ?_⟩, fun other v' hrun => ?_⟩
    · obtain ⟨content, other, v₁, v', -, hrun, -⟩ := hprovided.packages hc hp hw₂ hpack hv hadm
      exact ⟨other, v', hrun⟩
    · obtain ⟨content', other', v₁, v'', -, hrun', hmade, hother, hv₁⟩ :=
        hprovided.packages hc hp hw₂ hpack hv (hadmitted hrun)
      obtain ⟨hresult, rfl⟩ := hrun'.unique hrun
      obtain rfl := Except.ok.inj hresult
      exact hmade.same hother (hprovided.directory ▸ hv₁.others)
  · exact hu.packages hc hp hprovided hw₂ hpack hpacked

/-- The packaged project, some time later, with an older package and an empty checksum file. -/
def staleWorld : World Unit where
  machine := { takenWorld.machine with
    now := 60
    files := (takenWorld.machine.files.put (packagePlace ["work"] ⟨.linux, .arm64⟩)
      (.file ⟨8, Utf8.encode "an older package", 0o600, 5⟩)).put
        (sidecarPlace ["work"] ⟨.linux, .arm64⟩) (.file ⟨9, [], 0o640, 6⟩) }
  runner := ()

theorem targetPlaces_unpackaged :
    targetPlaces (rootSettings ["work"] .overwrite true) unpackagedBinary.artifact.request ["work"]
      = [packagePlace ["work"] ⟨.linux, .arm64⟩, sidecarPlace ["work"] ⟨.linux, .arm64⟩] := by
  decide +kernel

theorem takenWorld_unpackaged : ∀ q ∈ targetPlaces (rootSettings ["work"] .overwrite true)
    unpackagedBinary.artifact.request ["work"], Filed takenWorld.machine.files q := by
  have hnone : ∀ q ∈ [packagePlace ["work"] ⟨.linux, .arm64⟩, sidecarPlace ["work"] ⟨.linux, .arm64⟩],
      takenWorld.machine.files.node? q = none := by decide +kernel
  rw [targetPlaces_unpackaged]
  exact fun q hq => Or.inl (hnone q hq)

theorem staleWorld_variants :
    Variants (rootSettings ["work"] .overwrite true) unpackagedBinary takenWorld.machine
      staleWorld.machine where
  directory := rfl
  others := by
    intro q hq
    change q ∉ targetPlaces _ _ ["work"] at hq
    rw [targetPlaces_unpackaged, List.mem_cons, List.mem_singleton, not_or] at hq
    exact (node?_put_of_ne hq.2).trans (node?_put_of_ne hq.1)
  before := takenWorld_unpackaged
  after := by
    intro q hq
    change q ∈ targetPlaces _ _ ["work"] at hq
    rw [targetPlaces_unpackaged, List.mem_cons, List.mem_singleton] at hq
    rcases hq with rfl | rfl
    · exact Or.inr ⟨⟨8, Utf8.encode "an older package", 0o600, 5⟩, by decide +kernel⟩
    · exact Or.inr ⟨⟨9, [], 0o640, 6⟩, by decide +kernel⟩
  binary := by decide +kernel
  clock := Or.inr ⟨by decide +kernel, _, rfl⟩

theorem staleWorld_admits :
    Admitted (rootSettings ["work"] .overwrite true) unpackagedBinary.artifact.request
      staleWorld.machine := by
  constructor
  case targets =>
    intro q hq
    change q ∈ targetPlaces _ _ ["work"] at hq
    rw [targetPlaces_unpackaged, List.mem_cons, List.mem_singleton] at hq
    rcases hq with rfl | rfl
    · have hnode : staleWorld.machine.files.node? (packagePlace ["work"] ⟨.linux, .arm64⟩)
          = some (.file ⟨8, Utf8.encode "an older package", 0o600, 5⟩) := by decide +kernel
      exact ⟨by rw [hnode]; rintro _ ⟨⟩; decide, by simp [hnode]⟩
    · have hnode : staleWorld.machine.files.node? (sidecarPlace ["work"] ⟨.linux, .arm64⟩)
          = some (.file ⟨9, [], 0o640, 6⟩) := by decide +kernel
      exact ⟨by rw [hnode]; rintro _ ⟨⟩; decide, by simp [hnode]⟩
  case package =>
    intro _ data hdata
    have hnode : staleWorld.machine.files.node? (placeOf ["work"] (packagePath
        (rootSettings ["work"] .overwrite true) unpackagedBinary.artifact.request))
        = some (.file ⟨8, Utf8.encode "an older package", 0o600, 5⟩) := by decide +kernel
    obtain rfl := file_unique hnode hdata
    decide

/-- The older files do not matter, and nor do those of a first packaging to a second one. -/
theorem stale_package_forgotten :
    ∃ made other w' v' u',
      takenWorld.Runs idleRunner Refusals.never
        (package (rootSettings ["work"] .overwrite true) unpackagedBinary).run (.ok made) w' ∧
      staleWorld.Runs idleRunner Refusals.never
        (package (rootSettings ["work"] .overwrite true) unpackagedBinary).run (.ok other) v' ∧
      SamePackage (rootSettings ["work"] .overwrite true) unpackagedBinary.artifact.request ["work"]
        w'.machine.files v'.machine.files made other ∧
      w'.Runs idleRunner Refusals.never
        (package (rootSettings ["work"] .overwrite true) unpackagedBinary).run
        (.ok { made with replaced := true }) u' ∧
      ∀ q, Like (w'.machine.files.node? q) (u'.machine.files.node? q) := by
  obtain ⟨made, w', hrun⟩ := unpackagedBinary_packs .overwrite true
  have hlinks : ∀ path ∈ (rootSettings ["work"] .overwrite true).packagesDir ::
      unpackagedBinary.artifact.path :: packageTargets (rootSettings ["work"] .overwrite true)
        unpackagedBinary.artifact.request,
      takenWorld.machine.files.Unlinked takenWorld.machine.directory path :=
    fun _ _ q _ => takenWorld_tree.links q
  obtain ⟨hvariants, hrepeats⟩ :=
    package_forgets_replaced rfl hlinks takenWorld_unpackaged hrun
  obtain ⟨hiff, hsame⟩ := hvariants staleWorld staleWorld_variants
  obtain ⟨other, v', hrun'⟩ := hiff.mpr staleWorld_admits
  have hbinary : w'.machine.files.node? (binaryPlace ["work"] .linux)
      = takenWorld.machine.files.node? (binaryPlace ["work"] .linux) := by
    obtain ⟨dir, up, name, hp⟩ := exists_placed (rootSettings ["work"] .overwrite true)
      unpackagedBinary.artifact.request
    obtain ⟨w₁, w₂, hprovided, -, -, content, replaced, hpacked⟩ :=
      runs_package_provided rfl hp hlinks takenWorld_unpackaged hrun
    have hnode : (takenWorld.machine.files.node? (binaryPlace ["work"] .linux)).isSome := by decide
    rw [hpacked.others _ (by decide +kernel)]
    refine (hprovided.spared _).resolve_right fun hnew => ?_
    rw [hnew.2.1] at hnode
    simp at hnode
  have hstays := (hrun.stays (package_only _ _)).2
  obtain ⟨u', hagain, hlike⟩ := hrepeats w'
    ⟨hstays.directory, fun _ => rfl, hbinary, Or.inl hstays.now⟩
  exact ⟨made, other, w', v', u', hrun, hrun', hsame other v' hrun', hagain, hlike⟩

/-- The packaged project, with a package that may not be written to. -/
def sealedWorld : World Unit where
  machine := { takenWorld.machine with
    files := takenWorld.machine.files.put (packagePlace ["work"] ⟨.linux, .arm64⟩)
      (.file ⟨8, Utf8.encode "an older package", 0o444, 5⟩) }
  runner := ()

def clearedWorld : World Unit where
  machine := { takenWorld.machine with
    files := takenWorld.machine.files.erase (packagePlace ["work"] ⟨.linux, .amd64⟩) }
  runner := ()

/-- The package of the packaged project, taken for a binary. -/
def nestedBinary : VerifiedArtifact :=
  ⟨⟨pathOf (packagePlace ["work"] ⟨.linux, .amd64⟩), ⟨.amd64, "1.2.3", .linux⟩⟩, []⟩

theorem takenWorld_directories : ∃ w₁, takenWorld.Runs idleRunner Refusals.never
    (makeDirectories (rootSettings ["work"] .overwrite false).packagesDir).run (.ok ()) w₁ ∧
      w₁.machine.directory = ["work"] ∧ w₁.machine.files = takenWorld.machine.files :=
  ⟨_, runs_of_run_eq (by decide +kernel), by decide +kernel,
    eq_of_entries (by decide +kernel) (by decide +kernel)⟩

/-- A package can be made of the file that it replaces, which is empty by then. -/
theorem nestedBinary_packs : ∃ made w', takenWorld.Runs idleRunner Refusals.never
    (package (rootSettings ["work"] .overwrite false) nestedBinary).run (.ok made) w' := by
  obtain ⟨w₁, hdirs, hdir, hfiles⟩ := takenWorld_directories
  have hn := isName_package ⟨.linux, .amd64⟩
  obtain ⟨up, -, hsidecar⟩ := checksumPath_join hn (rootSettings ["work"] .overwrite false).packagesDir
  obtain ⟨fields, htar⟩ := tar_place_executable .linux
  let old : FileData := ⟨3, Utf8.encode "there", newFileMode, 0⟩
  have hold : takenWorld.machine.files.node? (packagePlace ["work"] ⟨.linux, .amd64⟩)
      = some (.file old) := by decide +kernel
  have hread : takenWorld.machine.files.openRead ["work"] nestedBinary.artifact.path
      = .ok ⟨packagePlace ["work"] ⟨.linux, .amd64⟩, 3⟩ := by decide +kernel
  have hready := takenWorld_ready .amd64
  have hpack : ∀ replaced (v : World Unit), v.machine = w₁.machine → ∃ made v',
      v.Runs idleRunner Refusals.never (packInto (rootSettings ["work"] .overwrite false)
        nestedBinary replaced).run made v' ∧ ∃ package, made = .ok package := by
    intro replaced v hv
    rw [← hv] at hdir hfiles
    have hroom : Openable (rootSettings ["work"] .overwrite false) v.machine.files
        v.machine.directory (rootSettings ["work"] .overwrite false).packagesDir
        (Platform.packageName ⟨.linux, .amd64⟩ productName) (packagesPlace ["work"]) := by
      rw [hfiles]
      exact ⟨hn, by decide, hready.reaches_packages (by decide), hready.named_package .overwrite false,
        Or.inr ⟨rfl, old, hold, by decide⟩⟩
    obtain ⟨made, data, v', hpack, -⟩ : ∃ made data v', v.Runs idleRunner Refusals.never
        (packInto (rootSettings ["work"] .overwrite false) nestedBinary replaced).run (.ok made) v' ∧ _ :=
      packInto_ends rfl hsidecar (by rw [hdir, hfiles]; exact hread)
        ⟨hroom, by simp [rootSettings], by simp [rootSettings]⟩ (fun file v₁ hcreate _ => by
          obtain ⟨-, -, -, hemptied⟩ := runs_createFile_opens hroom hcreate
          exact collectRecords_ends (openNode?_eq.mpr ⟨hemptied old (hfiles ▸ hold), rfl⟩) htar)
    exact ⟨.ok made, v', hpack, made, rfl⟩
  obtain ⟨_, w', hrun, made, rfl⟩ :=
    package_ends (Q := fun made _ => ∃ package, made = .ok package) hdirs (hpack _)
  exact ⟨made, w', hrun⟩

/-- Packaging takes a new file, but cannot write to one that is sealed. And a package that is made of
the file in its own place depends on that file. -/
theorem replaced_file_matters :
    (takenWorld.machine.files.LinkFree ∧ sealedWorld.machine.files.LinkFree ∧
      SameOff (packagePlace ["work"] ⟨.linux, .arm64⟩) takenWorld.machine.files
        sealedWorld.machine.files ∧
      Filed takenWorld.machine.files (packagePlace ["work"] ⟨.linux, .arm64⟩) ∧
      Filed sealedWorld.machine.files (packagePlace ["work"] ⟨.linux, .arm64⟩) ∧
      (∃ made w', takenWorld.Runs idleRunner Refusals.never
        (package (rootSettings ["work"] .overwrite true) unpackagedBinary).run (.ok made) w') ∧
      ∃ w', sealedWorld.Runs idleRunner Refusals.never
        (package (rootSettings ["work"] .overwrite true) unpackagedBinary).run
        (.error (.write ⟨"/work/packages/fxml_linux_arm64.tar.gz"⟩ .noAccess)) w') ∧
    takenWorld.machine.files.LinkFree ∧ clearedWorld.machine.files.LinkFree ∧
      SameOff (packagePlace ["work"] ⟨.linux, .amd64⟩) takenWorld.machine.files
        clearedWorld.machine.files ∧
      Filed takenWorld.machine.files (packagePlace ["work"] ⟨.linux, .amd64⟩) ∧
      Filed clearedWorld.machine.files (packagePlace ["work"] ⟨.linux, .amd64⟩) ∧
      (∃ made w', takenWorld.Runs idleRunner Refusals.never
        (package (rootSettings ["work"] .overwrite false) nestedBinary).run (.ok made) w') ∧
      ∃ w', clearedWorld.Runs idleRunner Refusals.never
        (package (rootSettings ["work"] .overwrite false) nestedBinary).run
        (.error (.readBinary nestedBinary.artifact.path .noEntry)) w' := by
  refine ⟨⟨takenWorld_tree.links, linkFree_of_entries (by decide), fun _ hq => node?_put_of_ne hq,
      Or.inl (by decide +kernel), Or.inr ⟨_, node?_put_self (by decide +kernel)⟩,
      unpackagedBinary_packs .overwrite true, runs_of_run (by decide +kernel)⟩,
    takenWorld_tree.links, linkFree_of_entries (by decide), fun _ hq => node?_erase_of_ne hq,
    Or.inr ⟨⟨3, Utf8.encode "there", newFileMode, 0⟩, by decide +kernel⟩,
    Or.inl (node?_erase_self (by decide +kernel)), nestedBinary_packs,
    runs_of_run (by decide +kernel)⟩

end Slipway
