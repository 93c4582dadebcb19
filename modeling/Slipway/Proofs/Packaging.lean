import Slipway.Proofs.Targets

/-!
# What packaging leaves behind

A packaging that fails before its package is open leaves the files alone, but for new directories.
One that fails later drops the package, and the checksum file if it was opened too. One that
succeeds leaves the archive of the binary, and a checksum file that describes it.
-/

namespace Slipway

open FileSystem World

variable {σ : Type} {runner : Runner σ} {may : Refusals} {w w' : World σ} {settings : Settings}
  {fs fs' : FileSystem} {here place : Location} {dir : Path} {name : String} {file binary : Handle}

/-! ## The archive -/

/-- The archive of a file: its one entry, and the end of the archive. -/
def archiveOf (entry : String) (data : FileData) : Except SystemError Bytes :=
  (Tar.place entry).map (fun (before, field) =>
    before ++ (entryHeader field (statusOf 0 (.file data))).toBytes ++ Tar.padded data.content
      ++ Tar.terminator)

theorem collectRecords_only (binary : Handle) (entry : String) :
    (collectRecords binary entry).Only (Action.Reads binary) := by
  refine Program.only_bind (only_file rfl) (fun reply => ?_)
  match reply with
  | .error e => exact Program.only_pure _
  | .ok status =>
    dsimp only
    split
    · exact Program.only_pure _
    · refine Program.only_bind (readPieces_only _ _ _ _ _) (fun found => ?_)
      obtain ⟨pieces, _ | ⟨⟩⟩ := found <;> exact Program.only_pure _

theorem foldl_cons_reverse (pieces : List Bytes) :
    (pieces.foldl (fun found piece => piece :: found) []).reverse = pieces := by
  simp

theorem runs_collectRecords {entry : String} {records : Bytes} {data : FileData}
    (hopen : w.machine.files.openNode? binary = some (.file data))
    (h : w.Runs runner may (collectRecords binary entry) (records, .ok ()) w') :
    archiveOf entry data = .ok (records ++ Tar.terminator) := by
  rw [collectRecords, runs_bind] at h
  obtain ⟨reply, w₁, hstatus, h⟩ := h
  rw [runs_file] at hstatus
  obtain ⟨m, hm, rfl⟩ := hstatus
  match reply with
  | .error e =>
    obtain ⟨hr, -⟩ := h
    simp at hr
  | .ok status =>
    obtain ⟨rfl, rfl⟩ := performs_describeOpen hopen hm
    unfold archiveOf
    cases hplace : Tar.place entry with
    | error e =>
      simp only [hplace] at h
      obtain ⟨hr, -⟩ := h
      simp at hr
    | ok fields =>
      obtain ⟨before, field⟩ := fields
      simp only [hplace] at h
      rw [runs_bind] at h
      obtain ⟨⟨pieces, result⟩, w₂, hpieces, h⟩ := h
      cases result with
      | error e =>
        obtain ⟨hr, -⟩ := h
        simp at hr
      | ok u =>
        obtain ⟨found, hflat, rfl⟩ := runs_readPieces (holds_of_openNode? hopen)
          (Nat.lt_succ_self _) hpieces
        obtain ⟨hr, -⟩ := h
        rw [foldl_cons_reverse, hflat, List.drop_zero] at hr
        rw [(Prod.mk.inj hr).1]
        rfl

theorem runs_collectRecords_directory {entry : String} {records : Bytes} {mode : Nat}
    {r : Except SystemError Unit} (hopen : w.machine.files.openNode? binary = some (.directory mode))
    (h : w.Runs runner may (collectRecords binary entry) (records, r) w') : ∃ e, r = .error e := by
  rw [collectRecords, runs_bind] at h
  obtain ⟨reply, w₁, hstatus, h⟩ := h
  rw [runs_file] at hstatus
  obtain ⟨m, hm, rfl⟩ := hstatus
  obtain rfl := Machine.performs_asks hm trivial
  match reply with
  | .error e =>
    obtain ⟨hr, -⟩ := h
    exact ⟨e, (Prod.mk.inj hr).2⟩
  | .ok status =>
    cases hplace : Tar.place entry with
    | error e =>
      simp only [hplace] at h
      obtain ⟨hr, -⟩ := h
      exact ⟨e, (Prod.mk.inj hr).2⟩
    | ok fields =>
      simp only [hplace] at h
      rw [runs_bind] at h
      obtain ⟨⟨pieces, result⟩, w₂, hpieces, h⟩ := h
      obtain ⟨e, rfl⟩ := runs_readPieces_directory hopen hpieces
      obtain ⟨hr, -⟩ := h
      exact ⟨e, (Prod.mk.inj hr).2⟩

theorem writeArchive_only (file binary : Handle) (entry : String) :
    (writeArchive file binary entry).run.Only Action.Stays := by
  refine Stage.only_bind (Stage.only_lift ((collectRecords_only _ _).mono fun _ h => h.asks.stays))
    (fun found => ?_)
  obtain ⟨records, _ | ⟨⟩⟩ := found
  · exact Stage.only_bind (Stage.only_lift (writePieces_only _ _ _)) (fun _ => Stage.only_throw _)
  · exact Stage.only_bind (Stage.only_lift (writePieces_only _ _ _))
      (fun _ => Stage.only_ofExcept _)

/-- The content is the compressed archive of what is opened, if that is a file. It is no directory. -/
def ArchivedFrom (entry : String) (opened : Option Node) (content : Bytes) : Prop :=
  (∀ mode, opened ≠ some (.directory mode)) ∧ ∀ data, opened = some (.file data) →
    ∃ archive, archiveOf entry data = .ok archive ∧ content = Gzip.compress archive

/-- The content is the compressed archive of the records that come from the open binary. -/
def World.Archives (runner : Runner σ) (may : Refusals) (w : World σ) (binary : Handle)
    (entry : String) (content : Bytes) : Prop :=
  ∃ records w₁, w.Runs runner may (collectRecords binary entry) (records, .ok ()) w₁ ∧
    content = Gzip.compress (records ++ Tar.terminator)

theorem World.Archives.archivedFrom {entry : String} {content : Bytes}
    (h : w.Archives runner may binary entry content) :
    ArchivedFrom entry (w.machine.files.openNode? binary) content := by
  obtain ⟨records, w₁, hcollect, rfl⟩ := h
  refine ⟨fun mode hopen => ?_, fun data hopen => ?_⟩
  · obtain ⟨e, he⟩ := runs_collectRecords_directory hopen hcollect
    simp at he
  · exact ⟨_, runs_collectRecords hopen hcollect, rfl⟩

theorem runs_writeArchive {entry : String} {r : Except SystemError Unit}
    (hh : w.machine.files.Holds file [])
    (h : w.Runs runner may (writeArchive file binary entry).run r w') :
    SameOff file.place w.machine.files w'.machine.files ∧
      ∃ content, w'.machine.files.Holds file content ∧
        (r = .ok () → w.Archives runner may binary entry content) := by
  rw [writeArchive, runs_lift_bind] at h
  obtain ⟨⟨records, collected⟩, w₁, hcollect, h⟩ := h
  obtain ⟨hmachine, -⟩ := hcollect.untouched ((collectRecords_only _ _).mono fun _ h => h.asks)
  rw [← hmachine] at hh ⊢
  dsimp only at h
  rw [runs_lift_bind] at h
  obtain ⟨written, w₂, hwrite, h⟩ := h
  obtain ⟨hsame, content, hcontent, hok⟩ := runs_writeAll hh hwrite
  cases collected with
  | error e =>
    obtain ⟨rfl, rfl⟩ := h
    exact ⟨hsame, content, hcontent, by simp⟩
  | ok u =>
    obtain ⟨rfl, rfl⟩ := h
    exact ⟨hsame, content, hcontent, fun hr => ⟨records, w₁, hcollect, hok hr⟩⟩

/-! ## The checksum file -/

/-- After a failure: a file was left alone, or opened and then removed again. -/
def Withdrawn (settings : Settings) (may : Refusals) (place at' : Location)
    (fs fs' : FileSystem) : Prop :=
  fs'.node? at' = fs.node? at' ∨
    (settings.collision = .fail → fs.node? at' = none) ∧
      (Reliable may fs place → fs'.node? at' = none)

/-- A file was written as the settings allow. -/
def Recorded (settings : Settings) (at' : Location) (fs fs' : FileSystem) (content : Bytes) : Prop :=
  (settings.collision = .fail → fs.node? at' = none) ∧
    ∃ data, fs'.node? at' = some (.file data) ∧ data.content = content

theorem writeChecksum_only (settings : Settings) (package : Path) (name : String) :
    (writeChecksum settings package name).run.Only Action.Stays := by
  refine Stage.only_bind (Stage.only_orElse ((hashFile_only _).mono fun _ => Action.Asks.stays))
    (fun hash => ?_)
  refine Stage.only_bind (Stage.only_orElse (only_file trivial)) (fun file => ?_)
  refine Stage.only_bind (Stage.only_lift (writePieces_only _ _ _)) (fun written => ?_)
  rcases written with e | ⟨⟩
  · exact Stage.only_bind (Stage.only_lift (only_file trivial)) (fun _ => Stage.only_throw _)
  · exact Stage.only_bind (Stage.only_note trivial) (fun _ => Stage.only_pure _)

/-- How a checksum file is written. -/
inductive WritesChecksum (runner : Runner σ) (may : Refusals) (settings : Settings) (package : Path)
    (name : String) (w : World σ) : Except PackagingError (ContentHash × Path) → World σ → Prop
  | unhashed {e : SystemError} {w' : World σ} (same : w.Untouched w') :
    WritesChecksum runner may settings package name w (.error (.write package e)) w'
  | uncreated {hash : ContentHash} {e : PackagingError} {w₁ w' : World σ}
    (hashes : w.Runs runner may (hashFile package).run (.ok hash) w₁)
    (creates : w₁.Runs runner may (createFile settings (checksumPath package)).run (.error e) w') :
    WritesChecksum runner may settings package name w (.error e) w'
  | unwritten {hash : ContentHash} {sidecar : Handle} {e : SystemError}
    {reply : Except SystemError Unit} {w₁ w₂ w₃ w' : World σ}
    (hashes : w.Runs runner may (hashFile package).run (.ok hash) w₁)
    (creates : w₁.Runs runner may (createFile settings (checksumPath package)).run (.ok sidecar) w₂)
    (writes : w₂.Runs runner may
      (writeAll sidecar (Utf8.encode (hash.checksumLine name))).run (.error e) w₃)
    (removes : w₃.machine.Performs may (.remove (checksumPath package)) reply w'.machine) :
    WritesChecksum runner may settings package name w (.error (.write (checksumPath package) e)) w'
  | written {hash : ContentHash} {sidecar : Handle} {w₁ w₂ w₃ w' : World σ}
    (hashes : w.Runs runner may (hashFile package).run (.ok hash) w₁)
    (creates : w₁.Runs runner may (createFile settings (checksumPath package)).run (.ok sidecar) w₂)
    (writes : w₂.Runs runner may
      (writeAll sidecar (Utf8.encode (hash.checksumLine name))).run (.ok ()) w₃)
    (same : w'.machine = w₃.machine) :
    WritesChecksum runner may settings package name w (.ok (hash, checksumPath package)) w'

theorem runs_writeChecksum_cases {package : Path} {r : Except PackagingError (ContentHash × Path)}
    (h : w.Runs runner may (writeChecksum settings package name).run r w') :
    WritesChecksum runner may settings package name w r w' := by
  rw [writeChecksum, runs_stage_bind] at h
  rcases h with ⟨hash, w₁, hashes, h⟩ | ⟨e, unhashed, rfl⟩
  · rw [runs_orElse_ok] at hashes
    dsimp only at h
    rw [runs_stage_bind] at h
    rcases h with ⟨sidecar, w₂, creates, h⟩ | ⟨e, creates, rfl⟩
    · rw [runs_lift_bind] at h
      obtain ⟨written, w₃, writes, h⟩ := h
      cases written with
      | error e =>
        rw [runs_lift_bind] at h
        obtain ⟨reply, w₄, removes, rfl, rfl⟩ := h
        rw [runs_file] at removes
        obtain ⟨m, removes, rfl⟩ := removes
        exact .unwritten hashes creates writes removes
      | ok u =>
        rw [runs_note_bind] at h
        obtain ⟨rfl, rfl⟩ := h
        exact .written hashes creates writes rfl
    · exact .uncreated hashes creates
  · obtain ⟨e', rfl, hfailed⟩ := runs_orElse_error.mp unhashed
    exact .unhashed (hfailed.untouched (hashFile_only _))

theorem runs_hashFile_of_holds {content : Bytes} {hash : ContentHash} (hn : IsName name)
    (hreach : w.machine.files.Reaches w.machine.directory dir place)
    (hr : refuse? (dir.join name) = none) (hsize : name.utf8ByteSize ≤ maxNameBytes)
    (hh : w.machine.files.Holds file content) (hp : file.place = place ++ [name])
    (h : w.Runs runner may (hashFile (dir.join name)).run (.ok hash) w') :
    hash = ContentHash.ofBytes content := by
  obtain ⟨data, hfind, hserial, -⟩ := findNode_of_holds hn hreach hr hsize hh hp
  obtain ⟨found, node, hfind', hof⟩ := runs_hashFile h
  rw [hfind] at hfind'
  obtain ⟨rfl, rfl⟩ := Prod.mk.inj (Except.ok.inj hfind')
  apply hof
  obtain ⟨at', serial⟩ := file
  simp only at hp hserial
  subst hp hserial
  exact hh

theorem Created.written {bytes : Bytes} {r : Except SystemError Unit}
    (hc : Created settings fs w.machine.directory dir name place w.machine.files file)
    (h : w.Runs runner may (writeAll file bytes).run r w') :
    Touches (place ++ [name]) fs w'.machine.files ∧
      w'.machine.files.Reaches w'.machine.directory dir place ∧
      ∃ after, w'.machine.files.Holds file after ∧ (r = .ok () → after = bytes) := by
  obtain ⟨hsame, hafter⟩ := runs_writeAll hc.opens.holds h
  rw [hc.opens.place_eq] at hsame
  have hall := hc.touches.trans (hsame.touches hc.opens.holds hc.opens.place_eq)
  have hreach := hc.reaches.keeps hall.keeps
  rw [← (h.stays (writePieces_only _ _ _)).2.directory] at hreach
  exact ⟨hall, hreach, hafter⟩

theorem runs_createFile_sidecar {r : Except PackagingError Handle} {up : Path} (hn : IsName name)
    (hup : up.SameWay dir) (hreach : w.machine.files.Reaches w.machine.directory dir place)
    (hs : Replaceable settings w.machine.files (place ++ [checksumName name]))
    (h : w.Runs runner may (createFile settings (up.join (checksumName name))).run r w') :
    (∃ e, r = .error e) ∧ w'.machine = w.machine ∨
      ∃ sidecar, r = .ok sidecar ∧ Created settings w.machine.files w'.machine.directory up
        (checksumName name) place w'.machine.files sidecar := by
  have hplace : ∀ other, w.machine.files.Reaches w.machine.directory up other → other = place :=
    fun other hother => ((reaches_sameWay hup).mp hother).unique hreach
  rcases runs_createFile (isName_checksumName hn)
      (fun other hother => by rwa [hplace other hother]) h with
    hfailed | ⟨other, sidecar, rfl, hstays, hcreated⟩
  · exact Or.inl hfailed
  · obtain rfl := hplace other hcreated.reaches
    rw [← hstays.directory] at hcreated
    exact Or.inr ⟨sidecar, rfl, hcreated⟩

theorem runs_writeChecksum {content : Bytes} {line : String}
    {r : Except PackagingError (ContentHash × Path)} (hn : IsName name)
    (hreach : w.machine.files.Reaches w.machine.directory dir place)
    (hr : refuse? (dir.join name) = none) (hsize : name.utf8ByteSize ≤ maxNameBytes)
    (hh : w.machine.files.Holds file content) (hp : file.place = place ++ [name])
    (hs : Replaceable settings w.machine.files (place ++ [checksumName name]))
    (h : w.Runs runner may (writeChecksum settings (dir.join name) line).run r w') :
    Touches (place ++ [checksumName name]) w.machine.files w'.machine.files ∧
      ((∃ e, r = .error e) ∧ Withdrawn settings may place (place ++ [checksumName name])
          w.machine.files w'.machine.files ∨
        r = .ok (ContentHash.ofBytes content, checksumPath (dir.join name)) ∧
          Recorded settings (place ++ [checksumName name]) w.machine.files w'.machine.files
            (Utf8.encode ((ContentHash.ofBytes content).checksumLine line)) ∧
          ∃ node, w'.machine.files.findNode w'.machine.directory (checksumPath (dir.join name))
            = .ok (place ++ [checksumName name], node)) := by
  obtain ⟨up, hup, hpath⟩ := checksumPath_join hn dir
  have hcreates := fun {x : Except PackagingError Handle} {hash : ContentHash} {w₁ w₂ : World σ}
      (hashes : w.Runs runner may (hashFile (dir.join name)).run (.ok hash) w₁)
      (creates : w₁.Runs runner may (createFile settings (checksumPath (dir.join name))).run x w₂) => by
    have hmachine := (hashes.untouched (hashFile_only _)).1
    rw [hpath] at creates
    have hcreated := runs_createFile_sidecar hn hup (by rwa [hmachine]) (by rwa [hmachine]) creates
    rwa [hmachine] at hcreated
  cases runs_writeChecksum_cases h with
  | unhashed same =>
    rw [same.1]
    exact ⟨Touches.refl _ _, Or.inl ⟨⟨_, rfl⟩, Or.inl rfl⟩⟩
  | uncreated hashes creates =>
    rcases hcreates hashes creates with ⟨-, hm⟩ | ⟨sidecar, hok, -⟩
    · rw [hm]
      exact ⟨Touches.refl _ _, Or.inl ⟨⟨_, rfl⟩, Or.inl rfl⟩⟩
    · simp at hok
  | unwritten hashes creates writes removes =>
    rcases hcreates hashes creates with ⟨⟨e, he⟩, -⟩ | ⟨sidecar, hok, hcreated⟩
    · simp at he
    obtain rfl := Except.ok.inj hok
    obtain ⟨hall, hreach', after, hafter, -⟩ := hcreated.written writes
    rw [hpath] at removes
    obtain ⟨hoff, hgone⟩ := performs_remove_holds (isName_checksumName hn) hreach'
      hcreated.refused hcreated.size hafter hcreated.opens.place_eq removes
    exact ⟨hall.trans hoff, Or.inl ⟨⟨_, rfl⟩, Or.inr ⟨hcreated.fresh, fun hrel =>
      hgone (hrel.keeps hall.keeps)⟩⟩⟩
  | written hashes creates writes same =>
    rcases hcreates hashes creates with ⟨⟨e, he⟩, -⟩ | ⟨sidecar, hok, hcreated⟩
    · simp at he
    obtain rfl := Except.ok.inj hok
    obtain ⟨hall, hreach', after, hafter, hbytes⟩ := hcreated.written writes
    obtain rfl := hbytes rfl
    obtain ⟨data, hfind, -, hdata⟩ := findNode_of_holds (isName_checksumName hn) hreach'
      hcreated.refused hcreated.size hafter hcreated.opens.place_eq
    rw [← runs_hashFile_of_holds hn hreach hr hsize hh hp hashes, same, hpath]
    exact ⟨hall, Or.inr ⟨rfl, ⟨hcreated.fresh, data, node?_of_findNode hfind, hdata⟩, _, hfind⟩⟩

/-! ## The package -/

/-- The package and its checksum file are the only places at which the file systems differ. -/
def SameBut (place : Location) (name : String) (fs fs' : FileSystem) : Prop :=
  ∀ q, q ≠ place ++ [name] → q ≠ place ++ [checksumName name] → fs'.node? q = fs.node? q

theorem sameBut_of_package (h : SameOff (place ++ [name]) fs fs') : SameBut place name fs fs' :=
  fun q hq _ => h q hq

theorem sameBut_of_sidecar (h : SameOff (place ++ [checksumName name]) fs fs') :
    SameBut place name fs fs' :=
  fun q _ hq => h q hq

theorem SameBut.trans {fs'' : FileSystem} (h : SameBut place name fs fs')
    (h' : SameBut place name fs' fs'') : SameBut place name fs fs'' :=
  fun q hq hq' => (h' q hq hq').trans (h q hq hq')

theorem sidecar_ne_package : place ++ [checksumName name] ≠ place ++ [name] := by
  intro h
  exact checksumName_ne name (by simpa using h)

/-- The checksum file of a finished package, with what is reported of it. -/
structure Finished (settings : Settings) (place : Location) (name : String) (sidecar : Path)
    (fs fs' : FileSystem) (content : Bytes) (written : Option (ContentHash × Path)) : Prop where
  plain : settings.checksum = false →
    written = none ∧ fs'.node? (place ++ [checksumName name]) = fs.node? (place ++ [checksumName name])
  described : settings.checksum = true →
    written = some (ContentHash.ofBytes content, sidecar) ∧
      Recorded settings (place ++ [checksumName name]) fs fs'
        (Utf8.encode ((ContentHash.ofBytes content).checksumLine name))

/-- The checksum file after a failure. -/
def Dropped (settings : Settings) (may : Refusals) (place : Location) (name : String)
    (fs fs' : FileSystem) : Prop :=
  fs'.node? (place ++ [checksumName name]) = fs.node? (place ++ [checksumName name]) ∨
    settings.checksum = true ∧
      Withdrawn settings may place (place ++ [checksumName name]) fs fs'

/-- Filling an open package failed, or the package is finished. -/
def Filled (settings : Settings) (may : Refusals) (place : Location) (name : String)
    (sidecar : Path) (fs fs' : FileSystem) (content : Bytes)
    (r : Except PackagingError (Nat × Option (ContentHash × Path))) : Prop :=
  (∃ e, r = .error e) ∧ Dropped settings may place name fs fs' ∨
    ∃ written, r = .ok (content.length, written) ∧
      Finished settings place name sidecar fs fs' content written

theorem Filled.since {fs₀ : FileSystem} {sidecar : Path} {content : Bytes}
    {r : Except PackagingError (Nat × Option (ContentHash × Path))}
    (h : Filled settings may place name sidecar fs fs' content r) (hk : Keeps fs₀ fs)
    (hsame : fs.node? (place ++ [checksumName name]) = fs₀.node? (place ++ [checksumName name])) :
    Filled settings may place name sidecar fs₀ fs' content r := by
  rcases h with ⟨he, hd⟩ | ⟨written, hok, hf⟩
  · refine Or.inl ⟨he, ?_⟩
    unfold Dropped Withdrawn at hd ⊢
    rw [hsame] at hd
    rcases hd with hd | ⟨hc, hd | ⟨hfresh, hgone⟩⟩
    · exact Or.inl hd
    · exact Or.inl hd
    · exact Or.inr ⟨hc, Or.inr ⟨hfresh, fun hrel => hgone (hrel.keeps hk)⟩⟩
  · refine Or.inr ⟨written, hok, fun hc => ?_, fun hc => ?_⟩
    · rw [← hsame]
      exact hf.plain hc
    · obtain ⟨hw, hfresh, hdata⟩ := hf.described hc
      exact ⟨hw, fun hfail => hsame ▸ hfresh hfail, hdata⟩

theorem fillPackage_only (settings : Settings) (file binary : Handle) (artifact package : Path)
    (name entry : String) :
    (fillPackage settings file binary artifact package name entry).run.Only Action.Stays := by
  refine Stage.only_bind (Stage.only_orElse (writeArchive_only _ _ _)) (fun _ => ?_)
  refine Stage.only_bind (Stage.only_orElse (only_file trivial)) (fun status => ?_)
  split
  · exact Stage.only_bind (writeChecksum_only _ _ _) (fun _ => Stage.only_pure _)
  · exact Stage.only_pure _

/-- How an open package is filled. -/
inductive FillsPackage (runner : Runner σ) (may : Refusals) (settings : Settings)
    (file binary : Handle) (artifact package : Path) (name entry : String) (w : World σ) :
    Except PackagingError (Nat × Option (ContentHash × Path)) → World σ → Prop
  | unarchived {e : SystemError} {w' : World σ}
    (archives : w.Runs runner may (writeArchive file binary entry).run (.error e) w') :
    FillsPackage runner may settings file binary artifact package name entry w
      (.error (.archive artifact package e)) w'
  | undescribed {e : SystemError} {w' : World σ}
    (archives : w.Runs runner may (writeArchive file binary entry).run (.ok ()) w') :
    FillsPackage runner may settings file binary artifact package name entry w
      (.error (.write package e)) w'
  | plain {status : FileStatus} {w' : World σ}
    (archives : w.Runs runner may (writeArchive file binary entry).run (.ok ()) w')
    (describes : w'.machine.Performs may (.describe package) (.ok status) w'.machine)
    (unasked : settings.checksum = false) :
    FillsPackage runner may settings file binary artifact package name entry w
      (.ok (status.size, none)) w'
  | checksum {status : FileStatus} {x : Except PackagingError (ContentHash × Path)}
    {r : Except PackagingError (Nat × Option (ContentHash × Path))} {w₁ w' : World σ}
    (archives : w.Runs runner may (writeArchive file binary entry).run (.ok ()) w₁)
    (describes : w₁.machine.Performs may (.describe package) (.ok status) w₁.machine)
    (asked : settings.checksum = true)
    (writes : w₁.Runs runner may (writeChecksum settings package name).run x w')
    (result : r = x.map fun written => (status.size, some written)) :
    FillsPackage runner may settings file binary artifact package name entry w r w'

theorem runs_fillPackage_cases {artifact package : Path} {entry : String}
    {r : Except PackagingError (Nat × Option (ContentHash × Path))}
    (h : w.Runs runner may
      (fillPackage settings file binary artifact package name entry).run r w') :
    FillsPackage runner may settings file binary artifact package name entry w r w' := by
  rw [fillPackage, runs_stage_bind] at h
  rcases h with ⟨u, w₁, archives, h⟩ | ⟨e, archives, rfl⟩
  · rw [runs_orElse_ok] at archives
    rw [runs_stage_bind] at h
    rcases h with ⟨status, w₂, describes, h⟩ | ⟨e, describes, rfl⟩
    · rw [runs_orElse_ok, runs_attempt, runs_file] at describes
      obtain ⟨m, describes, rfl⟩ := describes
      obtain rfl := Machine.performs_asks describes trivial
      split at h
      · rename_i asked
        rw [runs_stage_bind] at h
        rcases h with ⟨written, w₃, writes, rfl, rfl⟩ | ⟨e, writes, rfl⟩
        · exact .checksum archives describes asked writes rfl
        · exact .checksum archives describes asked writes rfl
      · rename_i unasked
        obtain ⟨rfl, rfl⟩ := h
        exact .plain archives describes (by simpa using unasked)
    · obtain ⟨e', rfl, hfailed⟩ := runs_orElse_error.mp describes
      rw [runs_attempt, runs_file] at hfailed
      obtain ⟨m, hm, rfl⟩ := hfailed
      obtain rfl := Machine.performs_asks hm trivial
      exact .undescribed archives
  · obtain ⟨e', rfl, hfailed⟩ := runs_orElse_error.mp archives
    exact .unarchived hfailed

theorem performs_describe {m m' : Machine} {content : Bytes} {status : FileStatus}
    (hn : IsName name) (hreach : m.files.Reaches m.directory dir place)
    (hr : refuse? (dir.join name) = none) (hsize : name.utf8ByteSize ≤ maxNameBytes)
    (hh : m.files.Holds file content) (hp : file.place = place ++ [name])
    (h : m.Performs may (.describe (dir.join name)) (.ok status) m') :
    status.size = content.length := by
  obtain ⟨data, hfind, -, rfl⟩ := findNode_of_holds hn hreach hr hsize hh hp
  obtain ⟨hok, -⟩ := Machine.performs_ok h (by simp [FileAction.failure])
  simp only [Machine.reply, describe, hfind] at hok
  obtain rfl := Except.ok.inj hok
  rfl

theorem runs_writeArchive_into {entry : String}
    (hreach : w.machine.files.Reaches w.machine.directory dir place)
    (hh : w.machine.files.Holds file []) (hp : file.place = place ++ [name])
    (h : w.Runs runner may (writeArchive file binary entry).run (.ok ()) w') :
    SameOff (place ++ [name]) w.machine.files w'.machine.files ∧
      Keeps w.machine.files w'.machine.files ∧ w'.machine.directory = w.machine.directory ∧
      w'.machine.files.Reaches w'.machine.directory dir place ∧
      ∃ content, w'.machine.files.Holds file content ∧
        w.Archives runner may binary entry content := by
  obtain ⟨hsame, content, hcontent, harchived⟩ := runs_writeArchive hh h
  rw [hp] at hsame
  have hkeeps := (hsame.touches hh hp).keeps
  have hdir := (h.stays (writeArchive_only _ _ _)).2.directory
  exact ⟨hsame, hkeeps, hdir, hdir ▸ hreach.keeps hkeeps, content, hcontent, harchived rfl⟩

theorem runs_fillPackage {artifact : Path} {entry : String}
    {r : Except PackagingError (Nat × Option (ContentHash × Path))} (hn : IsName name)
    (hreach : w.machine.files.Reaches w.machine.directory dir place)
    (hr : refuse? (dir.join name) = none) (hsize : name.utf8ByteSize ≤ maxNameBytes)
    (hh : w.machine.files.Holds file []) (hp : file.place = place ++ [name])
    (hs : Replaceable settings w.machine.files (place ++ [checksumName name]))
    (h : w.Runs runner may
      (fillPackage settings file binary artifact (dir.join name) name entry).run r w') :
    SameBut place name w.machine.files w'.machine.files ∧
      Keeps w.machine.files w'.machine.files ∧ ∃ content, w'.machine.files.Holds file content ∧
        Filled settings may place name (checksumPath (dir.join name)) w.machine.files
          w'.machine.files content r ∧
        ∀ p, r = .ok p → ArchivedFrom entry (w.machine.files.openNode? binary) content := by
  cases runs_fillPackage_cases h with
  | unarchived archives | undescribed archives =>
    obtain ⟨hsame, content, hcontent, -⟩ := runs_writeArchive hh archives
    rw [hp] at hsame
    exact ⟨sameBut_of_package hsame, (hsame.touches hh hp).keeps, content, hcontent,
      Or.inl ⟨⟨_, rfl⟩, Or.inl (hsame _ sidecar_ne_package)⟩, by simp⟩
  | plain archives describes unasked =>
    obtain ⟨hsame, hkeeps, -, hreach', content, hcontent, harchived⟩ :=
      runs_writeArchive_into hreach hh hp archives
    have hlength := performs_describe hn hreach' hr hsize hcontent hp describes
    exact ⟨sameBut_of_package hsame, hkeeps, content, hcontent,
      Or.inr ⟨none, by rw [hlength], fun _ => ⟨rfl, hsame _ sidecar_ne_package⟩,
        fun hc => by simp [unasked] at hc⟩, fun p _ => harchived.archivedFrom⟩
  | @checksum status x r w₁ w' archives describes asked writes result =>
    obtain ⟨hsame, hkeeps, -, hreach', content, hcontent, harchived⟩ :=
      runs_writeArchive_into hreach hh hp archives
    have hside := hsame _ sidecar_ne_package
    have hlength := performs_describe hn hreach' hr hsize hcontent hp describes
    obtain ⟨hoff, hends⟩ :=
      runs_writeChecksum hn hreach' hr hsize hcontent hp (hs.of_same hside) writes
    have hfilled : Filled settings may place name (checksumPath (dir.join name))
        w₁.machine.files w'.machine.files content r := by
      rcases hends with ⟨⟨e, rfl⟩, hwithdrawn⟩ | ⟨rfl, hrecorded, -⟩
      · exact Or.inl ⟨⟨e, result⟩, Or.inr ⟨asked, hwithdrawn⟩⟩
      · exact Or.inr ⟨some _, by rw [result, hlength]; rfl, by simp [asked], fun _ => ⟨rfl, hrecorded⟩⟩
    have hcontent' : w'.machine.files.Holds file content :=
      hcontent.of_same (by rw [hp]; exact hoff.sameOff _ sidecar_ne_package.symm)
    exact ⟨(sameBut_of_package hsame).trans (sameBut_of_sidecar hoff.sameOff),
      hkeeps.trans hoff.keeps, content, hcontent', hfilled.since hkeeps hside,
      fun p _ => harchived.archivedFrom⟩

/-- How packaging ended. The files are `fs` once the directories are there, and `fs'` at the end. -/
inductive Packaged (settings : Settings) (verified : VerifiedArtifact) (may : Refusals)
    (here : Location) (fs fs' : FileSystem) : Except PackagingError Package → Prop
  /-- The package was not opened. -/
  | untouched {e : PackagingError} (same : fs' = fs) : Packaged settings verified may here fs fs' (.error e)
  /-- The package was opened and removed again. -/
  | dropped {e : PackagingError} {place : Location} {name : String}
    (named : name = verified.artifact.request.platform.packageName settings.product)
    (reaches : fs.Reaches here settings.packagesDir place)
    (fresh : settings.collision = .fail → fs.node? (place ++ [name]) = none)
    (changeable : settings.collision = .fail → fs.Changeable place)
    (same : SameBut place name fs fs')
    (gone : Reliable may fs place → fs'.node? (place ++ [name]) = none)
    (sidecar : Dropped settings may place name fs fs') :
    Packaged settings verified may here fs fs' (.error e)
  /-- The package is there. -/
  | made {package : Package} {place origin : Location} {name : String} {content : Bytes}
    {node : Node} {written : Option (ContentHash × Path)}
    (named : name = verified.artifact.request.platform.packageName settings.product)
    (reaches : fs.Reaches here settings.packagesDir place)
    (refused : refuse? (settings.packagesDir.join name) = none)
    (fresh : settings.collision = .fail → fs.node? (place ++ [name]) = none)
    (same : SameBut place name fs fs')
    (stands : ∃ data, fs'.node? (place ++ [name]) = some (.file data) ∧ data.content = content)
    (found : fs.findNode here verified.artifact.path = .ok (origin, node))
    (archived : origin ≠ place ++ [name] → ArchivedFrom
      (verified.artifact.request.os.executable settings.product) (some node) content)
    (finished : Finished settings place name (checksumPath (settings.packagesDir.join name)) fs fs'
      content written)
    (reported : package.name = name ∧ package.path = settings.packagesDir.join name ∧
      package.size = content.length ∧ package.sha256 = written.map (·.1) ∧
      package.checksumPath = written.map (·.2)) :
    Packaged settings verified may here fs fs' (.ok package)

/-- Packaging from where its directory is there. -/
def packInto (settings : Settings) (verified : VerifiedArtifact) (replaced : Bool) :
    Stage PackagingError Package := do
  let artifact := verified.artifact
  let request := artifact.request
  let name := request.platform.packageName settings.product
  let path := packagePath settings request
  let binary ← (Stage.attempt (Program.file (.openRead artifact.path))).orElse
    (PackagingError.readBinary artifact.path)
  let file ← createFile settings path
  let filled ← ExceptT.lift (fillPackage settings file binary artifact.path path name
    (request.os.executable settings.product)).run
  match filled with
  | .error e =>
    let _ ← ExceptT.lift (Program.file (.remove path))
    Stage.note (.removedIncompletePackage path)
    throw e
  | .ok (size, written) =>
    Stage.note (.packageCreated path)
    pure {
      name, path, size, replaced
      sha256 := written.map (·.1)
      checksumPath := written.map (·.2) }

theorem package_eq (settings : Settings) (verified : VerifiedArtifact) :
    package settings verified = (do
      Stage.note (.packaging verified.artifact.request.platform)
      (makeDirectories settings.packagesDir).orElse (PackagingError.createDir settings.packagesDir)
      let path := packagePath settings verified.artifact.request
      let replaced ← ExceptT.lift (Program.file (.pathExists path))
      if replaced then Stage.note (.overwritingPackage path) >>= fun _ => packInto settings verified replaced
      else packInto settings verified replaced) :=
  rfl

/-- What packaging does until its package is open: whether something stood there, and the open
binary and package. -/
def openPackage (settings : Settings) (verified : VerifiedArtifact) :
    Stage PackagingError (Bool × Handle × Handle) := do
  let artifact := verified.artifact
  let path := packagePath settings artifact.request
  Stage.note (.packaging artifact.request.platform)
  (makeDirectories settings.packagesDir).orElse (PackagingError.createDir settings.packagesDir)
  let replaced ← ExceptT.lift (Program.file (.pathExists path))
  if replaced then Stage.note (.overwritingPackage path)
  let binary ← (Stage.attempt (Program.file (.openRead artifact.path))).orElse
    (PackagingError.readBinary artifact.path)
  let file ← createFile settings path
  pure (replaced, binary, file)

/-- The binary and the package, open. -/
def openFiles (settings : Settings) (verified : VerifiedArtifact) (replaced : Bool) :
    Stage PackagingError (Bool × Handle × Handle) := do
  let binary ← (Stage.attempt (Program.file (.openRead verified.artifact.path))).orElse
    (PackagingError.readBinary verified.artifact.path)
  let file ← createFile settings (packagePath settings verified.artifact.request)
  pure (replaced, binary, file)

/-- What packaging does with an open package. -/
def finishPackage (settings : Settings) (verified : VerifiedArtifact)
    (opened : Bool × Handle × Handle) : Stage PackagingError Package := do
  let request := verified.artifact.request
  let name := request.platform.packageName settings.product
  let path := packagePath settings request
  let filled ← ExceptT.lift (fillPackage settings opened.2.2 opened.2.1 verified.artifact.path path
    name (request.os.executable settings.product)).run
  match filled with
  | .error e =>
    let _ ← ExceptT.lift (Program.file (.remove path))
    Stage.note (.removedIncompletePackage path)
    throw e
  | .ok (size, written) =>
    Stage.note (.packageCreated path)
    pure {
      name, path, size, replaced := opened.1
      sha256 := written.map (·.1)
      checksumPath := written.map (·.2) }

theorem Program.bind_assoc {α β γ : Type} (p : Program α) (f : α → Program β)
    (g : β → Program γ) : (p.bind f).bind g = p.bind (fun a => (f a).bind g) := by
  induction p with
  | done a => rfl
  | ask action next ih => exact congrArg (Program.ask action) (funext ih)

theorem Program.bind_done {α : Type} (p : Program α) : p.bind Program.done = p := by
  induction p with
  | done a => rfl
  | ask action next ih => exact congrArg (Program.ask action) (funext ih)

instance : LawfulMonad Program :=
  LawfulMonad.mk' _ Program.bind_done (fun _ _ => rfl) Program.bind_assoc

theorem package_opened (settings : Settings) (verified : VerifiedArtifact) :
    package settings verified
      = openPackage settings verified >>= finishPackage settings verified := by
  simp only [package_eq, openPackage, bind_assoc]
  refine congrArg _ (funext fun _ => congrArg _ (funext fun _ => congrArg _
    (funext fun replaced => ?_)))
  cases replaced
  · simp only [Bool.false_eq_true, if_false, bind_assoc, pure_bind]
    rfl
  · simp only [if_true, bind_assoc, pure_bind]
    rfl

theorem packInto_opened (settings : Settings) (verified : VerifiedArtifact) (replaced : Bool) :
    packInto settings verified replaced
      = openFiles settings verified replaced >>= finishPackage settings verified := by
  simp only [packInto, openFiles, bind_assoc, pure_bind]
  rfl

theorem packInto_only (settings : Settings) (verified : VerifiedArtifact) (replaced : Bool) :
    (packInto settings verified replaced).run.Only Action.Stays := by
  refine Stage.only_bind (Stage.only_orElse (only_file trivial)) (fun binary => ?_)
  refine Stage.only_bind (Stage.only_orElse (only_file trivial)) (fun file => ?_)
  refine Stage.only_bind (Stage.only_lift (fillPackage_only _ _ _ _ _ _ _)) (fun filled => ?_)
  rcases filled with e | ⟨size, written⟩
  · exact Stage.only_bind (Stage.only_lift (only_file trivial))
      (fun _ => Stage.only_bind (Stage.only_note trivial) (fun _ => Stage.only_throw _))
  · exact Stage.only_bind (Stage.only_note trivial) (fun _ => Stage.only_pure _)

theorem package_only (settings : Settings) (verified : VerifiedArtifact) :
    (package settings verified).run.Only Action.Stays := by
  rw [package_eq]
  refine Stage.only_bind (Stage.only_note trivial) (fun _ => ?_)
  refine Stage.only_bind (Stage.only_orElse ((makeLineage_only _).mono fun _ => Action.Builds.stays))
    (fun _ => ?_)
  refine Stage.only_bind (Stage.only_lift (only_file trivial)) (fun replaced => ?_)
  split
  · exact Stage.only_bind (Stage.only_note trivial) (fun _ => packInto_only _ _ _)
  · exact packInto_only _ _ _

/-- How the binary and the package are opened. -/
inductive OpensFiles (runner : Runner σ) (may : Refusals) (settings : Settings)
    (verified : VerifiedArtifact) (replaced : Bool) (w : World σ) :
    Except PackagingError (Bool × Handle × Handle) → World σ → Prop
  | unread {e : SystemError} :
    OpensFiles runner may settings verified replaced w
      (.error (.readBinary verified.artifact.path e)) w
  | read {binary : Handle} {x : Except PackagingError Handle}
    {r : Except PackagingError (Bool × Handle × Handle)} {w' : World σ}
    (reads : w.machine.Performs may (.openRead verified.artifact.path) (.ok binary) w.machine)
    (creates : w.Runs runner may
      (createFile settings (packagePath settings verified.artifact.request)).run x w')
    (result : r = x.map fun file => (replaced, binary, file)) :
    OpensFiles runner may settings verified replaced w r w'

theorem runs_openFiles_cases {verified : VerifiedArtifact} {replaced : Bool}
    {r : Except PackagingError (Bool × Handle × Handle)}
    (h : w.Runs runner may (openFiles settings verified replaced).run r w') :
    OpensFiles runner may settings verified replaced w r w' := by
  rw [openFiles, runs_stage_bind] at h
  rcases h with ⟨binary, w₁, hread, h⟩ | ⟨e, hread, rfl⟩
  · rw [runs_orElse_ok, runs_attempt, runs_file] at hread
    obtain ⟨m, hm, rfl⟩ := hread
    obtain rfl := Machine.performs_asks hm trivial
    rw [runs_stage_bind] at h
    rcases h with ⟨file, w₂, hcreate, rfl, rfl⟩ | ⟨e, hcreate, rfl⟩
    · exact .read hm hcreate rfl
    · exact .read hm hcreate rfl
  · obtain ⟨e', rfl, hfailed⟩ := runs_orElse_error.mp hread
    rw [runs_attempt, runs_file] at hfailed
    obtain ⟨m, hm, rfl⟩ := hfailed
    obtain rfl := Machine.performs_asks hm trivial
    exact .unread

/-- The binary is open and the package was created, or nothing has changed. -/
theorem runs_openFiles_created {verified : VerifiedArtifact} {replaced : Bool}
    {r : Except PackagingError (Bool × Handle × Handle)} (hn : IsName name)
    (hpath : packagePath settings verified.artifact.request = dir.join name)
    (hs : ∀ place, w.machine.files.Reaches w.machine.directory dir place →
      Replaceable settings w.machine.files (place ++ [name]))
    (h : w.Runs runner may (openFiles settings verified replaced).run r w') :
    (∃ e, r = .error e) ∧ w'.machine = w.machine ∨
      ∃ place origin node file, r = .ok (replaced, ⟨origin, serialOf node⟩, file) ∧
        w.machine.files.findNode w.machine.directory verified.artifact.path = .ok (origin, node) ∧
        w'.machine.directory = w.machine.directory ∧
        Created settings w.machine.files w.machine.directory dir name place w'.machine.files
          file := by
  cases runs_openFiles_cases h with
  | unread => exact Or.inl ⟨⟨_, rfl⟩, rfl⟩
  | read reads creates result =>
    obtain ⟨-, origin, node, hfind, rfl⟩ := performs_openRead reads
    rw [hpath] at creates
    rcases runs_createFile hn hs creates with ⟨⟨e, rfl⟩, hm⟩ | ⟨place, file, rfl, hstays, hcreated⟩
    · exact Or.inl ⟨⟨e, result⟩, hm⟩
    · exact Or.inr ⟨place, origin, node, file, result, hfind, hstays.directory, hcreated⟩

/-- How an open package is finished: it is filled, and removed again when that fails. -/
inductive FinishesPackage (runner : Runner σ) (may : Refusals) (settings : Settings)
    (verified : VerifiedArtifact) (opened : Bool × Handle × Handle) (w : World σ) :
    Except PackagingError Package → World σ → Prop
  | dropped {e : PackagingError} {reply : Except SystemError Unit} {w₁ w' : World σ}
    (fills : w.Runs runner may (fillPackage settings opened.2.2 opened.2.1 verified.artifact.path
      (packagePath settings verified.artifact.request)
      (verified.artifact.request.platform.packageName settings.product)
      (verified.artifact.request.os.executable settings.product)).run (.error e) w₁)
    (removes : w₁.machine.Performs may (.remove (packagePath settings verified.artifact.request))
      reply w'.machine) :
    FinishesPackage runner may settings verified opened w (.error e) w'
  | made {size : Nat} {written : Option (ContentHash × Path)} {w₁ w' : World σ}
    (fills : w.Runs runner may (fillPackage settings opened.2.2 opened.2.1 verified.artifact.path
      (packagePath settings verified.artifact.request)
      (verified.artifact.request.platform.packageName settings.product)
      (verified.artifact.request.os.executable settings.product)).run (.ok (size, written)) w₁)
    (same : w'.machine = w₁.machine) :
    FinishesPackage runner may settings verified opened w
      (.ok {
        name := verified.artifact.request.platform.packageName settings.product
        path := packagePath settings verified.artifact.request
        size := size
        replaced := opened.1
        sha256 := written.map (·.1)
        checksumPath := written.map (·.2) }) w'

theorem runs_finishPackage_cases {verified : VerifiedArtifact} {opened : Bool × Handle × Handle}
    {r : Except PackagingError Package}
    (h : w.Runs runner may (finishPackage settings verified opened).run r w') :
    FinishesPackage runner may settings verified opened w r w' := by
  rw [finishPackage, runs_lift_bind] at h
  obtain ⟨filled, w₁, hfill, h⟩ := h
  cases filled with
  | error e =>
    rw [runs_lift_bind] at h
    obtain ⟨reply, w₂, hremove, h⟩ := h
    rw [runs_note_bind] at h
    obtain ⟨rfl, rfl⟩ := h
    rw [runs_file] at hremove
    obtain ⟨m, hm, rfl⟩ := hremove
    exact .dropped hfill hm
  | ok filled =>
    obtain ⟨size, written⟩ := filled
    dsimp only at h
    rw [runs_note_bind] at h
    obtain ⟨rfl, rfl⟩ := h
    exact .made hfill rfl

theorem runs_finishPackage {verified : VerifiedArtifact} {replaced : Bool} {origin : Location}
    {node : Node} {r : Except PackagingError Package} (hn : IsName name)
    (hname : name = verified.artifact.request.platform.packageName settings.product)
    (hcreated : Created settings fs w.machine.directory settings.packagesDir name place
      w.machine.files file)
    (hs : Replaceable settings fs (place ++ [checksumName name]))
    (hfind : fs.findNode w.machine.directory verified.artifact.path = .ok (origin, node))
    (h : w.Runs runner may
      (finishPackage settings verified (replaced, ⟨origin, serialOf node⟩, file)).run r w') :
    Packaged settings verified may w.machine.directory fs w'.machine.files r := by
  subst hname
  have hp := hcreated.opens.place_eq
  have hside := hcreated.opens.sameOff _ sidecar_ne_package
  have hreach := hcreated.reaches.keeps hcreated.touches.keeps
  have hs := hs.of_same hside
  cases runs_finishPackage_cases h with
  | dropped fills removes =>
    obtain ⟨hbut, hkeeps, content, hcontent, hfilled, -⟩ :=
      runs_fillPackage hn hreach hcreated.refused hcreated.size hcreated.opens.holds hp hs fills
    have hreach' := hreach.keeps hkeeps
    rw [← (fills.stays (fillPackage_only _ _ _ _ _ _ _)).2.directory] at hreach'
    obtain ⟨htouch, hgone⟩ := performs_remove_holds hn hreach' hcreated.refused hcreated.size
      hcontent hp removes
    rcases hfilled.since hcreated.touches.keeps hside with ⟨-, hdropped⟩ | ⟨written, hok, -⟩
    · refine .dropped rfl hcreated.reaches hcreated.fresh hcreated.changeable
        (((sameBut_of_package hcreated.opens.sameOff).trans hbut).trans
          (sameBut_of_package htouch.sameOff))
        (fun hrel => hgone ((hrel.keeps hcreated.touches.keeps).keeps hkeeps)) ?_
      unfold Dropped Withdrawn at hdropped ⊢
      rw [htouch.sameOff _ sidecar_ne_package]
      exact hdropped
    · simp at hok
  | made fills same =>
    obtain ⟨hbut, -, content, hcontent, hfilled, harchived⟩ :=
      runs_fillPackage hn hreach hcreated.refused hcreated.size hcreated.opens.holds hp hs fills
    rw [same]
    rcases hfilled.since hcreated.touches.keeps hside with ⟨⟨e, he⟩, -⟩ | ⟨written, hok, hfinished⟩
    · simp at he
    obtain ⟨rfl, rfl⟩ := Prod.mk.inj (Except.ok.inj hok)
    obtain ⟨data, hnode, -, hdata⟩ := hcontent
    rw [hp] at hnode
    refine .made rfl hcreated.reaches hcreated.refused hcreated.fresh
      ((sameBut_of_package hcreated.opens.sameOff).trans hbut) ⟨data, hnode, hdata⟩
      hfind ?_ hfinished ⟨rfl, rfl, rfl, rfl, rfl⟩
    intro horigin
    have hopen : w.machine.files.openNode? ⟨origin, serialOf node⟩ = some node := by
      unfold openNode?
      rw [hcreated.opens.sameOff _ horigin, node?_of_findNode hfind]
      simp
    rw [← hopen]
    exact harchived _ rfl

theorem runs_packInto {verified : VerifiedArtifact} {replaced : Bool}
    {r : Except PackagingError Package} (hproduct : '/' ∉ settings.product.toList)
    (hs : ∀ place, w.machine.files.Reaches w.machine.directory settings.packagesDir place →
      ∀ name, name = verified.artifact.request.platform.packageName settings.product →
        Replaceable settings w.machine.files (place ++ [name]) ∧
          Replaceable settings w.machine.files (place ++ [checksumName name]))
    (h : w.Runs runner may (packInto settings verified replaced).run r w') :
    Packaged settings verified may w.machine.directory w.machine.files w'.machine.files r := by
  have hn := isName_packageName hproduct verified.artifact.request.platform
  have hopens := fun {x : Except PackagingError (Bool × Handle × Handle)} {w₁ : World σ}
      (hopen : w.Runs runner may (openFiles settings verified replaced).run x w₁) =>
    runs_openFiles_created hn rfl (fun place hreach => (hs place hreach _ rfl).1) hopen
  rw [packInto_opened, runs_stage_bind] at h
  rcases h with ⟨opened, w₁, hopen, h⟩ | ⟨e, hopen, rfl⟩
  · rcases hopens hopen with ⟨⟨e, he⟩, -⟩ | ⟨place, origin, node, file, hok, hfind, hdir, hcreated⟩
    · simp at he
    · obtain rfl := Except.ok.inj hok
      rw [← hdir] at hcreated hfind ⊢
      exact runs_finishPackage hn rfl hcreated (hs place (hdir ▸ hcreated.reaches) _ rfl).2 hfind h
  · rcases hopens hopen with ⟨-, hm⟩ | ⟨place, origin, node, file, hok, -⟩
    · exact .untouched (by rw [hm])
    · simp at hok

/-- Packaging begins with its directory, and with a look at what its package would replace. -/
theorem runs_prepared {α : Type} {platform : Platform} {packages path : Path}
    {pack : Bool → Stage PackagingError α} {r : Except PackagingError α}
    (h : w.Runs runner may (do
      Stage.note (.packaging platform)
      (makeDirectories packages).orElse (PackagingError.createDir packages)
      let replaced ← ExceptT.lift (Program.file (.pathExists path))
      if replaced then Stage.note (.overwritingPackage path) >>= fun _ => pack replaced
      else pack replaced : Stage PackagingError α).run r w') :
    ∃ w₀ : World σ, w.Untouched w₀ ∧
      ((∃ e, r = .error (.createDir packages e) ∧
          w₀.Runs runner may (makeDirectories packages).run (.error e) w') ∨
        ∃ (w₁ w₂ : World σ) (replaced : Bool),
          w₀.Runs runner may (makeDirectories packages).run (.ok ()) w₁ ∧
          w₁.machine.Performs may (.pathExists path) replaced w₁.machine ∧
          w₂.machine = w₁.machine ∧ w₂.Runs runner may (pack replaced).run r w') := by
  rw [runs_note_bind, runs_stage_bind] at h
  refine ⟨{ w with messages := .event (.packaging platform) :: w.messages }, ⟨rfl, rfl, rfl⟩, ?_⟩
  rcases h with ⟨u, w₁, hmake, h⟩ | ⟨e, hmake, rfl⟩
  · rw [runs_orElse_ok] at hmake
    rw [runs_lift_bind] at h
    obtain ⟨replaced, w₂, hexists, h⟩ := h
    rw [runs_file] at hexists
    obtain ⟨m, hm, rfl⟩ := hexists
    obtain rfl := Machine.performs_asks hm trivial
    refine Or.inr ?_
    -- Telling that a package is replaced leaves the machine as it is.
    split at h
    · rw [runs_note_bind] at h
      refine ⟨w₁, _, replaced, hmake, hm, ?_, h⟩
      rfl
    · exact ⟨w₁, _, replaced, hmake, hm, rfl, h⟩
  · obtain ⟨e', rfl, hfailed⟩ := runs_orElse_error.mp hmake
    exact Or.inl ⟨e', rfl, hfailed⟩

/-- What packaging does to the files. -/
theorem runs_package {verified : VerifiedArtifact} {r : Except PackagingError Package}
    (hproduct : '/' ∉ settings.product.toList)
    (hs : ∀ fs, Grows w.machine.files fs → ∀ place,
      fs.Reaches w.machine.directory settings.packagesDir place →
      ∀ name, name = verified.artifact.request.platform.packageName settings.product →
        Replaceable settings fs (place ++ [name]) ∧
          Replaceable settings fs (place ++ [checksumName name]))
    (h : w.Runs runner may (package settings verified).run r w') :
    ∃ fs, Prepares w.machine.directory settings.packagesDir w.machine.files fs ∧
      Packaged settings verified may w.machine.directory fs w'.machine.files r := by
  rw [package_eq] at h
  obtain ⟨w₀, ⟨hw₀, -⟩, ⟨e, rfl, hdirs⟩ | ⟨w₁, w₂, replaced, hdirs, -, hw₂, h⟩⟩ := runs_prepared h
  · rw [← hw₀]
    exact ⟨w'.machine.files, runs_makeDirectories_prepares hdirs, .untouched rfl⟩
  · rw [← hw₀] at hs ⊢
    have hstays := (hdirs.stays ((makeLineage_only _).mono fun _ => Action.Builds.stays)).2
    have hprepares := runs_makeDirectories_prepares hdirs
    have hs₁ := hs _ hprepares.grows
    have hpacked := runs_packInto hproduct (by rwa [hw₂, hstays.directory]) h
    rw [hw₂, hstays.directory] at hpacked
    exact ⟨w₁.machine.files, hprepares, hpacked⟩

/-! ## The policy to fail -/

section Fail

variable {verified : VerifiedArtifact} {q : Location} (hc : settings.collision = .fail)

include hc

/-- Under the policy to fail, packaging changes nothing that was there. -/
theorem Packaged.kept {node : Node} {r : Except PackagingError Package}
    (h : Packaged settings verified may here fs fs' r) (hq : fs.node? q = some node) :
    fs'.node? q = some node := by
  have hother : ∀ {at' : Location}, fs.node? at' = none → q ≠ at' := by
    rintro at' hnone rfl
    rw [hnone] at hq
    simp at hq
  cases h with
  | untouched same => rw [same, hq]
  | @dropped e place name named reaches fresh changeable same gone sidecar =>
    by_cases hside : q = place ++ [checksumName name]
    · subst hside
      rcases sidecar with hsame | ⟨-, hsame | ⟨hnone, -⟩⟩
      · rw [hsame, hq]
      · rw [hsame, hq]
      · exact absurd rfl (hother (hnone hc))
    · rw [same q (hother (fresh hc)) hside, hq]
  | @made package place origin name content found written named reaches refused fresh same stands findNode
      archived finished reported =>
    by_cases hside : q = place ++ [checksumName name]
    · subst hside
      cases hsum : settings.checksum with
      | false => rw [(finished.plain hsum).2, hq]
      | true => exact absurd rfl (hother ((finished.described hsum).2.1 hc))
    · rw [same q (hother (fresh hc)) hside, hq]

/-- Under the policy to fail, a packaging that fails adds no file. -/
theorem Packaged.clean {data : FileData} {e : PackagingError}
    (hmay : ∀ path, ¬ may (.remove path))
    (h : Packaged settings verified may here fs fs' (.error e))
    (hq : fs'.node? q = some (.file data)) : fs.node? q = some (.file data) := by
  cases h with
  | untouched same => rwa [same] at hq
  | @dropped e place name named reaches fresh changeable same gone sidecar =>
    have hrel : Reliable may fs place := ⟨hmay, changeable hc⟩
    by_cases hpack : q = place ++ [name]
    · subst hpack
      rw [gone hrel] at hq
      simp at hq
    · by_cases hside : q = place ++ [checksumName name]
      · subst hside
        rcases sidecar with hsame | ⟨-, hsame | ⟨-, hgone⟩⟩
        · rwa [hsame] at hq
        · rwa [hsame] at hq
        · rw [hgone hrel] at hq
          simp at hq
      · rwa [same q hpack hside] at hq

end Fail

end Slipway
