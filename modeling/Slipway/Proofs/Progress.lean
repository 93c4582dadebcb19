import Slipway.Proofs.Stages

/-!
# When a release goes on

What a stage finds on the machine decides whether it can succeed. Here are conditions under which
there is a run in which it does.
-/

namespace Slipway

open FileSystem World

variable {σ τ α β ε : Type} {runner : Runner σ} {may : Refusals} {w w' w₁ : World σ}
  {settings : Settings} {toolchain : Path} {host : Host} {arch : Arch} {file binary : Handle}
  {fs fs' : FileSystem} {here place : Location} {dir : Path} {name : String} {data : FileData}

/-! ## Putting runs together -/

theorem World.Runs.next {s : Stage ε α} {f : α → Stage ε β} {a : α} {r : Except ε β}
    (h : w.Runs runner may s.run (.ok a) w₁) (h' : w₁.Runs runner may (f a).run r w') :
    w.Runs runner may (s >>= f).run r w' :=
  (runs_stage_bind _ _ _).mpr (Or.inl ⟨a, w₁, h, h'⟩)

theorem World.Runs.lifted {p : Program α} {f : α → Stage ε β} {a : α} {r : Except ε β}
    (h : w.Runs runner may p a w₁) (h' : w₁.Runs runner may (f a).run r w') :
    w.Runs runner may (ExceptT.lift p >>= f : Stage ε β).run r w' :=
  (runs_lift_bind _ _ _).mpr ⟨a, w₁, h, h'⟩

theorem runs_ask {a : FileAction} (ha : a.Asks) :
    w.Runs runner may (Program.file a) (w.machine.reply a).1 w := by
  have hperf : w.machine.Performs may a (w.machine.reply a).1 (w.machine.reply a).2 := Or.inl rfl
  have hm := Machine.performs_asks hperf ha
  rw [hm] at hperf
  exact (runs_file _ _).mpr ⟨w.machine, hperf, rfl⟩

theorem World.Runs.elsewhere {p : Program α} {r : α} (h : w.Runs runner may p r w')
    (hm : w₁.machine = w.machine) (hr : w₁.runner = w.runner) :
    ∃ w₂, w₁.Runs runner may p r w₂ ∧ w₂.machine = w'.machine ∧ w₂.runner = w'.runner := by
  induction p generalizing w w₁ with
  | done a =>
    obtain ⟨rfl, rfl⟩ := h
    exact ⟨w₁, ⟨rfl, rfl⟩, hm, hr⟩
  | ask action next ih =>
    obtain ⟨reply, w₂, ha, hrest⟩ := h
    have hstep : ∃ w₃, w₁.Answers runner may action reply w₃ ∧ w₃.machine = w₂.machine ∧
        w₃.runner = w₂.runner := by
      cases action with
      | file a =>
        obtain ⟨m, hperf, rfl⟩ := ha
        exact ⟨{ w₁ with machine := m }, ⟨m, hm ▸ hperf, rfl⟩, rfl, hr⟩
      | start i =>
        obtain ⟨rfl, rfl⟩ := Prod.mk.inj ha
        refine ⟨(w₁.reply runner (.start i)).2, ?_, ?_, ?_⟩
        · simp only [Answers, reply, hm, hr]
        · simp only [reply, hm, hr]
        · simp only [reply, hm, hr]
      | _ =>
        obtain ⟨rfl, rfl⟩ := Prod.mk.inj ha
        exact ⟨_, rfl, hm, hr⟩
    obtain ⟨w₃, ha', hm', hr'⟩ := hstep
    obtain ⟨w₄, hrest', hm'', hr''⟩ := ih _ hrest hm' hr'
    exact ⟨w₄, ⟨reply, w₃, ha', hrest'⟩, hm'', hr''⟩

/-! ## Whole files -/

theorem readPieces_ends {step : τ → Bytes → τ} (fuel offset : Nat) (state : τ)
    (hopen : w.machine.files.openNode? file = some (.file data)) :
    ∃ state', w.Runs runner may (readPieces file step fuel offset state) (state', .ok ()) w := by
  induction fuel generalizing offset state with
  | zero => exact ⟨state, rfl, rfl⟩
  | succ fuel ih =>
    have hread : (w.machine.reply (.read file offset pieceSize)).1
        = .ok ((data.content.drop offset).take pieceSize) := by
      simp only [Machine.reply, FileSystem.read, hopen]
    have hask : w.Runs runner may (Program.file (.read file offset pieceSize))
        (.ok ((data.content.drop offset).take pieceSize)) w := hread ▸ runs_ask trivial
    rw [readPieces]
    cases hpiece : (data.content.drop offset).take pieceSize with
    | nil =>
      rw [hpiece] at hask
      exact ⟨state, (runs_bind _ _ _).mpr ⟨_, w, hask, rfl, rfl⟩⟩
    | cons b rest =>
      rw [hpiece] at hask
      obtain ⟨state', hrest⟩ := ih (offset + (b :: rest).length) (step state (b :: rest))
      exact ⟨state', (runs_bind _ _ _).mpr ⟨_, w, hask, hrest⟩⟩

theorem describeOpen_reply (hopen : w.machine.files.openNode? file = some (.file data)) :
    w.Runs runner may (Program.file (.describeOpen file))
      (.ok (statusOf w.machine.now (.file data))) w := by
  have hreply : (w.machine.reply (.describeOpen file)).1
      = .ok (statusOf w.machine.now (.file data)) := by
    simp only [Machine.reply, describeOpen, hopen]
  exact hreply ▸ runs_ask trivial

theorem collectRecords_ends {entry : String} {fields : Bytes × Bytes}
    (hopen : w.machine.files.openNode? binary = some (.file data))
    (htar : Tar.place entry = .ok fields) :
    ∃ records, w.Runs runner may (collectRecords binary entry) (records, .ok ()) w := by
  obtain ⟨before, field⟩ := fields
  let status := statusOf w.machine.now (.file data)
  obtain ⟨pieces, hpieces⟩ : ∃ pieces, w.Runs runner may (readPieces binary
      (fun (pieces : List Bytes) piece => piece :: pieces) (status.size + 1) 0 [])
      (pieces, .ok ()) w :=
    readPieces_ends _ _ _ hopen
  refine ⟨before ++ (entryHeader field status).toBytes ++ Tar.padded pieces.reverse.flatten,
    (runs_bind _ _ _).mpr ⟨_, w, describeOpen_reply hopen, ?_⟩⟩
  simp only [htar]
  exact (runs_bind _ _ _).mpr ⟨_, w, hpieces, rfl, rfl⟩

theorem write_open (offset : Nat) (bytes : Bytes) (now : Int)
    (hopen : fs.openNode? file = some (.file data)) :
    ∃ fs' data', fs.write file offset bytes now = .ok fs' ∧
      fs'.openNode? file = some (.file data') ∧ data'.mode = data.mode := by
  obtain ⟨hnode, hs⟩ := openNode?_eq.mp hopen
  refine ⟨fs.updateOpen file (fun data =>
      { data with content := overwriteAt data.content offset bytes, modified := now }),
    { data with content := overwriteAt data.content offset bytes, modified := now }, ?_,
    openNode?_eq.mpr ⟨node?_updateOpen_self hnode hs, hs⟩, rfl⟩
  simp only [FileSystem.write, hopen]

theorem writePieces_ends {pieces : List Bytes} (offset : Nat)
    (hopen : w.machine.files.openNode? file = some (.file data)) :
    ∃ w' data', w.Runs runner may (writePieces file offset pieces).run (.ok ()) w' ∧
      w'.machine.files.openNode? file = some (.file data') ∧ data'.mode = data.mode := by
  induction pieces generalizing w offset data with
  | nil => exact ⟨w, data, ⟨rfl, rfl⟩, hopen, rfl⟩
  | cons piece rest ih =>
    obtain ⟨fs', data', hwrite, hopen', hmode⟩ := write_open offset piece w.machine.now hopen
    have hreply : w.Runs runner may (Stage.attempt (Program.file (.write file offset piece))).run
        (.ok ()) { w with machine := { w.machine with files := fs' } } := by
      rw [runs_attempt, runs_file]
      exact ⟨_, Or.inl (by simp only [Machine.reply, hwrite, Machine.change]), rfl⟩
    obtain ⟨w', data'', hrest, hopen'', hmode'⟩ :=
      ih (w := { w with machine := { w.machine with files := fs' } }) (offset + piece.length) hopen'
    exact ⟨w', data'', hreply.next hrest, hopen'', hmode'.trans hmode⟩

theorem hashFile_ends {path : Path}
    (hfind : w.machine.files.findNode w.machine.directory path = .ok (place, .file data))
    (hreads : ownerReads data.mode = true) :
    ∃ hash, w.Runs runner may (hashFile path).run (.ok hash) w := by
  have hopen : w.machine.files.openNode? ⟨place, data.serial⟩ = some (.file data) :=
    openNode?_eq.mpr ⟨node?_of_findNode hfind, rfl⟩
  have hread : w.Runs runner may (Program.file (.openRead path)) (.ok ⟨place, data.serial⟩) w := by
    have hreply : (w.machine.reply (.openRead path)).1 = .ok ⟨place, data.serial⟩ := by
      simp [Machine.reply, FileSystem.openRead, hfind, Node.mode, hreads, serialOf]
    exact hreply ▸ runs_ask trivial
  obtain ⟨hasher, hpieces⟩ : ∃ hasher, w.Runs runner may (readPieces ⟨place, data.serial⟩
      Sha256.Hasher.update ((statusOf w.machine.now (.file data)).size + 1) 0 ({} : Sha256.Hasher))
      (hasher, .ok ()) w :=
    readPieces_ends _ _ _ hopen
  refine ⟨ContentHash.ofDigest hasher.finish, ?_⟩
  have hstatus : w.Runs runner may
      (Stage.attempt (Program.file (.describeOpen ⟨place, data.serial⟩))).run _ w :=
    describeOpen_reply hopen
  have hhash : w.Runs runner may (hashOpen ⟨place, data.serial⟩).run
      (.ok (ContentHash.ofDigest hasher.finish)) w :=
    hstatus.next (hpieces.lifted ⟨rfl, rfl⟩)
  exact World.Runs.next (s := Stage.attempt (Program.file (.openRead path))) hread hhash

/-- The mode of the file at the place, or that of a new one. -/
def fileMode (fs : FileSystem) (place : Location) : Nat :=
  match fs.node? place with
  | some (.file data) => data.mode
  | _ => newFileMode

theorem fileMode_eq (h : fs.node? place = some (.file data)) : fileMode fs place = data.mode := by
  rw [fileMode, h]

theorem file_unique {data' : FileData} (h : fs.node? place = some (.file data))
    (h' : fs.node? place = some (.file data')) : data = data' :=
  Node.file.inj (Option.some.inj (h.symm.trans h'))

theorem writeAll_ends {content bytes : Bytes} (hh : w.machine.files.Holds file content) :
    ∃ w', w.Runs runner may (writeAll file bytes).run (.ok ()) w' ∧
      fileMode w'.machine.files file.place = fileMode w.machine.files file.place := by
  obtain ⟨data, hopen, -⟩ := hh.openNode?
  obtain ⟨w', data', hwrite, hopen', hmode⟩ : ∃ w' data', w.Runs runner may
      (writeAll file bytes).run (.ok ()) w' ∧ _ := writePieces_ends 0 hopen
  refine ⟨w', hwrite, ?_⟩
  rw [fileMode_eq (openNode?_eq.mp hopen).1, fileMode_eq (openNode?_eq.mp hopen').1, hmode]

theorem writeArchive_ends {entry : String} {records content : Bytes}
    (hh : w.machine.files.Holds file content)
    (hcollect : w.Runs runner may (collectRecords binary entry) (records, .ok ()) w) :
    ∃ w', w.Runs runner may (writeArchive file binary entry).run (.ok ()) w' ∧
      fileMode w'.machine.files file.place = fileMode w.machine.files file.place := by
  obtain ⟨w', hwrite, hmode⟩ : ∃ w', w.Runs runner may
      (writeAll file (Gzip.compress (records ++ Tar.terminator))).run (.ok ()) w' ∧ _ :=
    writeAll_ends hh
  exact ⟨w', hcollect.lifted (hwrite.lifted ⟨rfl, rfl⟩), hmode⟩

/-! ## Files to write to -/

/-- There is nothing under the name, and a file can be created there. -/
structure Vacant (fs : FileSystem) (here : Location) (dir : Path) (name : String)
    (place : Location) : Prop where
  named : IsName name
  size : name.utf8ByteSize ≤ maxNameBytes
  reaches : fs.Reaches here dir place
  refused : refuse? (dir.join name) = none
  changeable : fs.Changeable place
  nothing : fs.node? (place ++ [name]) = none

theorem Vacant.createAt {now : Int} (h : Vacant fs here dir name place) :
    fs.createAt (place ++ [name]) newFileMode now
      = .ok (fs.createFile (place ++ [name]) newFileMode now) := by
  obtain ⟨hgone, mode, hdir, hwrites⟩ := h.changeable
  unfold FileSystem.createAt
  rw [List.dropLast_concat, hdir]
  simp [hgone, hwrites]

theorem Vacant.openWrite {now : Int} (h : Vacant fs here dir name place) (creation : Creation) :
    fs.openWrite here creation (dir.join name) now
      = .ok (fs.createFile (place ++ [name]) newFileMode now) := by
  cases creation with
  | fresh =>
    obtain ⟨mode, hdir, hlast⟩ := h.reaches.findLast h.named h.refused
    obtain ⟨hgone, -⟩ := h.changeable
    simp only [FileSystem.openWrite, openFresh, hlast, LastName.lookup,
      Nat.not_lt.mpr h.size, hgone, h.nothing, if_false, Bool.false_eq_true]
    exact h.createAt
  | emptied =>
    have hfind := h.reaches.find h.named h.refused h.size (by simp [h.nothing])
    rw [h.nothing] at hfind
    simp only [FileSystem.openWrite, openAny, h.named.endsInSeparator_join, hfind, if_false,
      Bool.false_eq_true]
    exact h.createAt

/-- A file can be opened for writing at the place: nothing is there and the directory takes new
files, or a file is there that can be written to and may be replaced. -/
def Writable (settings : Settings) (fs : FileSystem) (place : Location) : Prop :=
  fs.node? place = none ∧ fs.Changeable place.dropLast ∨
    settings.collision = .overwrite ∧
      ∃ data, fs.node? place = some (.file data) ∧ ownerWrites data.mode = true

/-- A file can be opened for writing under the name. -/
structure Openable (settings : Settings) (fs : FileSystem) (here : Location) (dir : Path)
    (name : String) (place : Location) : Prop where
  named : IsName name
  size : name.utf8ByteSize ≤ maxNameBytes
  reaches : fs.Reaches here dir place
  refused : refuse? (dir.join name) = none
  writable : Writable settings fs (place ++ [name])

theorem Vacant.openable (h : Vacant fs here dir name place) :
    Openable settings fs here dir name place :=
  ⟨h.named, h.size, h.reaches, h.refused,
    Or.inl ⟨h.nothing, by rw [List.dropLast_concat]; exact h.changeable⟩⟩

theorem Writable.keeps (h : Writable settings fs place) (hk : Keeps fs fs')
    (hsame : fs'.node? place = fs.node? place) : Writable settings fs' place := by
  unfold Writable at h ⊢
  rw [hsame]
  exact h.imp (fun ⟨hnone, hchange⟩ => ⟨hnone, hchange.keeps hk⟩) id

theorem Writable.keeps_of_sameOff (h : Writable settings fs place) (hs : SameOff place fs fs') :
    Keeps fs fs' := by
  refine hs.keeps fun node hnode => ?_
  rcases h with ⟨hnone, -⟩ | ⟨-, data, hfile, -⟩
  · simp [hnone] at hnode
  · rw [hfile, Option.some.injEq] at hnode
    subst hnode
    exact id

theorem Openable.keeps (h : Openable settings fs here dir name place) (hk : Keeps fs fs')
    (hsame : fs'.node? (place ++ [name]) = fs.node? (place ++ [name])) :
    Openable settings fs' here dir name place :=
  ⟨h.named, h.size, h.reaches.keeps hk, h.refused, h.writable.keeps hk hsame⟩

theorem createFile_ends
    (h : Openable settings w.machine.files w.machine.directory dir name place) :
    ∃ file w', w.Runs runner may (createFile settings (dir.join name)).run (.ok file) w' ∧
      w.machine.Stays w'.machine ∧ Opens w.machine.files (place ++ [name]) w'.machine.files file ∧
      fileMode w'.machine.files (place ++ [name]) = fileMode w.machine.files (place ++ [name]) ∧
      ∀ data, w.machine.files.node? (place ++ [name]) = some (.file data) →
        w'.machine.files.node? (place ++ [name])
          = some (.file { data with content := [], modified := w.machine.now }) := by
  have hn := h.named
  have hplace : ¬ Fixed (place ++ [name]) := not_fixed_append hn.ne_empty
  rcases h.writable with ⟨hnone, hchange⟩ | ⟨hc, data, hnode, hwrites⟩
  · rw [List.dropLast_concat] at hchange
    have hvacant : Vacant w.machine.files w.machine.directory dir name place :=
      ⟨hn, h.size, h.reaches, h.refused, hchange, hnone⟩
    refine ⟨_, { w with machine := { w.machine with files :=
      (w.machine.files.createFile (place ++ [name]) newFileMode w.machine.now).1 } }, ?_, rfl,
      opens_createFile hplace, ?_, by simp [hnone]⟩
    · rw [createFile, runs_orElse_ok, runs_attempt, runs_file]
      refine ⟨_, Or.inl ?_, rfl⟩
      simp only [Machine.reply, hvacant.openWrite, Machine.opened]
    · rw [fileMode_eq (node?_createFile_self hplace), fileMode, hnone]
  · let emptied : FileData := { data with content := [], modified := w.machine.now }
    let after := w.machine.files.put (place ++ [name]) (.file emptied)
    have hafter : after.node? (place ++ [name]) = some (.file emptied) := node?_put_self hplace
    refine ⟨⟨place ++ [name], data.serial⟩,
      { w with machine := { w.machine with files := after } }, ?_, rfl,
      ⟨rfl, ⟨emptied, hafter, rfl, rfl⟩, fun _ hq => node?_put_of_ne hq⟩, ?_, ?_⟩
    · rw [createFile, runs_orElse_ok, runs_attempt, runs_file, hc]
      have hfind := h.reaches.find hn h.refused h.size (by simp [hnode])
      rw [hnode] at hfind
      exact ⟨_, Or.inl (by simp [Machine.reply, CollisionPolicy.creation, FileSystem.openWrite,
        openAny, hn.endsInSeparator_join, hfind, openExisting, hwrites, Machine.opened, after,
        emptied]), rfl⟩
    · rw [fileMode_eq hafter, fileMode_eq hnode]
    · intro old hold
      obtain rfl := file_unique hnode hold
      exact hafter

/-! ## Packaging -/

theorem runs_note_pure {event : Event} {a : α} :
    w.Runs runner may (Stage.note event >>= fun _ => pure a : Stage ε α).run (.ok a)
      { w with messages := .event event :: w.messages } :=
  runs_note_bind.mpr ⟨rfl, rfl⟩

theorem writeChecksum_ends {up path : Path} {line : String} {found : Location}
    (hpath : checksumPath path = up.join (checksumName name))
    (hroom : Openable settings w.machine.files w.machine.directory up (checksumName name) place)
    (hfind : w.machine.files.findNode w.machine.directory path = .ok (found, .file data))
    (hreads : ownerReads data.mode = true) :
    ∃ written w', w.Runs runner may (writeChecksum settings path line).run (.ok written) w' ∧
      SameOff (place ++ [checksumName name]) w.machine.files w'.machine.files ∧
      fileMode w'.machine.files (place ++ [checksumName name])
        = fileMode w.machine.files (place ++ [checksumName name]) := by
  obtain ⟨hash, hhash⟩ : ∃ hash, w.Runs runner may (hashFile path).run (.ok hash) w :=
    hashFile_ends hfind hreads
  obtain ⟨sidecar, w₁, hcreate, -, hopens, hmode, -⟩ :
      ∃ file w₁, w.Runs runner may (createFile settings (up.join (checksumName name))).run
        (.ok file) w₁ ∧ _ := createFile_ends hroom
  obtain ⟨w₂, hwrite, hmode'⟩ : ∃ w₂, w₁.Runs runner may
      (writeAll sidecar (Utf8.encode (hash.checksumLine line))).run (.ok ()) w₂ ∧ _ :=
    writeAll_ends hopens.holds
  obtain ⟨hsame, -⟩ := runs_writeAll hopens.holds hwrite
  rw [hopens.place_eq] at hsame hmode'
  rw [writeChecksum, hpath]
  exact ⟨_, _, (runs_orElse_ok.mpr hhash).next (hcreate.next (hwrite.lifted runs_note_pure)),
    hopens.sameOff.trans hsame, hmode'.trans hmode⟩

theorem fillPackage_ends {up artifact : Path} {line entry : String} {records : Bytes}
    (hn : IsName name) (hreach : w.machine.files.Reaches w.machine.directory dir place)
    (hr : refuse? (dir.join name) = none) (hsize : name.utf8ByteSize ≤ maxNameBytes)
    (hh : w.machine.files.Holds file []) (hp : file.place = place ++ [name])
    (hcollect : w.Runs runner may (collectRecords binary entry) (records, .ok ()) w)
    (hpath : checksumPath (dir.join name) = up.join (checksumName name))
    (hside : settings.checksum = true →
      ownerReads (fileMode w.machine.files (place ++ [name])) = true ∧
        Openable settings w.machine.files w.machine.directory up (checksumName name) place) :
    ∃ filled data w', w.Runs runner may
        (fillPackage settings file binary artifact (dir.join name) line entry).run (.ok filled) w' ∧
      SameBut place name w.machine.files w'.machine.files ∧
      w'.machine.files.node? (place ++ [name]) = some (.file data) ∧
      data.mode = fileMode w.machine.files (place ++ [name]) ∧
      fileMode w'.machine.files (place ++ [checksumName name])
        = fileMode w.machine.files (place ++ [checksumName name]) := by
  obtain ⟨w₁, harchive, hmode⟩ : ∃ w₁, w.Runs runner may
      (writeArchive file binary entry).run (.ok ()) w₁ ∧ _ := writeArchive_ends hh hcollect
  obtain ⟨hsame, content, hcontent, -⟩ := runs_writeArchive hh harchive
  rw [hp] at hsame hmode
  have hkeeps := (hsame.touches hh hp).keeps
  have hdir := (harchive.stays (writeArchive_only _ _ _)).2.directory
  have hreach' := hreach.keeps hkeeps
  rw [← hdir] at hreach'
  obtain ⟨data, hfind, -⟩ := findNode_of_holds hn hreach' hr hsize hcontent hp
  have hnode := node?_of_findNode hfind
  rw [fileMode_eq hnode] at hmode
  have hdescribe : w₁.Runs runner may (Program.file (.describe (dir.join name)))
      (.ok (statusOf w₁.machine.now (.file data))) w₁ := by
    have hreply : (w₁.machine.reply (.describe (dir.join name))).1
        = .ok (statusOf w₁.machine.now (.file data)) := by
      simp only [Machine.reply, describe, hfind]
      rfl
    exact hreply ▸ runs_ask trivial
  have hafter : ∃ filled w', w₁.Runs runner may (if settings.checksum = true then
      writeChecksum settings (dir.join name) line >>= fun written =>
        pure ((statusOf w₁.machine.now (.file data)).size, some written)
      else pure ((statusOf w₁.machine.now (.file data)).size, none) :
        Stage PackagingError (Nat × Option (ContentHash × Path))).run (.ok filled) w' ∧
        SameOff (place ++ [checksumName name]) w₁.machine.files w'.machine.files ∧
        fileMode w'.machine.files (place ++ [checksumName name])
          = fileMode w₁.machine.files (place ++ [checksumName name]) := by
    split
    · rename_i hsum
      obtain ⟨hreads, hroom⟩ := hside hsum
      have hroom := hroom.keeps hkeeps (hsame _ sidecar_ne_package)
      rw [← hdir] at hroom
      obtain ⟨written, w₂, hwrite, hside⟩ : ∃ written w₂, w₁.Runs runner may
          (writeChecksum settings (dir.join name) line).run (.ok written) w₂ ∧ _ :=
        writeChecksum_ends hpath hroom hfind (hmode ▸ hreads)
      exact ⟨_, w₂, hwrite.next ⟨rfl, rfl⟩, hside⟩
    · exact ⟨_, w₁, ⟨rfl, rfl⟩, SameOff.refl _ _, rfl⟩
  obtain ⟨filled, w₂, hafter, hside, hmode'⟩ := hafter
  refine ⟨filled, data, w₂,
    (runs_orElse_ok.mpr harchive).next ((runs_orElse_ok.mpr hdescribe).next hafter),
    (sameBut_of_package hsame).trans (sameBut_of_sidecar hside), ?_, hmode, ?_⟩
  · rw [hside _ sidecar_ne_package.symm, hnode]
  · rw [hmode', fileMode, fileMode, hsame _ sidecar_ne_package]

/-- The files that packaging writes can be opened, and the package can be read for its hash. -/
structure Room (settings : Settings) (fs : FileSystem) (here : Location) (dir up : Path)
    (name : String) (place : Location) : Prop where
  package : Openable settings fs here dir name place
  readable : settings.checksum = true → ownerReads (fileMode fs (place ++ [name])) = true
  sidecar : settings.checksum = true → Openable settings fs here up (checksumName name) place

/-- A binary that can be read is packed where there is room. The files that are written keep their
modes. -/
theorem packInto_ends {verified : VerifiedArtifact} {replaced : Bool} {up : Path}
    (hpackage : packagePath settings verified.artifact.request = dir.join name)
    (hsidecar : checksumPath (dir.join name) = up.join (checksumName name))
    (hbinary : w.machine.files.openRead w.machine.directory verified.artifact.path = .ok binary)
    (hroom : Room settings w.machine.files w.machine.directory dir up name place)
    (hcollect : ∀ file w₁,
      w.Runs runner may (createFile settings (dir.join name)).run (.ok file) w₁ →
      SameOff (place ++ [name]) w.machine.files w₁.machine.files →
      ∃ records, w₁.Runs runner may (collectRecords binary
        (verified.artifact.request.os.executable settings.product)) (records, .ok ()) w₁) :
    ∃ package data w', w.Runs runner may (packInto settings verified replaced).run (.ok package) w' ∧
      SameBut place name w.machine.files w'.machine.files ∧
      w'.machine.files.node? (place ++ [name]) = some (.file data) ∧
      data.mode = fileMode w.machine.files (place ++ [name]) ∧
      fileMode w'.machine.files (place ++ [checksumName name])
        = fileMode w.machine.files (place ++ [checksumName name]) := by
  have hopen : w.Runs runner may (Program.file (.openRead verified.artifact.path)) (.ok binary) w := by
    have hreply : (w.machine.reply (.openRead verified.artifact.path)).1 = .ok binary := hbinary
    exact hreply ▸ runs_ask trivial
  obtain ⟨file, w₁, hcreate, hstays, hopens, hmode, -⟩ : ∃ file w₁,
      w.Runs runner may (createFile settings (dir.join name)).run (.ok file) w₁ ∧ _ :=
    createFile_ends hroom.package
  obtain ⟨records, hcollect⟩ := hcollect file w₁ hcreate hopens.sameOff
  have hkeeps := hroom.package.writable.keeps_of_sameOff hopens.sameOff
  have hreach := hroom.package.reaches.keeps hkeeps
  rw [← hstays.directory] at hreach
  obtain ⟨⟨size, written⟩, data, w₂, hfill, hbut, hnode, hmode', hmode₂⟩ : ∃ filled data w₂,
      w₁.Runs runner may (fillPackage settings file binary verified.artifact.path (dir.join name)
        (verified.artifact.request.platform.packageName settings.product)
        (verified.artifact.request.os.executable settings.product)).run (.ok filled) w₂ ∧ _ :=
    fillPackage_ends hroom.package.named hreach hroom.package.refused hroom.package.size
      hopens.holds hopens.place_eq hcollect hsidecar (fun hsum => by
        rw [hmode, hstays.directory]
        exact ⟨hroom.readable hsum,
          (hroom.sidecar hsum).keeps hkeeps (hopens.sameOff _ sidecar_ne_package)⟩)
  have hside : fileMode w₁.machine.files (place ++ [checksumName name])
      = fileMode w.machine.files (place ++ [checksumName name]) := by
    unfold fileMode
    rw [hopens.sameOff _ sidecar_ne_package]
  rw [packInto, hpackage]
  exact ⟨_, data, _, (runs_orElse_ok.mpr hopen).next (hcreate.next (hfill.lifted runs_note_pure)),
    (sameBut_of_package hopens.sameOff).trans hbut, hnode, hmode'.trans hmode, hmode₂.trans hside⟩

/-- What packaging needs to succeed: a binary that can be read, and names for the package and its
checksum file that nothing has yet. -/
structure Packable (settings : Settings) (verified : VerifiedArtifact) (fs : FileSystem)
    (here place : Location) : Prop where
  binary : ∃ origin source, fs.findNode here verified.artifact.path = .ok (origin, .file source) ∧
    ownerReads source.mode = true
  entry : ∃ fields, Tar.place (verified.artifact.request.os.executable settings.product) = .ok fields
  package : Vacant fs here settings.packagesDir
    (verified.artifact.request.platform.packageName settings.product) place
  sidecar : settings.checksum = true →
    fs.node? (place ++ [checksumName
      (verified.artifact.request.platform.packageName settings.product)]) = none ∧
    refuse? (checksumPath (packagePath settings verified.artifact.request)) = none ∧
    (checksumName (verified.artifact.request.platform.packageName settings.product)).utf8ByteSize
      ≤ maxNameBytes

/-- A package was put into the directory, with its checksum file perhaps, and nothing else. -/
def Packs (settings : Settings) (verified : VerifiedArtifact) (place : Location)
    (fs fs' : FileSystem) : Prop :=
  SameBut place (verified.artifact.request.platform.packageName settings.product) fs fs' ∧
    ∃ data, fs'.node? (place ++
        [verified.artifact.request.platform.packageName settings.product]) = some (.file data) ∧
      data.mode = newFileMode

theorem Packable.packs {verified : VerifiedArtifact} {replaced : Bool}
    (h : Packable settings verified w.machine.files w.machine.directory place) :
    ∃ package w', w.Runs runner may (packInto settings verified replaced).run (.ok package) w' ∧
      Packs settings verified place w.machine.files w'.machine.files := by
  obtain ⟨origin, source, hfind, hreads⟩ := h.binary
  obtain ⟨fields, htar⟩ := h.entry
  have hn := h.package.named
  have hopen : w.machine.files.openRead w.machine.directory verified.artifact.path
      = .ok ⟨origin, source.serial⟩ := by
    simp [FileSystem.openRead, hfind, Node.mode, hreads, serialOf]
  obtain ⟨up, hway, hpath⟩ := checksumPath_join hn settings.packagesDir
  have hmode : fileMode w.machine.files (place ++
      [verified.artifact.request.platform.packageName settings.product]) = newFileMode := by
    rw [fileMode, h.package.nothing]
  have hroom : Room settings w.machine.files w.machine.directory settings.packagesDir up
      (verified.artifact.request.platform.packageName settings.product) place := by
    refine ⟨h.package.openable, fun _ => hmode ▸ (by decide), fun hsum => ?_⟩
    obtain ⟨hnothing, hrefused, hsize⟩ := h.sidecar hsum
    have hvacant : Vacant w.machine.files w.machine.directory up
        (checksumName (verified.artifact.request.platform.packageName settings.product)) place :=
      ⟨isName_checksumName hn, hsize, (reaches_sameWay hway).mpr h.package.reaches,
        hpath ▸ hrefused, h.package.changeable, hnothing⟩
    exact hvacant.openable
  obtain ⟨package, data, w', hpack, hbut, hnode, hdata, -⟩ : ∃ package data w', w.Runs runner may
      (packInto settings verified replaced).run (.ok package) w' ∧ _ :=
    packInto_ends rfl hpath hopen hroom (fun file w₁ _ hoff => by
      have hnode := node?_of_findNode hfind
      refine collectRecords_ends (openNode?_eq.mpr ⟨?_, rfl⟩) htar
      rw [hoff origin (by rintro rfl; simp [h.package.nothing] at hnode), hnode])
  exact ⟨package, w', hpack, hbut, data, hnode, hdata.trans hmode⟩

theorem package_ends {verified : VerifiedArtifact}
    {Q : Except PackagingError Package → Machine → Prop}
    (hdirs : w.Runs runner may (makeDirectories settings.packagesDir).run (.ok ()) w₁)
    (h : ∀ v : World σ, v.machine = w₁.machine → ∃ made v', v.Runs runner may (packInto settings
      verified (w₁.machine.files.exists? w₁.machine.directory
        (packagePath settings verified.artifact.request))).run made v' ∧ Q made v'.machine) :
    ∃ made w', w.Runs runner may (Slipway.package settings verified).run made w' ∧
      Q made w'.machine := by
  let told := Event.packaging verified.artifact.request.platform
  obtain ⟨w₂, hdirs', hm, -⟩ : ∃ w₂, World.Runs runner may
      { w with messages := .event told :: w.messages }
      (makeDirectories settings.packagesDir).run (.ok ()) w₂ ∧ _ :=
    hdirs.elsewhere rfl rfl
  rw [← hm] at h
  generalize hreplaced : w₂.machine.files.exists? w₂.machine.directory
    (packagePath settings verified.artifact.request) = replaced at h
  have hask : w₂.Runs runner may
      (Program.file (.pathExists (packagePath settings verified.artifact.request))) replaced w₂ :=
    hreplaced ▸ runs_ask (a := .pathExists (packagePath settings verified.artifact.request)) trivial
  have hrest : ∃ made w', w₂.Runs runner may (if replaced = true then
      Stage.note (.overwritingPackage (packagePath settings verified.artifact.request)) >>= fun _ =>
        packInto settings verified replaced
      else packInto settings verified replaced).run made w' ∧ Q made w'.machine := by
    split
    · let told := Event.overwritingPackage (packagePath settings verified.artifact.request)
      obtain ⟨made, w', hpack, hQ⟩ := h { w₂ with messages := .event told :: w₂.messages } rfl
      exact ⟨made, w', runs_note_bind.mpr hpack, hQ⟩
    · exact h w₂ rfl
  obtain ⟨made, w', hpack, hQ⟩ := hrest
  rw [package_eq]
  exact ⟨made, w', runs_note_bind.mpr ((runs_orElse_ok.mpr hdirs').next (hask.lifted hpack)), hQ⟩

theorem package_succeeds {verified : VerifiedArtifact}
    (hdirs : w.Runs runner may (makeDirectories settings.packagesDir).run (.ok ()) w₁)
    (h : Packable settings verified w₁.machine.files w₁.machine.directory place) :
    ∃ package w', w.Runs runner may (Slipway.package settings verified).run (.ok package) w' ∧
      Packs settings verified place w₁.machine.files w'.machine.files := by
  let Q : Except PackagingError Package → Machine → Prop := fun made m =>
    (∃ package, made = .ok package) ∧ Packs settings verified place w₁.machine.files m.files
  obtain ⟨made, w', hpackage, ⟨package, rfl⟩, hpacks⟩ : ∃ made w', w.Runs runner may
      (Slipway.package settings verified).run made w' ∧ Q made w'.machine := by
    refine package_ends hdirs (fun v hm => ?_)
    rw [← hm] at h
    obtain ⟨package, v', hpack, hpacks⟩ : ∃ package v', v.Runs runner may
        (packInto settings verified _).run (.ok package) v' ∧ _ := h.packs
    exact ⟨.ok package, v', hpack, ⟨package, rfl⟩, hm ▸ hpacks⟩
  exact ⟨package, w', hpackage, hpacks⟩

/-! ## A binary that became a directory -/

theorem collectRecords_directory {entry : String} {fields : Bytes × Bytes} {mode : Nat}
    (hopen : w.machine.files.openNode? binary = some (.directory mode))
    (htar : Tar.place entry = .ok fields) :
    ∃ records e, w.Runs runner may (collectRecords binary entry) (records, .error e) w := by
  obtain ⟨before, field⟩ := fields
  have hstatus : w.Runs runner may (Program.file (.describeOpen binary))
      (.ok (statusOf w.machine.now (.directory mode))) w := by
    have hreply : (w.machine.reply (.describeOpen binary)).1
        = .ok (statusOf w.machine.now (.directory mode)) := by
      simp only [Machine.reply, describeOpen, hopen]
    exact hreply ▸ runs_ask (a := .describeOpen binary) trivial
  have hread : w.Runs runner may (Program.file (.read binary 0 pieceSize)) (.error .isDirectory) w := by
    have hreply : (w.machine.reply (.read binary 0 pieceSize)).1 = .error .isDirectory := by
      simp only [Machine.reply, FileSystem.read, hopen]
    exact hreply ▸ runs_ask (a := .read binary 0 pieceSize) trivial
  have hpieces : w.Runs runner may (readPieces binary
      (fun (pieces : List Bytes) piece => piece :: pieces)
      ((statusOf w.machine.now (.directory mode)).size + 1) 0 []) ([], .error .isDirectory) w := by
    rw [readPieces]
    exact (runs_bind _ _ _).mpr ⟨_, w, hread, rfl, rfl⟩
  let header := entryHeader field (statusOf w.machine.now (.directory mode))
  refine ⟨before ++ header.toBytes ++ ([] : List Bytes).reverse.flatten, .isDirectory,
    (runs_bind _ _ _).mpr ⟨_, w, hstatus, ?_⟩⟩
  simp only [htar]
  exact (runs_bind _ _ _).mpr ⟨_, w, hpieces, rfl, rfl⟩

theorem writeArchive_directory {entry : String} {fields : Bytes × Bytes} {mode : Nat}
    {content : Bytes} (hh : w.machine.files.Holds file content)
    (hbinary : w.machine.files.openNode? binary = some (.directory mode))
    (htar : Tar.place entry = .ok fields) :
    ∃ e w', w.Runs runner may (writeArchive file binary entry).run (.error e) w' := by
  obtain ⟨records, e, hcollect⟩ : ∃ records e, w.Runs runner may (collectRecords binary entry)
      (records, .error e) w := collectRecords_directory hbinary htar
  obtain ⟨w', hwrite, -⟩ : ∃ w', w.Runs runner may
      (writeAll file (Gzip.compress (records ++ Tar.terminator))).run (.ok ()) w' ∧ _ :=
    writeAll_ends hh
  exact ⟨e, w', hcollect.lifted (hwrite.lifted ⟨rfl, rfl⟩)⟩

/-- A forced packaging of a directory drops the package that was there, and nothing else. -/
theorem packInto_drops {verified : VerifiedArtifact} {replaced : Bool} {origin : Location}
    {mode : Nat} {fields : Bytes × Bytes} (hc : settings.collision = .overwrite)
    (hname : name = verified.artifact.request.platform.packageName settings.product)
    (hn : IsName name)
    (hbinary : w.machine.files.findNode w.machine.directory verified.artifact.path
      = .ok (origin, .directory mode)) (hreads : ownerReads mode = true)
    (htar : Tar.place (verified.artifact.request.os.executable settings.product) = .ok fields)
    (hreach : w.machine.files.Reaches w.machine.directory settings.packagesDir place)
    (hr : refuse? (settings.packagesDir.join name) = none)
    (hsize : name.utf8ByteSize ≤ maxNameBytes) (hchange : w.machine.files.Changeable place)
    (hnode : w.machine.files.node? (place ++ [name]) = some (.file data))
    (hwrites : ownerWrites data.mode = true) :
    ∃ e w', w.Runs runner may (packInto settings verified replaced).run (.error e) w' ∧
      w'.machine.files.node? (place ++ [name]) = none ∧
      SameOff (place ++ [name]) w.machine.files w'.machine.files := by
  subst hname
  have hopen : w.Runs runner may (Program.file (.openRead verified.artifact.path))
      (.ok ⟨origin, 0⟩) w := by
    have hreply : (w.machine.reply (.openRead verified.artifact.path)).1 = .ok ⟨origin, 0⟩ := by
      simp [Machine.reply, FileSystem.openRead, hbinary, Node.mode, hreads, serialOf]
    exact hreply ▸ runs_ask (a := .openRead verified.artifact.path) trivial
  obtain ⟨file, w₁, hcreate, hstays, hopens, -⟩ : ∃ file w₁,
      w.Runs runner may (createFile settings (packagePath settings verified.artifact.request)).run
        (.ok file) w₁ ∧ _ :=
    createFile_ends ⟨hn, hsize, hreach, hr, Or.inr ⟨hc, data, hnode, hwrites⟩⟩
  have hkeeps : Keeps w.machine.files w₁.machine.files :=
    hopens.sameOff.keeps (by simp [hnode, Node.leads])
  have horigin := node?_of_findNode hbinary
  have hdirectory : w₁.machine.files.openNode? ⟨origin, 0⟩ = some (.directory mode) := by
    unfold openNode?
    rw [hopens.sameOff origin (by rintro rfl; simp [hnode] at horigin), horigin]
    rfl
  -- The binary opens but cannot be read, so the archive fails with the package half written.
  obtain ⟨e, w₂, harchive⟩ : ∃ e w₂, w₁.Runs runner may (writeArchive file ⟨origin, 0⟩
      (verified.artifact.request.os.executable settings.product)).run (.error e) w₂ :=
    writeArchive_directory hopens.holds hdirectory htar
  obtain ⟨hsame, content, hholds, -⟩ := runs_writeArchive hopens.holds harchive
  have hp := hopens.place_eq
  rw [hp] at hsame
  have hkeeps₂ := hkeeps.trans (hsame.touches hopens.holds hp).keeps
  have hreach₂ := hreach.keeps hkeeps₂
  rw [← hstays.directory, ← (harchive.stays (writeArchive_only _ _ _)).2.directory] at hreach₂
  obtain ⟨data₂, hnode₂, -⟩ := hholds
  rw [hp] at hnode₂
  -- The half-written package is still where it was opened, so the release removes it.
  have hremoved := remove_of_reaches hn hreach₂ hr hsize (hchange.keeps hkeeps₂) hnode₂ rfl
  let erased := w₂.machine.files.erase
    (place ++ [verified.artifact.request.platform.packageName settings.product])
  let w₃ : World σ := { w₂ with machine := { w₂.machine with files := erased } }
  let path := packagePath settings verified.artifact.request
  have hremove : w₂.Runs runner may (Program.file (.remove path)) (.ok ()) w₃ := by
    rw [runs_file]
    refine ⟨_, Or.inl ?_, rfl⟩
    have hpath : path = settings.packagesDir.join
        (verified.artifact.request.platform.packageName settings.product) := rfl
    simp only [Machine.reply, hpath, hremoved, Machine.change, erased]
  have hfill : w₁.Runs runner may (fillPackage settings file ⟨origin, 0⟩ verified.artifact.path path
      (verified.artifact.request.platform.packageName settings.product)
      (verified.artifact.request.os.executable settings.product)).run
        (.error (.archive verified.artifact.path path e)) w₂ :=
    (runs_stage_bind _ _ _).mpr (Or.inr ⟨_, runs_orElse_error.mpr ⟨e, rfl, harchive⟩, rfl⟩)
  refine ⟨.archive verified.artifact.path path e,
    { w₃ with messages := .event (.removedIncompletePackage path) :: w₃.messages }, ?_,
    node?_erase_self (not_fixed_append hn.ne_empty), ?_⟩
  · rw [packInto]
    exact (runs_orElse_ok.mpr hopen).next (hcreate.next (hfill.lifted
      (hremove.lifted (runs_note_bind.mpr ⟨rfl, rfl⟩))))
  · exact (hopens.sameOff.trans hsame).trans (fun _ hq => node?_erase_of_ne hq)

/-! ## Processes -/

theorem launch_ends {i : Invocation} {output : ProcessOutput} {m : Machine} {s : σ}
    (h : runner i w.machine w.runner = (.ok output, m, s)) :
    ∃ w', w.Runs runner may (launch i).run (.ok output) w' ∧ w'.machine = m ∧ w'.runner = s := by
  let begun : World σ := { w with messages := .event (.spawningProcess i.commandLine) :: w.messages }
  let called : World σ := { begun with machine := m, runner := s, started := i :: w.started }
  let ended : World σ :=
    { called with messages := .event (.processExited i.commandLine output.code) :: called.messages }
  have hstart : begun.Runs runner may (Stage.attempt (Program.perform (.start i))).run
      (.ok output) called := by
    rw [runs_attempt, runs_perform]
    simp only [Answers, reply, begun, h, called]
  have hrest : ∃ w', ended.Runs runner may (do
      if output.stderr ≠ [] then Stage.note (.processStderr output.stderrText)
      pure output : Stage SystemError ProcessOutput).run (.ok output) w' ∧
        w'.machine = m ∧ w'.runner = s := by
    split
    · exact ⟨_, runs_note_pure, rfl, rfl⟩
    · exact ⟨ended, ⟨rfl, rfl⟩, rfl, rfl⟩
  obtain ⟨w', hend, hm, hs⟩ := hrest
  exact ⟨w', runs_note_bind.mpr (hstart.next (runs_note_bind.mpr hend)), hm, hs⟩

theorem relocate_ends {os : Os} {moved : FileSystem × Location × Location}
    (hregular : w.machine.files.satisfies w.machine.directory (producedPath settings os)
      Node.isRegular = true)
    (hmoved : w.machine.files.renameWith w.machine.directory (producedPath settings os)
      (canonicalPath settings os) = .ok moved) :
    ∃ path w', w.Runs runner may (relocate settings os).run (.ok path) w' ∧
      w'.machine = (w.machine.renamed (.ok moved)).2 ∧ w'.runner = w.runner := by
  let after : World σ := { w with machine := (w.machine.renamed (.ok moved)).2 }
  have hask : w.Runs runner may (Program.file (.isRegularFile (producedPath settings os))) true w :=
    hregular ▸ runs_ask (a := .isRegularFile (producedPath settings os)) trivial
  have hrename : w.Runs runner may (Stage.attempt (Program.file
      (.rename (producedPath settings os) (canonicalPath settings os)))).run (.ok ()) after := by
    rw [runs_attempt, runs_file]
    refine ⟨_, Or.inl ?_, rfl⟩
    obtain ⟨files, origin, destination⟩ := moved
    simp only [Machine.reply, hmoved, Machine.renamed]
    split <;> rfl
  have hcanon : after.Runs runner may (Program.file (.canonicalize (canonicalPath settings os))) _
      after := runs_ask trivial
  generalize (after.machine.reply (.canonicalize (canonicalPath settings os))).1 = reply at hcanon
  refine ⟨reply.toOption.getD (canonicalPath settings os), after, ?_, rfl, rfl⟩
  rw [relocate]
  refine hask.lifted ?_
  rw [if_pos rfl]
  refine (runs_orElse_ok.mpr hrename).next (hcanon.lifted ?_)
  cases reply <;> exact ⟨rfl, rfl⟩

theorem build_ends {request : BuildRequest} {output : ProcessOutput} {m : Machine} {s : σ}
    {moved : FileSystem × Location × Location}
    (hcall : runner (publishInvocation toolchain settings request) w.machine w.runner
      = (.ok output, m, s)) (hcode : output.code = some 0)
    (hregular : m.files.satisfies m.directory (producedPath settings request.os) Node.isRegular = true)
    (hmoved : m.files.renameWith m.directory (producedPath settings request.os)
      (canonicalPath settings request.os) = .ok moved) :
    ∃ path w', w.Runs runner may (build toolchain settings request).run (.ok ⟨path, request⟩) w' ∧
      w'.machine = (m.renamed (.ok moved)).2 ∧ w'.runner = s := by
  let command := (publishInvocation toolchain settings request).commandLine
  let told : List Message := .event (.invokingToolchain command)
    :: .event (.building request.arch request.version) :: w.messages
  obtain ⟨w₁, hlaunch, rfl, rfl⟩ : ∃ w₁, World.Runs runner may { w with messages := told }
      (launch (publishInvocation toolchain settings request)).run (.ok output) w₁ ∧
        w₁.machine = m ∧ w₁.runner = s := launch_ends hcall
  obtain ⟨path, w₂, hrelocate, hm, hs⟩ : ∃ path w₂, w₁.Runs runner may
      (relocate settings request.os).run (.ok path) w₂ ∧ _ := relocate_ends hregular hmoved
  have hsuccess : output.success = true := by simp [ProcessOutput.success, hcode]
  refine ⟨path, { w₂ with messages := .event (.buildComplete path) :: w₂.messages }, ?_, hm, hs⟩
  rw [build, runs_note_bind]
  refine runs_note_bind.mpr ((runs_orElse_ok.mpr hlaunch).next ?_)
  rw [if_pos hsuccess]
  exact hrelocate.next runs_note_pure

/-! ## Versions -/

theorem readFirstLine_ends (fuel offset : Nat) (read : Bytes)
    (hopen : w.machine.files.openNode? file = some (.file data)) :
    ∃ line, w.Runs runner may (readFirstLine file fuel offset read) (.ok line) w := by
  induction fuel generalizing offset read with
  | zero => exact ⟨_, rfl, rfl⟩
  | succ fuel ih =>
    obtain ⟨piece, hread⟩ : ∃ piece, w.Runs runner may
        (Program.file (.read file offset pieceSize)) (.ok piece) w := by
      have hreply : (w.machine.reply (.read file offset pieceSize)).1
          = .ok ((data.content.drop offset).take pieceSize) := by
        simp only [Machine.reply, FileSystem.read, hopen]
      exact ⟨_, hreply ▸ runs_ask (a := .read file offset pieceSize) trivial⟩
    rw [readFirstLine]
    cases piece with
    | nil => exact ⟨read, (runs_bind _ _ _).mpr ⟨_, w, hread, rfl, rfl⟩⟩
    | cons b rest =>
      by_cases hlf : (b :: rest).contains lineFeed = true
      · refine ⟨firstLine (read ++ b :: rest), (runs_bind _ _ _).mpr ⟨_, w, hread, ?_⟩⟩
        simp only [hlf, if_true]
        exact ⟨rfl, rfl⟩
      · obtain ⟨line, hrest⟩ := ih (offset + (b :: rest).length) (read ++ b :: rest)
        refine ⟨line, (runs_bind _ _ _).mpr ⟨_, w, hread, ?_⟩⟩
        simp only [hlf]
        exact hrest

theorem resolveVersion_ends {path : Path}
    (hfind : w.machine.files.findNode w.machine.directory path = .ok (place, .file data))
    (hreads : ownerReads data.mode = true) :
    ∃ w', w.Runs runner may (resolveVersion path).run
        (versionOfLine path (firstLine data.content)) w' ∧
      w'.machine = w.machine ∧ w'.runner = w.runner := by
  have hfile : w.machine.files.openNode? ⟨place, data.serial⟩ = some (.file data) :=
    openNode?_eq.mpr ⟨node?_of_findNode hfind, rfl⟩
  have hopen : w.Runs runner may (Stage.attempt (Program.file (.openRead path))).run
      (.ok ⟨place, data.serial⟩) w := by
    have hreply : (w.machine.reply (.openRead path)).1 = .ok ⟨place, data.serial⟩ := by
      simp [Machine.reply, FileSystem.openRead, hfind, Node.mode, hreads, serialOf]
    rw [runs_attempt]
    exact hreply ▸ runs_ask trivial
  have hstatus : w.Runs runner may
      (Stage.attempt (Program.file (.describeOpen ⟨place, data.serial⟩))).run _ w :=
    describeOpen_reply hfile
  obtain ⟨line, hline⟩ : ∃ line, w.Runs runner may (Stage.attempt (readFirstLine
      ⟨place, data.serial⟩ ((statusOf w.machine.now (.file data)).size + 1) 0 [])).run (.ok line) w :=
    readFirstLine_ends _ _ _ hfile
  obtain rfl : line = firstLine data.content :=
    runs_readFirstLine 0 (holds_of_openNode? hfile) (Nat.lt_succ_self _) (by simp) hline
  suffices ∃ w', w.Runs runner may
      (Stage.ofExcept (versionOfLine path (firstLine data.content)) >>= fun version => do
        Stage.note (.resolvedVersion path version)
        pure version).run (versionOfLine path (firstLine data.content)) w' ∧
      w'.machine = w.machine ∧ w'.runner = w.runner by
    obtain ⟨w', hrest, hsame⟩ := this
    refine ⟨w', ?_, hsame⟩
    rw [resolveVersion]
    exact (runs_orElse_ok.mpr hopen).next ((runs_orElse_ok.mpr hstatus).next
      ((runs_orElse_ok.mpr hline).next hrest))
  cases hversion : versionOfLine path (firstLine data.content) with
  | error e => exact ⟨w, (runs_stage_bind _ _ _).mpr (Or.inr ⟨e, ⟨rfl, rfl⟩, rfl⟩), rfl, rfl⟩
  | ok version =>
    refine ⟨{ w with messages := .event (.resolvedVersion path version) :: w.messages }, ?_, rfl,
      rfl⟩
    exact World.Runs.next (s := Stage.ofExcept (.ok version)) ⟨rfl, rfl⟩ runs_note_pure

/-! ## Tests -/

theorem verify_ends {artifact : Artifact} {formatted rejected : ProcessOutput} {m m' : Machine}
    {s s' : σ}
    (hformat : runner (formatInvocation artifact.path) w.machine w.runner = (.ok formatted, m, s))
    (hright : judgeFormat artifact.path formatted = .ok ())
    (hstrict : runner (strictInvocation artifact.path) m s = (.ok rejected, m', s'))
    (hwrong : judgeStrict artifact.path rejected = .ok ()) :
    ∃ outcomes w', w.Runs runner may (verify artifact).run (.ok ⟨artifact, outcomes⟩) w' ∧
      w'.machine = m' ∧ w'.runner = s' := by
  let told : List Message :=
    .event (.runningSmokeTest .format) :: .event (.testing artifact.path) :: w.messages
  obtain ⟨w₁, hlaunch, rfl, rfl⟩ : ∃ w₁, World.Runs runner may { w with messages := told }
      (launch (formatInvocation artifact.path)).run (.ok formatted) w₁ ∧
        w₁.machine = m ∧ w₁.runner = s := launch_ends hformat
  let told' : List Message := .event (.runningSmokeTest .strictExitCode) :: w₁.messages
  obtain ⟨w₂, hlaunch', rfl, rfl⟩ : ∃ w₂, World.Runs runner may { w₁ with messages := told' }
      (launch (strictInvocation artifact.path)).run (.ok rejected) w₂ ∧
        w₂.machine = m' ∧ w₂.runner = s' := launch_ends hstrict
  let rejected' : List Message := .event (.strictModeRejected rejected.code) :: w₂.messages
  refine ⟨[passedOutcome .format formatted, passedOutcome .strictExitCode rejected],
    { w₂ with messages := .event (.smokeTestsPassed 2) :: rejected' }, ?_, rfl, rfl⟩
  have hformats : World.Runs runner may
      { w with messages := .event (.testing artifact.path) :: w.messages }
      (runFormatTest artifact.path).run (.ok (passedOutcome .format formatted)) w₁ := by
    refine runs_note_bind.mpr ((runs_orElse_ok.mpr hlaunch).next ?_)
    rw [hright]
    exact World.Runs.next (s := Stage.ofExcept (.ok ())) ⟨rfl, rfl⟩ ⟨rfl, rfl⟩
  have hrejects : w₁.Runs runner may (runStrictTest artifact.path).run
      (.ok (passedOutcome .strictExitCode rejected)) { w₂ with messages := rejected' } := by
    refine runs_note_bind.mpr ((runs_orElse_ok.mpr hlaunch').next ?_)
    rw [hwrong]
    exact World.Runs.next (s := Stage.ofExcept (.ok ())) ⟨rfl, rfl⟩ runs_note_pure
  exact runs_note_bind.mpr (hformats.next (hrejects.next runs_note_pure))

/-! ## The preflight -/

theorem firstExisting_ends {paths : List Path}
    (h : ∀ path ∈ paths, w.machine.files.exists? w.machine.directory path = false) :
    w.Runs runner may (firstExisting paths) none w := by
  induction paths with
  | nil => exact ⟨rfl, rfl⟩
  | cons path rest ih =>
    have hask : w.Runs runner may (Program.file (.pathExists path)) false w :=
      h path List.mem_cons_self ▸ runs_ask (a := .pathExists path) trivial
    rw [firstExisting]
    exact (runs_bind _ _ _).mpr
      ⟨false, w, hask, ih (fun other ho => h other (List.mem_cons_of_mem _ ho))⟩

theorem ensureAvailable_ends {request : BuildRequest}
    (h : settings.collision = .fail → ∀ path ∈ packageTargets settings request,
      w.machine.files.exists? w.machine.directory path = false) :
    w.Runs runner may (ensureAvailable settings request).run (.ok ()) w := by
  unfold ensureAvailable
  cases hc : settings.collision with
  | overwrite => exact ⟨rfl, rfl⟩
  | fail => exact (firstExisting_ends (h hc)).lifted ⟨rfl, rfl⟩

/-! ## Directories -/

-- The lineage of a path that is given in part takes long to unfold.
seal lineage in
theorem makeDirectories_ends (hn : IsName name)
    (hreach : w.machine.files.Reaches w.machine.directory dir place)
    (hr : refuse? (dir.join name) = none) (hsize : name.utf8ByteSize ≤ maxNameBytes)
    (hchange : w.machine.files.Changeable place)
    (hthere : w.machine.files.node? (place ++ [name]) = none ∨
      w.machine.files.node? (place ++ [name]) = some (.directory newDirectoryMode)) :
    ∃ w', w.Runs runner may (makeDirectories (dir.join name)).run (.ok ()) w' ∧
      w.machine.Stays w'.machine ∧ w'.runner = w.runner ∧
      w'.machine.files.node? (place ++ [name]) = some (.directory newDirectoryMode) ∧
      SameOff (place ++ [name]) w.machine.files w'.machine.files := by
  obtain ⟨hgone, mode, hdir, hwrites⟩ := hchange
  have hmade := hreach.makeAll hn hsize hgone hdir (by rcases hthere with h | h <;> simp [h])
  rw [hr] at hmade
  rcases hthere with hnone | hthere
  · rw [hnone] at hmade
    dsimp only at hmade
    rw [if_pos hwrites] at hmade
    exact ⟨_, makeDirectories_runs hmade, rfl, rfl, node?_put_self (not_fixed_of_none hnone),
      fun _ hq => node?_put_of_ne hq⟩
  · rw [hthere] at hmade
    dsimp only at hmade
    exact ⟨_, makeDirectories_runs hmade, rfl, rfl, hthere, SameOff.refl _ _⟩

/-! ## Releases -/

/-- What a release ends with whose packaging ended with `made`. -/
def outcomeOf (request : BuildRequest) (artifact : Artifact) (verified : VerifiedArtifact)
    (made : Except PackagingError Package) : Except ReleaseError Report :=
  (made.mapError ReleaseError.packaging).map (reportOf request artifact verified)

/-- Stages that go well one after another make up a release, which ends as its packaging does. -/
theorem release_ends {os : Os} {version : String} {artifact : Artifact}
    {verified : VerifiedArtifact} {made : Except PackagingError Package} {w₂ w₃ w₄ w₅ : World σ}
    (hversion : w.Runs runner may (resolveVersion settings.versionFile).run (.ok version) w₁)
    (hfree : w₁.Runs runner may (ensureAvailable settings ⟨arch, version, os⟩).run (.ok ()) w₂)
    (hbuild : w₂.Runs runner may (build toolchain settings ⟨arch, version, os⟩).run
      (.ok artifact) w₃)
    (hverify : w₃.Runs runner may (verify artifact).run (.ok verified) w₄)
    (hpackage : w₄.Runs runner may (Slipway.package settings verified).run made w₅) :
    ∃ w', w.Runs runner may (release settings toolchain (.ok os) arch).run
        (outcomeOf ⟨arch, version, os⟩ artifact verified made) w' ∧
      w'.machine = w₅.machine := by
  let told : List Message := .event (.startingRelease version arch os) :: w₁.messages
  obtain ⟨v₂, hfree, hm₂, hr₂⟩ : ∃ v₂, World.Runs runner may { w₁ with messages := told }
      (ensureAvailable settings ⟨arch, version, os⟩).run (.ok ()) v₂ ∧ _ := hfree.elsewhere rfl rfl
  obtain ⟨v₃, hbuild, hm₃, hr₃⟩ := hbuild.elsewhere hm₂ hr₂
  obtain ⟨v₄, hverify, hm₄, hr₄⟩ := hverify.elsewhere hm₃ hr₃
  obtain ⟨v₅, hpackage, hm₅, hr₅⟩ := hpackage.elsewhere hm₄ hr₄
  have hstages : ∀ {r : Except ReleaseError Report} {w' : World σ}, v₄.Runs runner may
      ((Slipway.package settings verified).orElse ReleaseError.packaging >>= fun package =>
        Stage.note (.releaseComplete package.path) >>= fun _ =>
          pure (reportOf ⟨arch, version, os⟩ artifact verified package)).run r w' →
      w.Runs runner may (release settings toolchain (.ok os) arch).run r w' := by
    intro r w' h
    rw [release_supported]
    exact (runs_orElse_ok.mpr hversion).next (runs_note_bind.mpr ((runs_orElse_ok.mpr hfree).next
      ((runs_orElse_ok.mpr hbuild).next ((runs_orElse_ok.mpr hverify).next h))))
  cases made with
  | ok package =>
    exact ⟨_, hstages ((runs_orElse_ok.mpr hpackage).next runs_note_pure), hm₅⟩
  | error e =>
    exact ⟨v₅, hstages ((runs_stage_bind _ _ _).mpr
      (Or.inr ⟨_, runs_orElse_error.mpr ⟨e, rfl, hpackage⟩, rfl⟩)), hm₅⟩

end Slipway
