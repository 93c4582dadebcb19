import Slipway.Proofs.Packaging
import Slipway.Proofs.Preflight

/-!
# Packaging that fails

A packaging that fails takes back what it has done, whatever fails and wherever the package is: new
directories stay behind, and nothing else.
-/

namespace Slipway

open FileSystem World

variable {σ : Type} {runner : Runner σ} {may : Refusals} {w w' : World σ} {settings : Settings}
  {fs fs' : FileSystem} {here place : Location} {dir : Path} {name : String} {file binary : Handle}

/-! ## Where a package is -/

theorem isName_ofList {chars : List Char} (hslash : '/' ∉ chars) (hlen : 2 < chars.length) :
    IsName (String.ofList chars) := by
  refine ⟨?_, ?_, ?_, by simpa using hslash⟩ <;>
  · intro heq
    have hl := congrArg (fun s => s.toList.length) heq
    simp only [String.toList_ofList] at hl
    rw [hl] at hlen
    revert hlen
    decide

/-- A path that ends in a part of a name is that of a name in a directory. -/
theorem exists_join_of_ending {path : Path} {front back : List Char}
    (h : path.text.toList = front ++ back) (hslash : '/' ∉ back) (hlen : 2 < back.length) :
    ∃ (dir : Path) (name : String), IsName name ∧ path = dir.join name := by
  have hjoin : ∀ (before : List Char) {last : List Char}, before ++ last = path.text.toList →
      IsName (String.ofList last) → (before = [] ∨ ∃ more, before = more ++ ['/']) →
      path = Path.join ⟨String.ofList before⟩ (String.ofList last) := by
    intro before last htext hname hend
    apply Path.eq_of_toList
    unfold Path.join
    rw [if_neg hname.not_absolute, if_pos]
    · simp [htext]
    · rcases hend with rfl | ⟨more, rfl⟩ <;> simp [Path.separator]
  by_cases hmem : '/' ∈ front
  · -- The last separator ends the directory.
    obtain ⟨after, before, hsplit, hafter⟩ :=
      List.eq_append_cons_of_mem (List.mem_reverse.mpr hmem)
    have hfront : front = before.reverse ++ ['/'] ++ after.reverse := by
      rw [← List.reverse_reverse front, hsplit]
      simp
    have hname : IsName (String.ofList (after.reverse ++ back)) :=
      isName_ofList (by simp [hafter, hslash]) (by rw [List.length_append]; omega)
    refine ⟨_, _, hname, hjoin (before.reverse ++ ['/']) ?_ hname (Or.inr ⟨_, rfl⟩)⟩
    rw [h, hfront, List.append_assoc _ _ back]
  · have hname : IsName (String.ofList (front ++ back)) :=
      isName_ofList (by simp [hmem, hslash]) (by rw [List.length_append]; omega)
    exact ⟨_, _, hname, hjoin [] (by rw [h, List.nil_append]) hname (Or.inl rfl)⟩

theorem packageName_eq (product : String) (p : Platform) :
    ∃ back, (p.packageName product).toList = product.toList ++ back ∧ '/' ∉ back ∧
      2 < back.length := by
  refine ⟨("_" ++ p.qualifier ++ ".tar.gz").toList, ?_, ?_⟩
  · simp [Platform.packageName, String.append_assoc]
  · obtain ⟨os, arch⟩ := p
    cases os <;> cases arch <;> decide

theorem exists_packageName_join (product : String) (p : Platform) :
    ∃ (dir : Path) (name : String), IsName name ∧
      (⟨p.packageName product⟩ : Path) = dir.join name := by
  obtain ⟨back, hname, hslash, hlen⟩ := packageName_eq product p
  exact exists_join_of_ending hname hslash hlen

/-- A package is a name in a directory, whatever its product is called. -/
theorem exists_packagePath_join (settings : Settings) (request : BuildRequest) :
    ∃ (dir : Path) (name : String), IsName name ∧ packagePath settings request = dir.join name := by
  obtain ⟨back, hname, hslash, hlen⟩ := packageName_eq settings.product request.platform
  have hends : ∃ front, (packagePath settings request).text.toList = front ++ back := by
    unfold packagePath
    by_cases habs : Path.isAbsolute ⟨request.platform.packageName settings.product⟩
    · exact ⟨settings.product.toList, by rw [Path.join, if_pos habs, hname]⟩
    · rcases Path.toList_join (p := settings.packagesDir) habs with ⟨ht, -⟩ | ⟨ht, -⟩
      · refine ⟨settings.packagesDir.text.toList ++ settings.product.toList, ?_⟩
        rw [ht, hname, List.append_assoc]
      · refine ⟨settings.packagesDir.text.toList ++ '/' :: settings.product.toList, ?_⟩
        rw [ht, hname, List.append_assoc, List.cons_append]
  obtain ⟨front, hfront⟩ := hends
  exact exists_join_of_ending hfront hslash hlen

theorem placeOf_join (hn : IsName name) (here : Location) (dir : Path) :
    placeOf here (dir.join name) = placeOf here dir ++ [name] := by
  unfold placeOf
  rw [hn.startOf_join, hn.stepsOf_join, landing_append]
  simp [landing, stepped, hn.ne_empty, hn.ne_dot, hn.ne_dots]

theorem trailOf_join (hn : IsName name) (here : Location) (dir : Path) :
    trailOf here (dir.join name) = trailOf here dir ++ [placeOf here dir ++ [name]] := by
  unfold trailOf placeOf
  rw [hn.startOf_join, hn.stepsOf_join, trail_append]
  simp [trail, stepped, hn.ne_empty, hn.ne_dot, hn.ne_dots]

theorem placeOf_sameWay {up : Path} (h : up.SameWay dir) (here : Location) :
    placeOf here up = placeOf here dir := by
  obtain ⟨habs, dots, hsteps, hdots⟩ := h
  unfold placeOf startOf
  rw [habs, hsteps, landing_append, landing_dots hdots]

theorem FileSystem.Unlinked.of_join (hn : IsName name) (h : fs.Unlinked here (dir.join name)) :
    fs.Unlinked here dir ∧ ∀ target, fs.node? (placeOf here dir ++ [name]) ≠ some (.link target) := by
  unfold Unlinked at h ⊢
  rw [trailOf_join hn] at h
  exact ⟨fun q hq => h q (List.mem_append_left _ hq),
    h _ (List.mem_append_right _ List.mem_cons_self)⟩

/-! ## Open files -/

/-- What stands at the place is neither a directory nor a link. -/
def Occupied (fs : FileSystem) (place : Location) : Prop :=
  ∃ node, fs.node? place = some node ∧ ¬ node.leads

theorem write_occupied {offset : Nat} {bytes : Bytes} {now : Int}
    (h : fs.write file offset bytes now = .ok fs') (ho : Occupied fs file.place) :
    Occupied fs' file.place := by
  unfold FileSystem.write at h
  split at h
  · split_ifs at h
    obtain rfl := Except.ok.inj h
    exact ho
  · rename_i data hopen
    obtain ⟨hnode, hserial⟩ := openNode?_eq.mp hopen
    obtain rfl := Except.ok.inj h
    exact ⟨_, node?_updateOpen_self hnode hserial, id⟩
  · obtain rfl := Except.ok.inj h
    exact ho

/-- The actions that ask, and the writes to one open file. -/
def Action.Fills (file : Handle) (a : Action) : Prop :=
  a.Asks ∨ ∃ offset bytes, a = .file (.write file offset bytes)

theorem writePieces_fills (file : Handle) (offset : Nat) (pieces : List Bytes) :
    (writePieces file offset pieces).run.Only (Action.Fills file) := by
  induction pieces generalizing offset with
  | nil => exact Stage.only_pure _
  | cons piece rest ih =>
    exact Stage.only_bind (only_file (Or.inr ⟨_, _, rfl⟩)) (fun _ => ih _)

theorem writeArchive_fills (file binary : Handle) (entry : String) :
    (writeArchive file binary entry).run.Only (Action.Fills file) := by
  refine Stage.only_bind (Stage.only_lift ((collectRecords_only _ _).mono
    fun _ h => Or.inl h.asks)) (fun found => ?_)
  obtain ⟨records, _ | ⟨⟩⟩ := found
  · exact Stage.only_bind (Stage.only_lift (writePieces_fills _ _ _)) (fun _ => Stage.only_throw _)
  · exact Stage.only_bind (Stage.only_lift (writePieces_fills _ _ _))
      (fun _ => Stage.only_ofExcept _)

/-- The file systems differ at the place at most, and no directory or link is concerned. -/
structure Refilled (place : Location) (m m' : Machine) : Prop where
  directory : m'.directory = m.directory
  sameOff : SameOff place m.files m'.files
  occupied : Occupied m'.files place

theorem Refilled.touches {m m' : Machine} (h : Refilled place m m') (ho : Occupied m.files place) :
    Touches place m.files m'.files := by
  obtain ⟨node, hnode, hleads⟩ := ho
  refine ⟨h.sameOff, h.sameOff.keeps (fun other hother => ?_)⟩
  rw [hnode, Option.some.injEq] at hother
  exact hother ▸ hleads

theorem runs_fills {α : Type} {p : Program α} {r : α} (hp : p.Only (Action.Fills file))
    (h : w.Runs runner may p r w') (ho : Occupied w.machine.files file.place) :
    Refilled file.place w.machine w'.machine := by
  have hall := h.only (R := fun w w' => Occupied w.machine.files file.place →
      Refilled file.place w.machine w'.machine) hp (fun w ho => ⟨rfl, SameOff.refl _ _, ho⟩)
    (fun h h' ho => by
      obtain ⟨hdir, hoff, ho'⟩ := h ho
      obtain ⟨hdir', hoff', ho''⟩ := h' ho'
      exact ⟨hdir'.trans hdir, hoff.trans hoff', ho''⟩)
    (fun {a w₁ r w₂} ha hw ho => by
      rcases ha with hasks | ⟨offset, bytes, rfl⟩
      · have hsame := (hw.untouched hasks).1
        exact ⟨by rw [hsame], by rw [hsame]; exact SameOff.refl _ _, by rwa [hsame]⟩
      · obtain ⟨m, hm, rfl⟩ := hw
        rcases Machine.performs_write hm with ⟨-, rfl⟩ | ⟨kept, files, -, -, hfs, rfl⟩
        · exact ⟨rfl, SameOff.refl _ _, ho⟩
        · exact ⟨rfl, write_sameOff hfs, write_occupied hfs ho⟩)
  exact hall ho

/-! ## Opening a target -/

/-- A name in a directory was opened for writing, whatever stood there. -/
structure Taken (settings : Settings) (fs : FileSystem) (here : Location) (dir : Path)
    (name : String) (place : Location) (fs' : FileSystem) (file : Handle) : Prop where
  reaches : fs.Reaches here dir place
  refused : refuse? (dir.join name) = none
  size : name.utf8ByteSize ≤ maxNameBytes
  before : ∀ node, fs.node? (place ++ [name]) = some node → ¬ node.leads
  fresh : settings.collision = .fail → fs.node? (place ++ [name]) = none
  writable : ∀ node, fs.node? (place ++ [name]) = some node →
    (∃ device, node = .device device) ∨ ∃ data, node = .file data ∧ ownerWrites data.mode = true
  /-- What is created can be removed again. -/
  changeable : fs.node? (place ++ [name]) = none → fs.Changeable place
  place_eq : file.place = place ++ [name]
  sameOff : SameOff (place ++ [name]) fs fs'
  occupied : Occupied fs' (place ++ [name])

theorem Taken.touches (h : Taken settings fs here dir name place fs' file) :
    Touches (place ++ [name]) fs fs' :=
  ⟨h.sameOff, h.sameOff.keeps h.before⟩

theorem createAt_takes {now : Int} (hempty : name ≠ "")
    (h : fs.createAt (place ++ [name]) newFileMode now = .ok (fs', file)) :
    fs.Changeable place ∧ file.place = place ++ [name] ∧ SameOff (place ++ [name]) fs fs' ∧
      Occupied fs' (place ++ [name]) := by
  have hfixed : ¬ Fixed (place ++ [name]) := not_fixed_append hempty
  have hopens : Opens fs (place ++ [name]) (fs.createFile (place ++ [name]) newFileMode now).1
      (fs.createFile (place ++ [name]) newFileMode now).2 := opens_createFile hfixed
  unfold createAt at h
  rw [List.dropLast_concat] at h
  split at h
  · rename_i mode hdir
    split_ifs at h with hgone hwrites
    obtain ⟨rfl, rfl⟩ := Prod.mk.inj (Except.ok.inj h)
    obtain ⟨data, hdata, -⟩ := hopens.holds
    exact ⟨⟨by simpa using hgone, mode, hdir, hwrites⟩, hopens.place_eq, hopens.sameOff,
      _, hdata, id⟩
  · simp at h

theorem openExisting_takes {node : Node} {now : Int} (hnode : fs.node? place = some node)
    (h : fs.openExisting place node now true = .ok (fs', file)) :
    ¬ node.leads ∧
      ((∃ device, node = .device device) ∨ ∃ data, node = .file data ∧ ownerWrites data.mode = true) ∧
      file.place = place ∧ SameOff place fs fs' ∧ Occupied fs' place := by
  unfold openExisting at h
  split at h
  · simp at h
  · simp only [if_true] at h
    split_ifs at h with hwrites
    obtain ⟨rfl, rfl⟩ := Prod.mk.inj (Except.ok.inj h)
    exact ⟨id, Or.inr ⟨_, rfl, by simpa using hwrites⟩, rfl, fun _ hq => node?_put_of_ne hq,
      _, node?_put_self (not_fixed_of_ne_directory hnode (by simp)), id⟩
  · simp at h
  · obtain ⟨rfl, rfl⟩ := Prod.mk.inj (Except.ok.inj h)
    exact ⟨id, Or.inl ⟨_, rfl⟩, rfl, SameOff.refl _ _, _, hnode, id⟩
  · simp at h
  · simp at h

theorem runs_createFile_takes {r : Except PackagingError Handle} (hn : IsName name)
    (hl : w.machine.files.Unlinked w.machine.directory (dir.join name))
    (h : w.Runs runner may (createFile settings (dir.join name)).run r w') :
    (∃ e, r = .error e) ∧ w'.machine = w.machine ∨
      ∃ file, r = .ok file ∧ w'.machine.directory = w.machine.directory ∧
        Taken settings w.machine.files w.machine.directory dir name
          (placeOf w.machine.directory dir) w'.machine.files file := by
  obtain ⟨hdir, hlink⟩ := Unlinked.of_join hn hl
  rw [createFile, runs_orElse] at h
  obtain ⟨x, hopen, rfl⟩ := h
  rw [runs_attempt, runs_file] at hopen
  obtain ⟨m, hm, rfl⟩ := hopen
  rcases Machine.performs_openWrite hm with ⟨⟨e, rfl⟩, rfl⟩ | ⟨files, file, rfl, hfs, rfl⟩
  · exact Or.inl ⟨⟨_, rfl⟩, rfl⟩
  · refine Or.inr ⟨file, rfl, rfl, ?_⟩
    cases hc : settings.collision with
    | fail =>
      rw [hc] at hfs
      obtain ⟨hr, hsize, place, hreach, hchange, hnone, hopens⟩ := openFresh_join hn hfs
      obtain rfl := hreach.eq_placeOf hdir
      obtain ⟨data, hdata, -⟩ := hopens.holds
      rw [hopens.place_eq] at hdata
      exact ⟨hreach, hr, hsize, by simp [hnone], fun _ => hnone, by simp [hnone], fun _ => hchange,
        hopens.place_eq, hopens.sameOff, _, hdata, id⟩
    | overwrite =>
      rw [hc] at hfs
      simp only [CollisionPolicy.creation, FileSystem.openWrite, openAny, hn.endsInSeparator_join,
        Bool.false_eq_true, if_false] at hfs
      cases hfind : w.machine.files.find w.machine.directory (dir.join name) with
      | error e => simp [hfind] at hfs
      | ok spot =>
        obtain ⟨hr, hsize, place, hreach, hspot⟩ := find_join hn hfind
        obtain rfl := hreach.eq_placeOf hdir
        obtain rfl := hspot hlink
        rw [hfind] at hfs
        cases hnode : w.machine.files.node? (placeOf w.machine.directory dir ++ [name]) with
        | none =>
          simp only [hnode] at hfs
          obtain ⟨hchange, hplace, hoff, ho⟩ := createAt_takes hn.ne_empty hfs
          exact ⟨hreach, hr, hsize, by simp [hnode], by simp [hc], by simp [hnode], fun _ => hchange,
            hplace, hoff, ho⟩
        | some node =>
          simp only [hnode] at hfs
          obtain ⟨hleads, hwrites, hplace, hoff, ho⟩ := openExisting_takes hnode hfs
          exact ⟨hreach, hr, hsize, by simp [hnode, hleads], by simp [hc],
            fun other hother => Option.some.inj (hnode.symm.trans hother) ▸ hwrites,
            by simp [hnode], hplace, hoff, ho⟩

/-! ## Taking back -/

/-- What can be opened for writing at the place can be removed too. What is created can be removed
anyway. -/
def Removable (may : Refusals) (fs : FileSystem) (place : Location) : Prop :=
  (∀ path, ¬ may (.remove path)) ∧
    ∀ node, ¬ node.leads → fs.node? place = some node → fs.Changeable place.dropLast

theorem performs_remove_occupied {m m' : Machine} {r : Except SystemError Unit} (hn : IsName name)
    (hmay : ∀ path, ¬ may (.remove path)) (hreach : m.files.Reaches m.directory dir place)
    (hr : refuse? (dir.join name) = none) (hsize : name.utf8ByteSize ≤ maxNameBytes)
    (hchange : m.files.Changeable place) (ho : Occupied m.files (place ++ [name]))
    (h : m.Performs may (.remove (dir.join name)) r m') :
    m'.files.node? (place ++ [name]) = none ∧ SameOff (place ++ [name]) m.files m'.files ∧
      m'.directory = m.directory := by
  obtain ⟨node, hnode, hleads⟩ := ho
  have hfile : node.isDirectory = false := by
    cases node with
    | directory mode => exact absurd trivial hleads
    | _ => rfl
  have herase := remove_of_reaches hn hreach hr hsize hchange hnode hfile
  rcases Machine.performs_remove h with ⟨-, -, hrefused | ⟨e, he⟩⟩ | ⟨-, files, hfs, rfl⟩
  · exact absurd hrefused (hmay _)
  · simp [herase] at he
  · rw [herase] at hfs
    obtain rfl := Except.ok.inj hfs
    exact ⟨node?_erase_self (not_fixed_append hn.ne_empty), fun _ hq => node?_erase_of_ne hq, rfl⟩

/-- A target is as it was before, or was opened and then removed. -/
structure TakenBack (settings : Settings) (place : Location) (m m' : Machine) : Prop where
  directory : m'.directory = m.directory
  touches : Touches place m.files m'.files
  target : m'.files.node? place = m.files.node? place ∨
    m'.files.node? place = none ∧ (settings.collision = .fail → m.files.node? place = none)

theorem TakenBack.refl (settings : Settings) (place : Location) (m : Machine) :
    TakenBack settings place m m :=
  ⟨rfl, Touches.refl _ _, Or.inl rfl⟩

theorem Taken.removed {m m₁ m₂ m' : Machine} {r : Except SystemError Unit} (hn : IsName name)
    (hrem : Removable may m.files (place ++ [name]))
    (ht : Taken settings m.files m.directory dir name place m₁.files file)
    (hk : Keeps m₁.files m₂.files) (ho : Occupied m₂.files (place ++ [name]))
    (hdir : m₂.directory = m.directory) (h : m₂.Performs may (.remove (dir.join name)) r m') :
    m'.files.node? (place ++ [name]) = none ∧ SameOff (place ++ [name]) m₂.files m'.files ∧
      m'.directory = m.directory := by
  have hall := ht.touches.keeps.trans hk
  have hreach := ht.reaches.keeps hall
  rw [← hdir] at hreach ⊢
  have hchange : m.files.Changeable place := by
    cases hnode : m.files.node? (place ++ [name]) with
    | none => exact ht.changeable hnode
    | some node =>
      have hold := hrem.2 node (ht.before node hnode) hnode
      rwa [List.dropLast_concat] at hold
  exact performs_remove_occupied hn hrem.1 hreach ht.refused ht.size (hchange.keeps hall) ho h

theorem Taken.takenBack {m m₁ m₂ m' : Machine} {r : Except SystemError Unit} (hn : IsName name)
    (hrem : Removable may m.files (place ++ [name]))
    (ht : Taken settings m.files m.directory dir name place m₁.files file)
    (hfilled : Touches (place ++ [name]) m₁.files m₂.files)
    (ho : Occupied m₂.files (place ++ [name])) (hdir : m₂.directory = m.directory)
    (h : m₂.Performs may (.remove (dir.join name)) r m') :
    TakenBack settings (place ++ [name]) m m' := by
  obtain ⟨hgone, hoff, hdir'⟩ := ht.removed hn hrem hfilled.keeps ho hdir h
  obtain ⟨node, hnode, hleads⟩ := ho
  have htouch : Touches (place ++ [name]) m₂.files m'.files :=
    ⟨hoff, hoff.keeps (by simp [hnode, hleads])⟩
  exact ⟨hdir', (ht.touches.trans hfilled).trans htouch, Or.inr ⟨hgone, ht.fresh⟩⟩

/-! ## The checksum file -/

theorem runs_writeChecksum_fails {line : String} {e : PackagingError} (hn : IsName name)
    (hl : w.machine.files.Unlinked w.machine.directory (checksumPath (dir.join name)))
    (hrem : Removable may w.machine.files
      (placeOf w.machine.directory dir ++ [checksumName name]))
    (h : w.Runs runner may (writeChecksum settings (dir.join name) line).run (.error e) w') :
    TakenBack settings (placeOf w.machine.directory dir ++ [checksumName name]) w.machine
      w'.machine := by
  obtain ⟨up, hsame, hpath⟩ := checksumPath_join hn dir
  have hup := placeOf_sameWay hsame w.machine.directory
  have hs := isName_checksumName hn
  have hcreates := fun {x : Except PackagingError Handle} {hash : ContentHash} {w₁ w₂ : World σ}
      (hashes : w.Runs runner may (hashFile (dir.join name)).run (.ok hash) w₁)
      (creates : w₁.Runs runner may (createFile settings (checksumPath (dir.join name))).run x w₂) => by
    have hmachine := (hashes.untouched (hashFile_only _)).1
    rw [hpath] at creates hl
    have htakes := runs_createFile_takes hs (by rwa [hmachine]) creates
    rwa [hmachine, hup] at htakes
  cases runs_writeChecksum_cases h with
  | unhashed same =>
    rw [same.1]
    exact .refl _ _ _
  | uncreated hashes creates =>
    rcases hcreates hashes creates with ⟨-, hm⟩ | ⟨file, hok, -⟩
    · rw [hm]
      exact .refl _ _ _
    · simp at hok
  | unwritten hashes creates writes removes =>
    rcases hcreates hashes creates with ⟨⟨e, he⟩, -⟩ | ⟨file, hok, hdir, htaken⟩
    · simp at he
    obtain rfl := Except.ok.inj hok
    have hoccupied := htaken.occupied
    rw [← htaken.place_eq] at hoccupied
    have hrefilled := runs_fills (writePieces_fills _ _ _) writes hoccupied
    have htouches := hrefilled.touches hoccupied
    have hoccupied' := hrefilled.occupied
    rw [htaken.place_eq] at htouches hoccupied'
    rw [hpath] at removes
    exact htaken.takenBack hs hrem htouches hoccupied' (hrefilled.directory.trans hdir) removes

/-! ## The package -/

theorem FileSystem.Unlinked.sameOff {path : Path} (h : fs.Unlinked here path) (hoff : SameOff place fs fs')
    (ho : Occupied fs' place) : fs'.Unlinked here path := by
  intro q hq target hlink
  by_cases hplace : q = place
  · obtain ⟨node, hnode, hleads⟩ := ho
    rw [hplace, hnode, Option.some.injEq] at hlink
    subst hlink
    exact hleads trivial
  · rw [hoff q hplace] at hlink
    exact h q hq target hlink

theorem Removable.keeps (h : Removable may fs place) (hk : Keeps fs fs')
    (hsame : ∀ node, ¬ node.leads → fs'.node? place = some node → fs.node? place = some node) :
    Removable may fs' place :=
  ⟨h.1, fun node hleads hnode => (h.2 node hleads (hsame node hleads hnode)).keeps hk⟩

/-- Filling an open package changes it and its checksum file, and that one is taken back. -/
theorem runs_fillPackage_fails {artifact : Path} {line entry : String} {e : PackagingError}
    (hn : IsName name) (hp : file.place = placeOf w.machine.directory dir ++ [name])
    (ho : Occupied w.machine.files file.place)
    (hl : w.machine.files.Unlinked w.machine.directory (checksumPath (dir.join name)))
    (hrem : Removable may w.machine.files
      (placeOf w.machine.directory dir ++ [checksumName name]))
    (h : w.Runs runner may
      (fillPackage settings file binary artifact (dir.join name) line entry).run (.error e) w') :
    ∃ m, Refilled file.place w.machine m ∧
      TakenBack settings (placeOf w.machine.directory dir ++ [checksumName name]) m w'.machine := by
  cases runs_fillPackage_cases h with
  | unarchived archives | undescribed archives =>
    exact ⟨w'.machine, runs_fills (writeArchive_fills _ _ _) archives ho, .refl _ _ _⟩
  | @checksum status x r w₁ w' archives describes asked writes result =>
    have hrefilled := runs_fills (writeArchive_fills _ _ _) archives ho
    refine ⟨w₁.machine, hrefilled, ?_⟩
    have hl' := hl.sameOff hrefilled.sameOff hrefilled.occupied
    have hside := hrefilled.sameOff (placeOf w.machine.directory dir ++ [checksumName name])
      (by rw [hp]; exact sidecar_ne_package)
    have hrem' := hrem.keeps (hrefilled.touches ho).keeps (fun node _ hnode => hside ▸ hnode)
    rw [← hrefilled.directory] at hl' hrem' ⊢
    cases x with
    | error e' => exact runs_writeChecksum_fails hn hl' hrem' writes
    | ok written => simp [Except.map] at result

theorem runs_openFiles {verified : VerifiedArtifact} {replaced : Bool}
    {r : Except PackagingError (Bool × Handle × Handle)} (hn : IsName name)
    (hpath : packagePath settings verified.artifact.request = dir.join name)
    (hl : w.machine.files.Unlinked w.machine.directory (dir.join name))
    (h : w.Runs runner may (openFiles settings verified replaced).run r w') :
    (∃ e, r = .error e) ∧ w'.machine = w.machine ∨ ∃ opened, r = .ok opened ∧
      w'.machine.directory = w.machine.directory ∧
      Taken settings w.machine.files w.machine.directory dir name (placeOf w.machine.directory dir)
        w'.machine.files opened.2.2 := by
  cases runs_openFiles_cases h with
  | unread => exact Or.inl ⟨⟨_, rfl⟩, rfl⟩
  | read reads creates result =>
    rw [hpath] at creates
    rcases runs_createFile_takes hn hl creates with ⟨⟨e, rfl⟩, hm⟩ | ⟨file, rfl, hdir, htaken⟩
    · exact Or.inl ⟨⟨e, result⟩, hm⟩
    · exact Or.inr ⟨_, result, hdir, htaken⟩

theorem openPackage_eq (settings : Settings) (verified : VerifiedArtifact) :
    openPackage settings verified = (do
      Stage.note (.packaging verified.artifact.request.platform)
      (makeDirectories settings.packagesDir).orElse (PackagingError.createDir settings.packagesDir)
      let path := packagePath settings verified.artifact.request
      let replaced ← ExceptT.lift (Program.file (.pathExists path))
      if replaced then Stage.note (.overwritingPackage path) >>= fun _ => openFiles settings verified replaced
      else openFiles settings verified replaced) :=
  rfl

theorem runs_openPackage {verified : VerifiedArtifact}
    {r : Except PackagingError (Bool × Handle × Handle)} (hn : IsName name)
    (hpath : packagePath settings verified.artifact.request = dir.join name)
    (hdirs : w.machine.files.Unlinked w.machine.directory settings.packagesDir)
    (hl : w.machine.files.Unlinked w.machine.directory (dir.join name))
    (h : w.Runs runner may (openPackage settings verified).run r w') :
    ∃ m : Machine, m.directory = w.machine.directory ∧
      (∀ q, Spared (trailOf w.machine.directory settings.packagesDir) w.machine.files m.files q) ∧
      ((∃ e, r = .error e) ∧ w'.machine = m ∨ ∃ opened, r = .ok opened ∧
        w'.machine.directory = m.directory ∧ Taken settings m.files m.directory dir name
          (placeOf m.directory dir) w'.machine.files opened.2.2) := by
  rw [openPackage_eq] at h
  obtain ⟨w₀, ⟨hw₀, -⟩, hsteps⟩ := runs_prepared h
  rw [← hw₀] at hdirs hl ⊢
  rcases hsteps with ⟨e, rfl, hmake⟩ | ⟨w₁, w₂, replaced, hmake, -, hw₂, hopen⟩
  · have hstays := (hmake.stays ((makeLineage_only _).mono fun _ => Action.Builds.stays)).2
    exact ⟨w'.machine, hstays.directory, runs_makeDirectories_spares hdirs hmake,
      Or.inl ⟨⟨_, rfl⟩, rfl⟩⟩
  · have hstays := (hmake.stays ((makeLineage_only _).mono fun _ => Action.Builds.stays)).2
    have hspared := runs_makeDirectories_spares hdirs hmake
    have hl' := hl.spared hspared
    rw [← hstays.directory, ← hw₂] at hl'
    refine ⟨w₁.machine, hstays.directory, hspared, ?_⟩
    rw [← hw₂]
    exact runs_openFiles hn hpath hl' hopen

/-- A packaging that does not finish its package takes it back. -/
theorem runs_finishPackage_fails {verified : VerifiedArtifact} {opened : Bool × Handle × Handle}
    {m : Machine} {e : PackagingError} (hn : IsName name)
    (hpath : packagePath settings verified.artifact.request = dir.join name)
    (hl : m.files.Unlinked m.directory (checksumPath (dir.join name)))
    (hrem : Removable may m.files (placeOf m.directory dir ++ [name]))
    (hrem' : Removable may m.files (placeOf m.directory dir ++ [checksumName name]))
    (ht : Taken settings m.files m.directory dir name (placeOf m.directory dir) w.machine.files
      opened.2.2)
    (hdir : w.machine.directory = m.directory)
    (h : w.Runs runner may (finishPackage settings verified opened).run (.error e) w') :
    SameBut (placeOf m.directory dir) name m.files w'.machine.files ∧
      w'.machine.files.node? (placeOf m.directory dir ++ [name]) = none ∧
      (settings.collision = .fail → m.files.node? (placeOf m.directory dir ++ [name]) = none) ∧
      (w'.machine.files.node? (placeOf m.directory dir ++ [checksumName name])
          = m.files.node? (placeOf m.directory dir ++ [checksumName name]) ∨
        w'.machine.files.node? (placeOf m.directory dir ++ [checksumName name]) = none ∧
          (settings.collision = .fail →
            m.files.node? (placeOf m.directory dir ++ [checksumName name]) = none)) := by
  cases runs_finishPackage_cases h with
  | dropped fills removes =>
    have ho := ht.occupied
    have hl' := hl.sameOff ht.sameOff ho
    have hside : w.machine.files.node? (placeOf m.directory dir ++ [checksumName name])
        = m.files.node? (placeOf m.directory dir ++ [checksumName name]) :=
      ht.sameOff _ sidecar_ne_package
    have hrem'' := hrem'.keeps ht.touches.keeps (fun node _ hnode => hside ▸ hnode)
    rw [← hdir] at hl' hrem''
    have hp : opened.2.2.place = placeOf w.machine.directory dir ++ [name] := by
      rw [hdir, ht.place_eq]
    rw [← ht.place_eq] at ho
    rw [hpath] at fills removes
    obtain ⟨m₁, hrefilled, hback⟩ := runs_fillPackage_fails hn hp ho hl' hrem'' fills
    have hfilled := hrefilled.touches ho
    have hback_off := hback.touches.sameOff
    have ho' := hrefilled.occupied
    rw [hdir] at hback_off hback
    rw [ht.place_eq] at ho' hfilled
    obtain ⟨hgone, hoff, -⟩ := ht.removed hn hrem (hfilled.keeps.trans hback.touches.keeps)
      (by
        obtain ⟨node, hnode, hleads⟩ := ho'
        exact ⟨node, by rw [hback_off _ sidecar_ne_package.symm, hnode], hleads⟩)
      (hback.directory.trans (hrefilled.directory.trans hdir)) removes
    refine ⟨?_, hgone, ht.fresh, ?_⟩
    · exact (((sameBut_of_package ht.sameOff).trans (sameBut_of_package hfilled.sameOff)).trans
        (sameBut_of_sidecar hback_off)).trans (sameBut_of_package hoff)
    · have hsame := (hfilled.sameOff _ sidecar_ne_package).trans hside
      rw [hoff _ sidecar_ne_package, ← hsame]
      exact hback.target

/-! ## Atomicity -/

/-- A packaging was undone: there may be new directories among `dirs`, and under the policy to
replace, a package or a checksum file may be gone. -/
structure Undone (policy : CollisionPolicy) (dirs : List Location) (package sidecar : Location)
    (fs fs' : FileSystem) : Prop where
  others : ∀ q, q ≠ package → q ≠ sidecar → Spared dirs fs fs' q
  targets : ∀ q, q = package ∨ q = sidecar → Spared dirs fs fs' q ∨ fs'.node? q = none
  kept : policy = .fail → ∀ q, Spared dirs fs fs' q

theorem undone_of_spared {policy : CollisionPolicy} {dirs : List Location}
    {package sidecar : Location} (h : ∀ q, Spared dirs fs fs' q) :
    Undone policy dirs package sidecar fs fs' :=
  ⟨fun q _ _ => h q, fun q _ => Or.inl (h q), fun _ => h⟩

theorem FileSystem.Spared.of_gone {dirs : List Location} {q : Location} {fs₁ : FileSystem}
    (h : Spared dirs fs fs₁ q) (hnone : fs₁.node? q = none) (hgone : fs'.node? q = none) :
    Spared dirs fs fs' q := by
  exact Or.inl (by rw [hgone, ← hnone, h.same (by simp [hnone])])

/-- A packaging that fails is undone. Either its package was not opened, and there may be new
directories on the way to the packages and nothing else; or it was, and it is gone. -/
theorem failed_packaging_undone {verified : VerifiedArtifact} {e : PackagingError}
    (hlinks : ∀ path ∈ [settings.packagesDir, packagePath settings verified.artifact.request,
        checksumPath (packagePath settings verified.artifact.request)],
      w.machine.files.Unlinked w.machine.directory path)
    (hremove : ∀ path ∈ [packagePath settings verified.artifact.request,
        checksumPath (packagePath settings verified.artifact.request)],
      Removable may w.machine.files (placeOf w.machine.directory path))
    (h : w.Runs runner may (package settings verified).run (.error e) w') :
    Undone settings.collision (trailOf w.machine.directory settings.packagesDir)
        (placeOf w.machine.directory (packagePath settings verified.artifact.request))
        (placeOf w.machine.directory
          (checksumPath (packagePath settings verified.artifact.request)))
        w.machine.files w'.machine.files ∧
      (w.Runs runner may (openPackage settings verified).run (.error e) w' ∧
          (∀ q, Spared (trailOf w.machine.directory settings.packagesDir) w.machine.files
            w'.machine.files q) ∨
        ∃ opened w₁, w.Runs runner may (openPackage settings verified).run (.ok opened) w₁ ∧
          w₁.Runs runner may (finishPackage settings verified opened).run (.error e) w' ∧
          w'.machine.files.node? (placeOf w.machine.directory
            (packagePath settings verified.artifact.request)) = none) := by
  obtain ⟨dir, name, hn, hpath⟩ := exists_packagePath_join settings verified.artifact.request
  obtain ⟨up, hup, hside⟩ := checksumPath_join hn dir
  have hplace := placeOf_join hn w.machine.directory dir
  have hplace' : placeOf w.machine.directory (checksumPath (dir.join name))
      = placeOf w.machine.directory dir ++ [checksumName name] := by
    rw [hside, placeOf_join (isName_checksumName hn), placeOf_sameWay hup]
  simp only [hpath, List.forall_mem_cons] at hlinks hremove ⊢
  obtain ⟨hdirs, hpackage, hsidecar, -⟩ := hlinks
  rw [hplace, hplace'] at hremove ⊢
  obtain ⟨hrem, hrem', -⟩ := hremove
  rw [package_opened, runs_stage_bind] at h
  rcases h with ⟨opened, w₁, hopen, hfinish⟩ | ⟨e, hopen, he⟩
  · obtain ⟨m, hdir, hspared, ⟨⟨e, he⟩, -⟩ | ⟨opened', hok, hdir', htaken⟩⟩ :=
      runs_openPackage hn hpath hdirs hpackage hopen
    · simp at he
    obtain rfl := Except.ok.inj hok
    -- What holds of the links and of what can be removed still holds once the package is open,
    -- since opening it only spares what was there.
    have hkeeps : Keeps w.machine.files m.files := keeps_of_spared hspared
    have hold : ∀ {q} node, ¬ node.leads → m.files.node? q = some node →
        w.machine.files.node? q = some node := fun {q} node hleads hnode => by
      rw [← hnode, (hspared q).same]
      rintro hdir
      obtain rfl := Option.some.inj (hnode.symm.trans hdir)
      exact hleads trivial
    have hl := hsidecar.spared hspared
    have hr := hrem.keeps hkeeps hold
    have hr' := hrem'.keeps hkeeps hold
    rw [← hdir] at hl hr hr'
    obtain ⟨hbut, hgone, hfresh, hback⟩ :=
      runs_finishPackage_fails hn hpath hl hr hr' htaken hdir' hfinish
    rw [hdir] at hbut hgone hfresh hback
    have hothers : ∀ q, q ≠ placeOf w.machine.directory dir ++ [name] →
        q ≠ placeOf w.machine.directory dir ++ [checksumName name] →
        Spared (trailOf w.machine.directory settings.packagesDir) w.machine.files
          w'.machine.files q :=
      fun q hq hq' => (hspared q).trans (Or.inl (hbut q hq hq'))
    refine ⟨⟨hothers, ?_, fun hfail q => ?_⟩, Or.inr ⟨opened, w₁, hopen, hfinish, hgone⟩⟩
    · rintro q (rfl | rfl)
      · exact Or.inr hgone
      · exact hback.imp (fun hsame => (hspared _).trans (Or.inl hsame)) And.left
    -- Under the policy to fail, neither target was there before, so both are as they were.
    · by_cases hq : q = placeOf w.machine.directory dir ++ [name]
      · subst hq
        exact (hspared _).of_gone (hfresh hfail) hgone
      · by_cases hq' : q = placeOf w.machine.directory dir ++ [checksumName name]
        · subst hq'
          rcases hback with hsame | ⟨hgone', hfresh'⟩
          · exact (hspared _).trans (Or.inl hsame)
          · exact (hspared _).of_gone (hfresh' hfail) hgone'
        · exact hothers q hq hq'
  · obtain rfl := Except.error.inj he
    obtain ⟨m, -, hspared, ⟨-, hm⟩ | ⟨opened', hok, -⟩⟩ :=
      runs_openPackage hn hpath hdirs hpackage hopen
    · rw [← hm] at hspared
      exact ⟨undone_of_spared hspared, Or.inl ⟨hopen, hspared⟩⟩
    · simp at hok

/-- A packages directory whose path leads through the package leaves a directory there. -/
theorem failed_packaging_leaves_directory :
    takenWorld.machine.files.LinkFree ∧
      ∃ e w', takenWorld.Runs idleRunner Refusals.never
        (package { packagedSettings "p/fxml_linux_amd64.tar.gz/.." false with
          collision := .overwrite } packagedBinary).run (.error e) w' ∧
      takenWorld.machine.files.node? ["work", "p", "fxml_linux_amd64.tar.gz"] = none ∧
      w'.machine.files.node? ["work", "p", "fxml_linux_amd64.tar.gz"]
        = some (.directory newDirectoryMode) := by
  refine ⟨takenWorld_tree.links, .write ⟨"p/fxml_linux_amd64.tar.gz/../fxml_linux_amd64.tar.gz"⟩
    .isDirectory, (takenWorld.run idleRunner (package { packagedSettings
      "p/fxml_linux_amd64.tar.gz/.." false with collision := .overwrite } packagedBinary).run).2,
    ?_, by decide, by decide +kernel⟩
  exact runs_of_run_eq (by decide +kernel)

theorem takenWorld_ready (arch : Arch) :
    Ready ["work"] ⟨.linux, arch⟩ "1.2.3" takenWorld.machine.files := by
  have hsame : ∀ q ∈ (buildPlace ["work"]).inits,
      takenWorld.machine.files.node? q = freshProject.node? q := by decide
  have hproduced : takenWorld.machine.files.node? (producedPlace ["work"] .linux) = none := by
    decide
  exact (freshProject_ready ⟨.linux, arch⟩).of_same
    (fun q hq => hsame q ((List.mem_inits _ _).mpr hq)) (by decide) (by simp [hproduced])
    (Or.inr (by decide))

/-- The packaged project, with a directory in place of the binary. -/
def brokenWorld : World Unit :=
  { takenWorld with machine := { takenWorld.machine with
      files := spoilBinary ["work"] .linux takenWorld.machine.files } }

theorem brokenWorld_ready :
    Ready ["work"] ⟨.linux, .amd64⟩ "1.2.3" brokenWorld.machine.files :=
  (takenWorld_ready .amd64).spoiled

theorem FileSystem.eq_of_entries {a b : FileSystem} (h : a.entries = b.entries)
    (hserial : a.nextSerial = b.nextSerial) : a = b := by
  obtain ⟨⟩ := a
  obtain ⟨⟩ := b
  obtain rfl := h
  obtain rfl := hserial
  rfl

theorem brokenWorld_directories : ∃ w₁, brokenWorld.Runs idleRunner Refusals.never
    (makeDirectories (rootSettings ["work"] .overwrite true).packagesDir).run (.ok ()) w₁ ∧
      w₁.machine.files = brokenWorld.machine.files :=
  ⟨_, runs_of_run_eq (by decide +kernel), eq_of_entries (by decide +kernel) (by decide +kernel)⟩

/-- A directory cannot be archived. -/
theorem brokenWorld_breaks : ∃ e w', brokenWorld.Runs idleRunner Refusals.never
    (package (rootSettings ["work"] .overwrite true) packagedBinary).run (.error e) w' := by
  obtain ⟨w₁, hdirs, hfiles⟩ := brokenWorld_directories
  obtain ⟨fields, htar⟩ := tar_place_executable .linux
  have hpack : ∀ replaced (v : World Unit), v.machine = w₁.machine → ∃ made v',
      v.Runs idleRunner Refusals.never (packInto (rootSettings ["work"] .overwrite true)
        packagedBinary replaced).run made v' ∧ ∃ e, made = .error e := by
    intro replaced v hv
    have hfs : v.machine.files = brokenWorld.machine.files := hv ▸ hfiles
    have hready : Ready ["work"] ⟨.linux, .amd64⟩ "1.2.3" v.machine.files :=
      hfs ▸ brokenWorld_ready
    obtain ⟨e, v', hpack, -⟩ : ∃ e v', v.Runs idleRunner Refusals.never
        (packInto (rootSettings ["work"] .overwrite true) packagedBinary replaced).run
        (.error e) v' ∧ _ :=
      packInto_drops rfl rfl (isName_package ⟨.linux, .amd64⟩)
        (hready.findNode_binary (by rw [hfs]; exact rfl) (by simp)) (by decide) htar
        (hready.reaches_packages (by rw [hfs]; decide)) (hready.named_package .overwrite true)
        (by decide) (by rw [hfs]; exact ⟨by decide, _, rfl, by decide⟩) (by rw [hfs]; exact rfl)
        (by decide)
    exact ⟨.error e, v', hpack, e, rfl⟩
  obtain ⟨_, w', hrun, e, rfl⟩ := package_ends (Q := fun made _ => ∃ e, made = .error e) hdirs (hpack _)
  exact ⟨e, w', hrun⟩

/-- A replacement that fails is undone. -/
theorem broken_packaging_undone :
    let settings := rootSettings ["work"] .overwrite true
    let request := packagedBinary.artifact.request
    ∃ e w', brokenWorld.Runs idleRunner Refusals.never (package settings packagedBinary).run
        (.error e) w' ∧
      Undone .overwrite (trailOf ["work"] settings.packagesDir)
        (placeOf ["work"] (packagePath settings request))
        (placeOf ["work"] (checksumPath (packagePath settings request)))
        brokenWorld.machine.files w'.machine.files := by
  obtain ⟨e, w', hrun⟩ := brokenWorld_breaks
  have hlinks : brokenWorld.machine.files.LinkFree := linkFree_of_entries (by decide)
  have hchange : brokenWorld.machine.files.Changeable (packagesPlace ["work"]) :=
    ⟨by decide, _, rfl, by decide⟩
  have hplaces : ∀ path ∈ [packagePath (rootSettings ["work"] .overwrite true)
      packagedBinary.artifact.request, checksumPath (packagePath
        (rootSettings ["work"] .overwrite true) packagedBinary.artifact.request)],
      (placeOf ["work"] path).dropLast = packagesPlace ["work"] := by
    decide +kernel
  exact ⟨e, w', hrun, (failed_packaging_undone (fun _ _ q _ => hlinks q) (fun path hpath =>
    ⟨fun _ => id, fun _ _ _ => hplaces path hpath ▸ hchange⟩) hrun).1⟩

end Slipway
