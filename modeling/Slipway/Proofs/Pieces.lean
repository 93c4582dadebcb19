import Slipway.Proofs.Access
import Slipway.Proofs.Execution
import Slipway.Release.Files

/-!
# Whole files in pieces

Reading a file in pieces gives its content, writing one in pieces puts all of the bytes there or
reports an error, and creating directories adds directories.
-/

namespace Slipway

open FileSystem World

variable {σ τ ε : Type} {runner : Runner σ} {may : Refusals} {w w' : World σ}

/-! ## Which actions are used -/

theorem only_file {kind : Action → Prop} {a : FileAction} (h : kind (.file a)) :
    (Program.file a).Only kind :=
  Program.only_perform h

theorem readPieces_only (file : Handle) (step : τ → Bytes → τ) (fuel offset : Nat) (state : τ) :
    (readPieces file step fuel offset state).Only (Action.Reads file) := by
  induction fuel generalizing offset state with
  | zero => exact Program.only_pure _
  | succ fuel ih =>
    refine Program.only_bind (only_file rfl) (fun reply => ?_)
    match reply with
    | .error e => exact Program.only_pure _
    | .ok [] => exact Program.only_pure _
    | .ok (b :: rest) => exact ih _ _

theorem hashOpen_only (file : Handle) : (hashOpen file).run.Only (Action.Reads file) := by
  refine Stage.only_bind (only_file rfl) (fun status => ?_)
  refine Stage.only_bind (Stage.only_lift (readPieces_only _ _ _ _ _)) (fun found => ?_)
  obtain ⟨hasher, _ | ⟨⟩⟩ := found
  · exact Stage.only_throw _
  · exact Stage.only_pure _

theorem hashFile_only (path : Path) : (hashFile path).run.Only Action.Asks :=
  Stage.only_bind (only_file trivial) (fun file => (hashOpen_only file).mono fun _ h => h.asks)

theorem writePieces_only (file : Handle) (offset : Nat) (pieces : List Bytes) :
    (writePieces file offset pieces).run.Only Action.Stays := by
  induction pieces generalizing offset with
  | nil => exact Stage.only_pure _
  | cons piece rest ih => exact Stage.only_bind (only_file trivial) (fun _ => ih _)

/-- The actions that creating the directories takes. -/
def Action.Builds (paths : List Path) : Action → Prop
  | .file (.makeDirectory path) | .file (.isDirectory path) => path ∈ paths
  | _ => False

theorem Action.Builds.stays {paths : List Path} {a : Action} (h : a.Builds paths) : a.Stays := by
  cases a with
  | file a => cases a <;> first | exact h.elim | trivial
  | _ => exact h.elim

theorem Action.Builds.cons {path : Path} {paths : List Path} {a : Action} (h : a.Builds paths) :
    a.Builds (path :: paths) := by
  cases a with
  | file a => cases a <;> first | exact h.elim | exact List.mem_cons_of_mem _ h
  | _ => exact h.elim

theorem lineage_eq_cons (path : Path) : ∃ above, lineage path = path :: above := by
  unfold lineage
  rw [lineage.go]
  split <;> exact ⟨_, rfl⟩

theorem makeLineage_only (paths : List Path) :
    (makeLineage paths).run.Only (Action.Builds paths) := by
  induction paths with
  | nil => exact Stage.only_throw _
  | cons path above ih =>
    have hask : ∀ e, (Program.file (.isDirectory path) >>= fun there =>
        if there = true then pure (.ok ()) else pure (.error e) :
          Program (Except SystemError Unit)).Only (Action.Builds (path :: above)) := fun e => by
      refine Program.only_bind (only_file List.mem_cons_self) (fun there => ?_)
      cases there <;> exact Program.only_pure _
    have hmake : Action.Builds (path :: above) (.file (.makeDirectory path)) :=
      List.mem_cons_self
    unfold makeLineage
    change Program.Only (Action.Builds (path :: above)) (ite _ _ _)
    split
    · exact Program.only_pure _
    · refine Program.only_bind (only_file hmake) (fun reply => ?_)
      rcases reply with e | ⟨⟩
      · change Program.Only (Action.Builds (path :: above)) (ite _ _ _)
        split
        · refine Program.only_bind (ih.mono fun _ => Action.Builds.cons) (fun made => ?_)
          rcases made with e | ⟨⟩
          · exact Program.only_pure _
          · refine Program.only_bind (only_file hmake) (fun again => ?_)
            rcases again with e | ⟨⟩
            · exact hask e
            · exact Program.only_pure _
        · exact hask e
      · exact Program.only_pure _

/-! ## Reading -/

theorem performs_read {m m' : Machine} {file : Handle} {offset count : Nat} {content : Bytes}
    {r : Except SystemError Bytes} (hh : m.files.Holds file content)
    (h : m.Performs may (.read file offset count) r m') :
    m' = m ∧ ∀ piece, r = .ok piece → piece = (content.drop offset).take count := by
  refine ⟨Machine.performs_asks h trivial, ?_⟩
  rintro piece rfl
  obtain ⟨hr, -⟩ := Machine.performs_ok h (by simp [FileAction.failure])
  obtain ⟨data, hopen, rfl⟩ := hh.openNode?
  simp only [Machine.reply, FileSystem.read, hopen] at hr
  exact Except.ok.inj hr

/-- Reading to the end feeds pieces to `step` that make up the rest of the content. -/
theorem runs_readPieces {file : Handle} {content : Bytes} {step : τ → Bytes → τ}
    {fuel offset : Nat} {state state' : τ} (hh : w.machine.files.Holds file content)
    (hfuel : content.length - offset < fuel)
    (h : w.Runs runner may (readPieces file step fuel offset state) (state', .ok ()) w') :
    ∃ pieces : List Bytes, pieces.flatten = content.drop offset ∧ state' = pieces.foldl step state := by
  induction fuel generalizing w offset state with
  | zero => omega
  | succ fuel ih =>
    rw [readPieces, runs_bind] at h
    obtain ⟨reply, w₁, hread, h⟩ := h
    rw [runs_file] at hread
    obtain ⟨m, hm, rfl⟩ := hread
    obtain ⟨rfl, hpiece⟩ := performs_read hh hm
    match reply with
    | .error e =>
      obtain ⟨hr, -⟩ := h
      simp at hr
    | .ok [] =>
      obtain ⟨hr, -⟩ := h
      have hnil := hpiece [] rfl
      have hrest : content.drop offset = [] := by
        by_contra hne
        have hlen := congrArg List.length hnil
        have hpos := List.length_pos_iff.mpr hne
        simp only [List.length_nil, List.length_take, pieceSize] at hlen
        omega
      refine ⟨[], by simpa using hrest.symm, ?_⟩
      simpa using congrArg Prod.fst hr
    | .ok (b :: rest) =>
      have hb := hpiece (b :: rest) rfl
      have hlen : (b :: rest).length ≤ content.length - offset := by
        rw [hb, List.length_take, List.length_drop]
        exact Nat.min_le_right _ _
      have hpos : 0 < (b :: rest).length := Nat.succ_pos _
      have hfuel' : content.length - (offset + (b :: rest).length) < fuel := by omega
      obtain ⟨pieces, hflat, hstate⟩ := ih hh hfuel' h
      refine ⟨(b :: rest) :: pieces, ?_, by simpa using hstate⟩
      rw [List.flatten_cons, hflat, ← List.drop_drop]
      exact List.prefix_iff_eq_append.mp (hb ▸ List.take_prefix _ _)

theorem update_pieces (hasher : Sha256.Hasher) (pieces : List Bytes) :
    pieces.foldl Sha256.Hasher.update hasher = hasher.update pieces.flatten := by
  induction pieces generalizing hasher with
  | nil => rfl
  | cons piece rest ih =>
    rw [List.foldl_cons, ih, List.flatten_cons, Sha256.Hasher.update_append]

theorem performs_describeOpen {m m' : Machine} {file : Handle} {data : FileData}
    {status : FileStatus} (hopen : m.files.openNode? file = some (.file data))
    (h : m.Performs may (.describeOpen file) (.ok status) m') :
    m' = m ∧ status = statusOf m.now (.file data) := by
  refine ⟨Machine.performs_asks h trivial, ?_⟩
  obtain ⟨hr, -⟩ := Machine.performs_ok h (by simp [FileAction.failure])
  simp only [Machine.reply, describeOpen, hopen] at hr
  exact Except.ok.inj hr

theorem runs_hashOpen {file : Handle} {content : Bytes} {hash : ContentHash}
    (hh : w.machine.files.Holds file content)
    (h : w.Runs runner may (hashOpen file).run (.ok hash) w') :
    hash = ContentHash.ofBytes content := by
  rw [hashOpen, runs_stage_bind_ok] at h
  obtain ⟨status, w₁, hstatus, h⟩ := h
  rw [runs_attempt, runs_file] at hstatus
  obtain ⟨m, hm, rfl⟩ := hstatus
  obtain ⟨data, hopen, hc⟩ := hh.openNode?
  obtain ⟨rfl, rfl⟩ := performs_describeOpen hopen hm
  have hfuel : content.length - 0 < (statusOf w.machine.now (.file data)).size + 1 := by
    rw [← hc]
    exact Nat.lt_succ_self _
  rw [runs_stage_bind_ok] at h
  obtain ⟨⟨hasher, result⟩, w₂, hpieces, h⟩ := h
  rw [runs_lift] at hpieces
  obtain ⟨found, hfound, hpieces⟩ := hpieces
  obtain rfl := Except.ok.inj hfound
  cases result with
  | error e => obtain ⟨hr, -⟩ := h; simp at hr
  | ok u =>
    obtain ⟨pieces, hflat, rfl⟩ := runs_readPieces hh hfuel hpieces
    obtain ⟨hr, -⟩ := h
    rw [update_pieces, hflat, List.drop_zero] at hr
    exact Except.ok.inj hr

theorem runs_readPieces_directory {file : Handle} {mode : Nat} {step : τ → Bytes → τ}
    {fuel offset : Nat} {state state' : τ} {r : Except SystemError Unit}
    (hopen : w.machine.files.openNode? file = some (.directory mode))
    (h : w.Runs runner may (readPieces file step (fuel + 1) offset state) (state', r) w') :
    ∃ e, r = .error e := by
  rw [readPieces, runs_bind] at h
  obtain ⟨reply, w₁, hread, h⟩ := h
  rw [runs_file] at hread
  obtain ⟨m, hm, rfl⟩ := hread
  have hreply : ∃ e, reply = .error e := by
    rcases hm with hm | ⟨-, hfail, -⟩
    · have hr := congrArg Prod.fst hm
      simp only [Machine.reply, FileSystem.read, hopen] at hr
      exact ⟨_, hr⟩
    · exact hfail
  obtain ⟨e, rfl⟩ := hreply
  obtain ⟨hr, -⟩ := h
  exact ⟨e, (Prod.mk.inj hr).2⟩

theorem openRead_ok {fs : FileSystem} {here : Location} {path : Path} {file : Handle}
    (h : fs.openRead here path = .ok file) :
    ∃ place node, fs.findNode here path = .ok (place, node) ∧ file = ⟨place, serialOf node⟩ ∧
      ownerReads node.mode = true := by
  unfold FileSystem.openRead at h
  split at h
  · simp at h
  · rename_i place node hfind
    split_ifs at h with _ hreads
    exact ⟨place, node, hfind, (Except.ok.inj h).symm, hreads⟩

theorem performs_openRead {m m' : Machine} {path : Path} {file : Handle}
    (h : m.Performs may (.openRead path) (.ok file) m') :
    m' = m ∧ ∃ place node, m.files.findNode m.directory path = .ok (place, node) ∧
      file = ⟨place, serialOf node⟩ := by
  obtain ⟨hr, -⟩ := Machine.performs_ok h (by simp [FileAction.failure])
  obtain ⟨place, node, hfind, hfile, -⟩ := openRead_ok hr.symm
  exact ⟨Machine.performs_asks h trivial, place, node, hfind, hfile⟩

theorem holds_of_find {fs : FileSystem} {here place : Location} {path : Path} {data : FileData}
    (h : fs.findNode here path = .ok (place, .file data)) :
    fs.Holds ⟨place, serialOf (.file data)⟩ data.content :=
  ⟨data, node?_of_findNode h, rfl, rfl⟩

theorem runs_hashFile {path : Path} {hash : ContentHash}
    (h : w.Runs runner may (hashFile path).run (.ok hash) w') :
    ∃ place node, w.machine.files.findNode w.machine.directory path = .ok (place, node) ∧
      ∀ content, w.machine.files.Holds ⟨place, serialOf node⟩ content →
        hash = ContentHash.ofBytes content := by
  rw [hashFile, runs_stage_bind_ok] at h
  obtain ⟨file, w₁, hopen, h⟩ := h
  rw [runs_attempt, runs_file] at hopen
  obtain ⟨m, hm, rfl⟩ := hopen
  obtain ⟨rfl, place, node, hfind, rfl⟩ := performs_openRead hm
  exact ⟨place, node, hfind, fun content hh => runs_hashOpen hh h⟩

/-! ## Writing -/

theorem flatten_piecesOf (bytes : Bytes) : (piecesOf bytes).flatten = bytes := by
  have hgo : ∀ fuel rest, rest.length ≤ fuel → (piecesOf.go fuel rest).flatten = rest := by
    intro fuel
    induction fuel with
    | zero =>
      intro rest hlen
      rw [List.length_eq_zero_iff.mp (Nat.le_zero.mp hlen)]
      rfl
    | succ fuel ih =>
      intro rest hlen
      cases rest with
      | nil => rfl
      | cons b rest =>
        rw [piecesOf.go, List.flatten_cons, ih _ (by simp [pieceSize] at hlen ⊢; omega),
          List.take_append_drop]
        simp
  exact hgo bytes.length bytes (Nat.le_refl _)

/-- Pieces are appended one after the other. When that fails, some of the bytes are there. -/
theorem runs_writePieces {file : Handle} {content : Bytes} {pieces : List Bytes}
    {r : Except SystemError Unit} (hh : w.machine.files.Holds file content)
    (h : w.Runs runner may (writePieces file content.length pieces).run r w') :
    SameOff file.place w.machine.files w'.machine.files ∧
      ∃ after, w'.machine.files.Holds file after ∧
        (r = .ok () → after = content ++ pieces.flatten) := by
  induction pieces generalizing w content with
  | nil =>
    obtain ⟨-, rfl⟩ := h
    exact ⟨SameOff.refl _ _, content, hh, fun _ => by simp⟩
  | cons piece rest ih =>
    rw [writePieces, runs_stage_bind] at h
    rcases h with ⟨u, w₁, hwrite, h⟩ | ⟨e, hwrite, rfl⟩
    · rw [runs_attempt, runs_file] at hwrite
      obtain ⟨m, hm, rfl⟩ := hwrite
      rcases Machine.performs_write hm with ⟨⟨e, he⟩, -⟩ | ⟨kept, files, -, hkept, hfs, rfl⟩
      · simp at he
      · obtain rfl := hkept rfl
        have hh' := write_at_end hh hfs
        rw [← List.length_append] at h
        obtain ⟨hsame, after, hafter, hok⟩ := ih hh' h
        refine ⟨(write_sameOff hfs).trans hsame, after, hafter, fun hr => ?_⟩
        rw [hok hr, List.flatten_cons, List.append_assoc]
    · rw [runs_attempt, runs_file] at hwrite
      obtain ⟨m, hm, rfl⟩ := hwrite
      rcases Machine.performs_write hm with ⟨-, rfl⟩ | ⟨kept, files, -, -, hfs, rfl⟩
      · exact ⟨SameOff.refl _ _, content, hh, by simp⟩
      · exact ⟨write_sameOff hfs, _, write_at_end hh hfs, by simp⟩

theorem runs_writeAll {file : Handle} {bytes : Bytes} {r : Except SystemError Unit}
    (hh : w.machine.files.Holds file [])
    (h : w.Runs runner may (writeAll file bytes).run r w') :
    SameOff file.place w.machine.files w'.machine.files ∧
      ∃ after, w'.machine.files.Holds file after ∧ (r = .ok () → after = bytes) := by
  have h : w.Runs runner may (writePieces file ([] : Bytes).length (piecesOf bytes)).run r w' := h
  obtain ⟨hsame, after, hafter, hok⟩ := runs_writePieces hh h
  refine ⟨hsame, after, hafter, fun hr => ?_⟩
  rw [hok hr, flatten_piecesOf, List.nil_append]

/-! ## Directories -/

/-- Directories were added, and nothing else changed. -/
def Grows (fs fs' : FileSystem) : Prop :=
  ∀ q, fs'.node? q = fs.node? q ∨
    fs.node? q = none ∧ fs'.node? q = some (.directory newDirectoryMode)

theorem Grows.refl (fs : FileSystem) : Grows fs fs := fun _ => Or.inl rfl

theorem Grows.trans {fs fs' fs'' : FileSystem} (h : Grows fs fs') (h' : Grows fs' fs'') :
    Grows fs fs'' := by
  intro q
  rcases h q with hq | ⟨hnone, hdir⟩
  · rcases h' q with hq' | ⟨hnone', hdir'⟩
    · exact Or.inl (hq'.trans hq)
    · exact Or.inr ⟨hq ▸ hnone', hdir'⟩
  · rcases h' q with hq' | ⟨hnone', -⟩
    · exact Or.inr ⟨hnone, hq'.trans hdir⟩
    · rw [hdir] at hnone'
      simp at hnone'

theorem Grows.keep {fs fs' : FileSystem} {q : Location} {node : Node} (h : Grows fs fs')
    (hq : fs.node? q = some node) : fs'.node? q = some node := by
  rcases h q with hq' | ⟨hnone, -⟩
  · rw [hq', hq]
  · rw [hnone] at hq
    simp at hq

theorem Grows.keeps {fs fs' : FileSystem} (h : Grows fs fs') : Keeps fs fs' :=
  fun _ _ _ hq => h.keep hq

/-- A preorder on machines that each new directory respects holds between the ends. -/
theorem runs_makeDirectories_only {path : Path} {r : Except SystemError Unit}
    {R : Machine → Machine → Prop} (h : w.Runs runner may (makeDirectories path).run r w')
    (refl : ∀ m, R m m) (trans : ∀ {m₁ m₂ m₃}, R m₁ m₂ → R m₂ m₃ → R m₁ m₃)
    (step : ∀ {m made files}, made ∈ lineage path →
      m.files.makeDirectory m.directory made = .ok files → R m { m with files }) :
    R w.machine w'.machine := by
  refine h.only (R := fun w w' => R w.machine w'.machine) (makeLineage_only _)
    (fun w => refl _) trans ?_
  intro a w₁ r w₂ ha hw
  by_cases hasks : a.Asks
  · rw [(hw.untouched hasks).1]
    exact refl _
  · cases a with
    | file a =>
      cases a with
      | makeDirectory made =>
        obtain ⟨m, hm, rfl⟩ := hw
        rcases Machine.performs_makeDirectory hm with ⟨-, rfl⟩ | ⟨-, files, hfs, rfl⟩
        · exact refl _
        · exact step ha hfs
      | _ => first | exact ha.elim | exact absurd trivial hasks
    | _ => exact ha.elim

theorem grows_of_makeDirectory {fs fs' : FileSystem} {here : Location} {path : Path}
    (h : fs.makeDirectory here path = .ok fs') : Grows fs fs' := by
  intro q
  obtain ⟨place, hnone, hdir, hsame⟩ := makeDirectory_ok h
  by_cases hq : q = place
  · exact Or.inr ⟨hq ▸ hnone, hq ▸ hdir⟩
  · exact Or.inl (hsame q hq)

theorem runs_makeDirectories {path : Path} {r : Except SystemError Unit}
    (h : w.Runs runner may (makeDirectories path).run r w') :
    Grows w.machine.files w'.machine.files := by
  refine runs_makeDirectories_only (R := fun m m' => Grows m.files m'.files) h
    (fun m => Grows.refl _) Grows.trans (fun _ hfs => grows_of_makeDirectory hfs)

end Slipway
