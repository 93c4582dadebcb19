import Slipway.Proofs.Likeness
import Slipway.Proofs.Stages

/-!
# Programs side by side

A program on two machines does the same on both as long as what it asks about is alike there. A
relation between the files of the machines is carried from each step to the next, and through
loops by induction.
-/

namespace Slipway

open FileSystem World

/-- A relation between the files of two machines. -/
abbrev Pairing := FileSystem → FileSystem → Prop

variable {σ α β ε δ τ : Type} {runner : Runner σ} {before : Pairing}

/-! ## Programs -/

/-- Files that are related before the programs are related with their results after them. -/
def Lockstep (runner : Runner σ) (before : Pairing) (p p' : Program α) (after : α → α → Pairing) :
    Prop :=
  ∀ w v : World σ, before w.machine.files v.machine.files →
    after (w.run runner p).1 (v.run runner p').1 (w.run runner p).2.machine.files
      (v.run runner p').2.machine.files

/-- The results are the same, and the files are related. -/
def Agreed (S : Pairing) (a a' : α) : Pairing := fun fs fs' => a' = a ∧ S fs fs'

namespace Lockstep

variable {p p' : Program α} {after mid : α → α → Pairing}

theorem mono {before' : Pairing} {after' : α → α → Pairing} (h : Lockstep runner before p p' after)
    (hbefore : ∀ fs fs', before' fs fs' → before fs fs')
    (hafter : ∀ a a' fs fs', after a a' fs fs' → after' a a' fs fs') :
    Lockstep runner before' p p' after' :=
  fun w v hb => hafter _ _ _ _ (h w v (hbefore _ _ hb))

theorem pure {a a' : α} (h : ∀ fs fs', before fs fs' → after a a' fs fs') :
    Lockstep runner before (pure a) (pure a') after :=
  fun _ _ hb => h _ _ hb

theorem bind {f f' : α → Program β} {after : β → β → Pairing}
    (h : Lockstep runner before p p' mid)
    (hf : ∀ a a', Lockstep runner (mid a a') (f a) (f' a') after) :
    Lockstep runner before (p >>= f) (p' >>= f') after := by
  intro w v hb
  rw [run_bind, run_bind]
  exact hf _ _ _ _ (h w v hb)

theorem given {q : Prop} (h : q → Lockstep runner before p p' after) :
    Lockstep runner (fun fs fs' => q ∧ before fs fs') p p' after :=
  fun w v hb => h hb.1 w v hb.2

theorem next {S : Pairing} {f f' : α → Program β} {after : β → β → Pairing}
    (h : Lockstep runner before p p' (Agreed S))
    (hf : ∀ a, Lockstep runner S (f a) (f' a) after) :
    Lockstep runner before (p >>= f) (p' >>= f') after :=
  h.bind fun a _ => given fun heq => heq ▸ hf a

end Lockstep

/-! ## Stages -/

/-- Both ended well, or both with the same error. -/
def Ends (both : α → α → Pairing) (neither : Pairing) : Except ε α → Except ε α → Pairing
  | .ok a, .ok a', fs, fs' => both a a' fs fs'
  | .error e, .error e', fs, fs' => e' = e ∧ neither fs fs'
  | .ok _, .error _, _, _ => False
  | .error _, .ok _, _, _ => False

namespace Stage

def Lockstep (runner : Runner σ) (before : Pairing) (s s' : Stage ε α) (both : α → α → Pairing)
    (neither : Pairing) : Prop :=
  Slipway.Lockstep runner before s.run s'.run (Ends both neither)

namespace Lockstep

variable {s s' : Stage ε α} {both : α → α → Pairing} {neither : Pairing}

theorem mono {before' : Pairing} {both' : α → α → Pairing} {neither' : Pairing}
    (h : Lockstep runner before s s' both neither)
    (hbefore : ∀ fs fs', before' fs fs' → before fs fs')
    (hboth : ∀ a a' fs fs', both a a' fs fs' → both' a a' fs fs')
    (hneither : ∀ fs fs', neither fs fs' → neither' fs fs') :
    Lockstep runner before' s s' both' neither' := by
  refine Slipway.Lockstep.mono h hbefore (fun r r' fs fs' hends => ?_)
  cases r <;> cases r' <;> first
    | exact hboth _ _ _ _ hends
    | exact ⟨hends.1, hneither _ _ hends.2⟩
    | exact hends.elim

theorem pure {a a' : α} (h : ∀ fs fs', before fs fs' → both a a' fs fs') :
    Lockstep runner before (pure a : Stage ε α) (pure a') both neither :=
  fun _ _ hb => h _ _ hb

theorem throw (e : ε) (h : ∀ fs fs', before fs fs' → neither fs fs') :
    Lockstep runner before (throw e : Stage ε α) (throw e) both neither :=
  fun _ _ hb => ⟨rfl, h _ _ hb⟩

theorem bind {f f' : α → Stage ε β} {both' : β → β → Pairing}
    (h : Lockstep runner before s s' both neither)
    (hf : ∀ a a', Lockstep runner (both a a') (f a) (f' a') both' neither) :
    Lockstep runner before (s >>= f) (s' >>= f') both' neither := by
  unfold Lockstep
  rw [ExceptT.run_bind, ExceptT.run_bind]
  refine Slipway.Lockstep.bind h (fun r r' => ?_)
  cases r with
  | error e =>
    cases r' with
    | error e' => exact Slipway.Lockstep.pure fun _ _ hb => hb
    | ok a' => exact fun _ _ hb => hb.elim
  | ok a =>
    cases r' with
    | error e' => exact fun _ _ hb => hb.elim
    | ok a' => exact hf a a'

theorem given {q : Prop} (h : q → Lockstep runner before s s' both neither) :
    Lockstep runner (fun fs fs' => q ∧ before fs fs') s s' both neither :=
  Slipway.Lockstep.given h

theorem next {S : Pairing} {f f' : α → Stage ε β} {both' : β → β → Pairing}
    (h : Lockstep runner before s s' (Agreed S) neither)
    (hf : ∀ a, Lockstep runner S (f a) (f' a) both' neither) :
    Lockstep runner before (s >>= f) (s' >>= f') both' neither :=
  h.bind fun a _ => given fun heq => heq ▸ hf a

theorem agreed {mid S : Pairing} (h : Lockstep runner before s s' (Agreed mid) mid)
    (hmid : ∀ fs fs', mid fs fs' → S fs fs') :
    Slipway.Lockstep runner before s.run s'.run (Agreed S) := by
  refine Slipway.Lockstep.mono h (fun _ _ hb => hb) (fun r r' fs fs' hends => ?_)
  cases r <;> cases r' <;> first
    | exact ⟨congrArg Except.ok hends.1, hmid _ _ hends.2⟩
    | exact ⟨congrArg Except.error hends.1, hmid _ _ hends.2⟩
    | exact hends.elim

theorem orElse (h : Lockstep runner before s s' both neither) (wrap : ε → δ) :
    Lockstep runner before (s.orElse wrap) (s'.orElse wrap) both neither := by
  refine Slipway.Lockstep.bind h (fun r r' => ?_)
  cases r with
  | error e =>
    cases r' with
    | error e' => exact Slipway.Lockstep.pure fun _ _ hb => ⟨congrArg wrap hb.1, hb.2⟩
    | ok a' => exact fun _ _ hb => hb.elim
  | ok a =>
    cases r' with
    | error e' => exact fun _ _ hb => hb.elim
    | ok a' => exact Slipway.Lockstep.pure fun _ _ hb => hb

theorem lift {p p' : Program α} (h : Slipway.Lockstep runner before p p' both) :
    Lockstep runner before (ExceptT.lift p : Stage ε α) (ExceptT.lift p') both neither :=
  Slipway.Lockstep.bind h fun _ _ => Slipway.Lockstep.pure fun _ _ hb => hb

theorem choose {ι : Type} {before : ι → Pairing}
    (h : ∀ x, Lockstep runner (before x) s s' both neither) :
    Lockstep runner (fun fs fs' => ∃ x, before x fs fs') s s' both neither :=
  fun w v ⟨x, hb⟩ => h x w v hb

/-- A fact that the first of the machines reveals by going on. -/
theorem learn {q : Prop} (h : Lockstep runner before s s' both neither)
    (hq : ∀ (w v : World σ) (a : α), before w.machine.files v.machine.files →
      (w.run runner s.run).1 = .ok a → q) :
    Lockstep runner before s s' (fun a a' fs fs' => q ∧ both a a' fs fs') neither := by
  intro w v hb
  have hends := h w v hb
  have hlearn := fun a => hq w v a hb
  generalize (w.run runner s.run).1 = r at hends hlearn ⊢
  generalize (v.run runner s'.run).1 = r' at hends ⊢
  cases r <;> cases r' <;> first
    | exact ⟨hlearn _ rfl, hends⟩
    | exact hends

theorem note (event : Event) :
    Lockstep runner before (Stage.note event : Stage ε Unit) (Stage.note event) (Agreed before)
      neither :=
  fun _ _ hb => ⟨rfl, hb⟩

theorem ofExcept (r : Except ε α) (hneither : ∀ fs fs', before fs fs' → neither fs fs') :
    Lockstep runner before (Stage.ofExcept r) (Stage.ofExcept r) (Agreed before) neither := by
  intro w v hb
  cases r with
  | error e => exact ⟨rfl, hneither _ _ hb⟩
  | ok a => exact ⟨rfl, hb⟩

end Lockstep

end Stage

theorem Lockstep.attempt {p p' : Program (Except SystemError α)} {S mid neither : Pairing}
    (h : Lockstep runner before p p' (Agreed mid)) (hmid : ∀ fs fs', mid fs fs' → S fs fs')
    (hneither : ∀ fs fs', mid fs fs' → neither fs fs') :
    Stage.Lockstep runner before (Stage.attempt p) (Stage.attempt p') (Agreed S) neither := by
  refine h.mono (fun _ _ hb => hb) (fun r r' fs fs' hends => ?_)
  obtain ⟨rfl, hfiles⟩ := hends
  cases r' with
  | error e => exact ⟨rfl, hneither _ _ hfiles⟩
  | ok a => exact ⟨rfl, hmid _ _ hfiles⟩

/-! ## Whole files -/

/-- A relation that knows of a name that like nodes are there, and that outlives like changes of
them. -/
structure Tracks (S : Pairing) (D : Location) (name : String) : Prop where
  facing : ∀ {fs fs' : FileSystem}, S fs fs' → Facing fs fs' D name
  next : ∀ {fs fs' fs₁ fs₁' : FileSystem}, S fs fs' → Altered (D ++ [name]) fs fs' fs₁ fs₁' →
    S fs₁ fs₁'

/-- Two handles of the file at a name. -/
def Holding (S : Pairing) (place : Location) (file file' : Handle) : Pairing :=
  fun fs fs' => S fs fs' ∧ file.place = place ∧ Twin fs fs' file file'

/-- Both handles give the same bytes and the same account of them. -/
structure SameData (fs fs' : FileSystem) (file file' : Handle) : Prop where
  read : ∀ offset count, fs'.read file' offset count = fs.read file offset count
  describeOpen : ∀ now now', fs'.describeOpen file' now' = fs.describeOpen file now

section Files

variable {S : Pairing} {D : Location} {name : String} {path : Path} {file file' : Handle}

theorem pathExists_lockstep (hf : ∀ {fs fs'}, S fs fs' → Facing fs fs' D name)
    (hs : Spells path D name) :
    Lockstep runner S (Program.file (.pathExists path)) (Program.file (.pathExists path))
      (Agreed S) :=
  fun _ _ hb => ⟨(hf hb).exists? hs _ _, hb⟩

theorem firstExisting_lockstep {paths : List Path}
    (hpaths : ∀ path ∈ paths, ∀ fs fs', S fs fs' →
      ∀ here here', fs'.exists? here' path = fs.exists? here path) :
    Lockstep runner S (firstExisting paths) (firstExisting paths) (Agreed S) := by
  induction paths with
  | nil => exact .pure fun _ _ hb => ⟨rfl, hb⟩
  | cons path rest ih =>
    have hreply : Lockstep runner S (Program.file (.pathExists path))
        (Program.file (.pathExists path)) (Agreed S) :=
      fun _ _ hb => ⟨hpaths path List.mem_cons_self _ _ hb _ _, hb⟩
    refine hreply.next fun there => ?_
    cases there with
    | true => exact .pure fun _ _ hb => ⟨rfl, hb⟩
    | false => exact ih fun other ho => hpaths other (List.mem_cons_of_mem _ ho)

theorem describe_lockstep (hf : ∀ {fs fs'}, S fs fs' → Facing fs fs' D name)
    (hs : Spells path D name) :
    Stage.Lockstep runner S (Stage.attempt (Program.file (.describe path)))
      (Stage.attempt (Program.file (.describe path)))
      (fun status status' fs fs' => status'.size = status.size ∧ S fs fs') S := by
  intro w v hb
  have hreply := (hf hb).describe hs w.machine.directory v.machine.directory
    w.machine.now v.machine.now
  change Ends _ _ (w.machine.files.describe _ path _) (v.machine.files.describe _ path _) _ _
  rcases hreply with ⟨e, he, he'⟩ | ⟨status, status', hok, hok', hsize⟩
  · rw [he, he']
    exact ⟨rfl, hb⟩
  · rw [hok, hok']
    exact ⟨hsize, hb⟩

theorem openRead_lockstep (hf : ∀ {fs fs'}, S fs fs' → Facing fs fs' D name)
    (hs : Spells path D name) :
    Stage.Lockstep runner S (Stage.attempt (Program.file (.openRead path)))
      (Stage.attempt (Program.file (.openRead path)))
      (Holding S (D ++ [name])) S := by
  intro w v hb
  have hreply := (hf hb).openRead hs w.machine.directory v.machine.directory
  change Ends _ _ (w.machine.files.openRead _ path) (v.machine.files.openRead _ path) _ _
  rcases hreply with ⟨e, he, he'⟩ | ⟨file, file', hok, hok', hplace, htwin⟩
  · rw [he, he']
    exact ⟨rfl, hb⟩
  · rw [hok, hok']
    exact ⟨hb, hplace, htwin⟩

theorem openWrite_lockstep {creation : Creation} (ht : Tracks S D name) (hs : Spells path D name) :
    Stage.Lockstep runner S (Stage.attempt (Program.file (.openWrite creation path)))
      (Stage.attempt (Program.file (.openWrite creation path)))
      (Holding S (D ++ [name])) S := by
  intro w v hb
  have hreply := (ht.facing hb).openWrite (c := creation) hs w.machine.directory
    v.machine.directory w.machine.now v.machine.now
  change Ends _ _ (w.machine.opened (w.machine.files.openWrite _ creation path _)).1
    (v.machine.opened (v.machine.files.openWrite _ creation path _)).1
    (w.machine.opened (w.machine.files.openWrite _ creation path _)).2.files
    (v.machine.opened (v.machine.files.openWrite _ creation path _)).2.files
  rcases hreply with ⟨e, he, he'⟩ | ⟨fs₁, file, fs₁', file', hok, hok', hplace, haltered, htwin⟩
  · rw [he, he']
    exact ⟨rfl, hb⟩
  · rw [hok, hok']
    exact ⟨ht.next hb haltered, hplace, htwin⟩

theorem remove_lockstep (ht : Tracks S D name) (hs : Spells path D name) :
    Lockstep runner S (Program.file (.remove path)) (Program.file (.remove path))
      (fun _ _ => S) := by
  intro w v hb
  have hreply := (ht.facing hb).remove hs w.machine.directory v.machine.directory
  change S (w.machine.change (w.machine.files.remove _ path)).2.files
    (v.machine.change (v.machine.files.remove _ path)).2.files
  rcases hreply with ⟨e, he, he'⟩ | ⟨fs₁, fs₁', hok, hok', haltered⟩
  · rw [he, he']
    exact hb
  · rw [hok, hok']
    exact ht.next hb haltered

theorem write_lockstep (ht : Tracks S D name) (offset : Nat) (bytes : Bytes) :
    Stage.Lockstep runner (Holding S (D ++ [name]) file file')
      (Stage.attempt (Program.file (.write file offset bytes)))
      (Stage.attempt (Program.file (.write file' offset bytes)))
      (fun _ _ => Holding S (D ++ [name]) file file') (Holding S (D ++ [name]) file file') := by
  intro w v hb
  obtain ⟨hS, hplace, htwin⟩ := hb
  have hfacing := ht.facing hS
  have hreply := htwin.write offset bytes w.machine.now v.machine.now (hplace ▸ hfacing.like)
    (hplace ▸ hfacing.direct _ (List.prefix_refl _))
  change Ends _ _ (w.machine.change (w.machine.files.write file offset bytes _)).1
    (v.machine.change (v.machine.files.write file' offset bytes _)).1
    (w.machine.change (w.machine.files.write file offset bytes _)).2.files
    (v.machine.change (v.machine.files.write file' offset bytes _)).2.files
  rcases hreply with ⟨e, he, he'⟩ | ⟨fs₁, fs₁', hok, hok', haltered, htwin'⟩
  · rw [he, he']
    exact ⟨rfl, hS, hplace, htwin⟩
  · rw [hok, hok']
    exact ⟨ht.next hS (hplace ▸ haltered), hplace, htwin'⟩

theorem writeAll_lockstep (ht : Tracks S D name) (bytes : Bytes) :
    Stage.Lockstep runner (Holding S (D ++ [name]) file file') (writeAll file bytes)
      (writeAll file' bytes) (Agreed (Holding S (D ++ [name]) file file'))
      (Holding S (D ++ [name]) file file') := by
  unfold writeAll
  generalize piecesOf bytes = pieces
  generalize 0 = offset
  induction pieces generalizing offset with
  | nil => exact .pure fun _ _ hb => ⟨rfl, hb⟩
  | cons piece rest ih =>
    exact (write_lockstep ht offset piece).bind fun _ _ => ih _

/-! ### Reading -/

theorem readPieces_lockstep {step : τ → Bytes → τ} {fuel offset : Nat} {state : τ}
    (hread : ∀ fs fs', S fs fs' → ∀ offset count,
      fs'.read file' offset count = fs.read file offset count) :
    Lockstep runner S (readPieces file step fuel offset state)
      (readPieces file' step fuel offset state) (Agreed S) := by
  induction fuel generalizing offset state with
  | zero => exact .pure fun _ _ hb => ⟨rfl, hb⟩
  | succ fuel ih =>
    have hreply : Lockstep runner S (Program.file (.read file offset pieceSize))
        (Program.file (.read file' offset pieceSize)) (Agreed S) :=
      fun w v hb => ⟨hread _ _ hb offset pieceSize, hb⟩
    refine hreply.next fun reply => ?_
    match reply with
    | .error e => exact .pure fun _ _ hb => ⟨rfl, hb⟩
    | .ok [] => exact .pure fun _ _ hb => ⟨rfl, hb⟩
    | .ok (b :: piece) => exact ih

theorem describeOpen_lockstep {neither : Pairing} :
    Stage.Lockstep runner (Holding S (D ++ [name]) file file')
      (Stage.attempt (Program.file (.describeOpen file)))
      (Stage.attempt (Program.file (.describeOpen file')))
      (fun status status' fs fs' => status'.size = status.size ∧
        Holding S (D ++ [name]) file file' fs fs') neither := by
  intro w v hb
  obtain ⟨status, status', hok, hok', hsize⟩ :=
    hb.2.2.describeOpen w.machine.now v.machine.now
  change Ends _ _ (w.machine.files.describeOpen file _) (v.machine.files.describeOpen file' _) _ _
  rw [hok, hok']
  exact ⟨hsize, hb⟩

theorem hashFile_lockstep (hf : ∀ {fs fs'}, S fs fs' → Facing fs fs' D name)
    (hs : Spells path D name) :
    Stage.Lockstep runner S (hashFile path) (hashFile path) (Agreed S) S := by
  have hopen : Stage.Lockstep runner S (Stage.attempt (Program.file (.openRead path)))
      (Stage.attempt (Program.file (.openRead path))) (Holding S (D ++ [name])) S :=
    openRead_lockstep hf hs
  refine hopen.bind fun file file' => ?_
  refine describeOpen_lockstep.bind fun status status' =>
    Stage.Lockstep.given fun hsize => ?_
  rw [hsize]
  refine Stage.Lockstep.next (.lift (readPieces_lockstep fun _ _ hb _ _ => hb.2.2.read)) fun read => ?_
  obtain ⟨hasher, result⟩ := read
  cases result with
  | error e => exact .throw e fun _ _ hb => hb.1
  | ok _ => exact .pure fun _ _ hb => ⟨rfl, hb.1⟩

theorem collectRecords_lockstep {entry : String}
    (hdata : ∀ fs fs', S fs fs' → SameData fs fs' file file') :
    Lockstep runner S (collectRecords file entry) (collectRecords file' entry) (Agreed S) := by
  have hstatus : Lockstep runner S (Program.file (.describeOpen file))
      (Program.file (.describeOpen file')) (Agreed S) :=
    fun _ _ hb => ⟨(hdata _ _ hb).describeOpen _ _, hb⟩
  refine hstatus.next fun status => ?_
  cases status with
  | error e => exact .pure fun _ _ hb => ⟨rfl, hb⟩
  | ok status =>
    dsimp only
    cases Tar.place entry with
    | error e => exact .pure fun _ _ hb => ⟨rfl, hb⟩
    | ok placed =>
      obtain ⟨front, field⟩ := placed
      refine Lockstep.next (readPieces_lockstep fun _ _ hb => (hdata _ _ hb).read) fun read => ?_
      obtain ⟨pieces, result⟩ := read
      cases result <;> exact .pure fun _ _ hb => ⟨rfl, hb⟩

end Files

/-! ## Packaging -/

section Packing

variable {S : Pairing} {D : Location} {name line : String} {path : Path} {file file' : Handle}
  {binary binary' : Handle} {settings : Settings}

theorem createFile_lockstep (ht : Tracks S D name) (hs : Spells path D name) :
    Stage.Lockstep runner S (createFile settings path) (createFile settings path)
      (Holding S (D ++ [name])) S :=
  (openWrite_lockstep ht hs).orElse _

theorem writeArchive_lockstep {entry : String} (ht : Tracks S D name)
    (hdata : ∀ fs fs', S fs fs' → SameData fs fs' binary binary') :
    Stage.Lockstep runner (Holding S (D ++ [name]) file file') (writeArchive file binary entry)
      (writeArchive file' binary' entry) (Agreed S) S := by
  have hrecords : Lockstep runner (Holding S (D ++ [name]) file file')
      (collectRecords binary entry) (collectRecords binary' entry)
      (Agreed (Holding S (D ++ [name]) file file')) :=
    collectRecords_lockstep fun _ _ hb => hdata _ _ hb.1
  refine Stage.Lockstep.next (.lift hrecords) fun collected => ?_
  obtain ⟨records, result⟩ := collected
  have hwrites : Lockstep runner (Holding S (D ++ [name]) file file')
      (writeAll file (Gzip.compress (records ++ Tar.terminator))).run
      (writeAll file' (Gzip.compress (records ++ Tar.terminator))).run (Agreed S) :=
    (writeAll_lockstep ht _).agreed fun _ _ hb => hb.1
  refine Stage.Lockstep.next (.lift hwrites) fun written => ?_
  cases result with
  | error e => exact .throw e fun _ _ hb => hb
  | ok _ => exact .ofExcept written fun _ _ hb => hb

theorem writeChecksum_lockstep {sidecar : String} (ht : Tracks S D name)
    (hs : Spells path D name) (ht' : Tracks S D sidecar)
    (hs' : Spells (checksumPath path) D sidecar) :
    Stage.Lockstep runner S (writeChecksum settings path line) (writeChecksum settings path line)
      (Agreed S) S := by
  refine Stage.Lockstep.next ((hashFile_lockstep ht.facing hs).orElse _) fun hash => ?_
  have hcreate : Stage.Lockstep runner S (createFile settings (checksumPath path))
      (createFile settings (checksumPath path)) (Holding S (D ++ [sidecar])) S :=
    createFile_lockstep ht' hs'
  refine hcreate.bind fun file file' => ?_
  have hwrites : Lockstep runner (Holding S (D ++ [sidecar]) file file')
      (writeAll file (Utf8.encode (hash.checksumLine line))).run
      (writeAll file' (Utf8.encode (hash.checksumLine line))).run (Agreed S) :=
    (writeAll_lockstep ht' _).agreed fun _ _ hb => hb.1
  refine Stage.Lockstep.next (.lift hwrites) fun written => ?_
  cases written with
  | error e =>
    exact Stage.Lockstep.bind (.lift (remove_lockstep ht' hs')) fun _ _ =>
      .throw _ fun _ _ hb => hb
  | ok _ => exact (Stage.Lockstep.note _).next fun _ => .pure fun _ _ hb => ⟨rfl, hb⟩

theorem fillPackage_lockstep {sidecar entry : String} {artifact : Path} (ht : Tracks S D name)
    (hs : Spells path D name) (ht' : Tracks S D sidecar)
    (hs' : Spells (checksumPath path) D sidecar)
    (hdata : ∀ fs fs', S fs fs' → SameData fs fs' binary binary') :
    Stage.Lockstep runner (Holding S (D ++ [name]) file file')
      (fillPackage settings file binary artifact path line entry)
      (fillPackage settings file' binary' artifact path line entry) (Agreed S) S := by
  refine Stage.Lockstep.next ((writeArchive_lockstep ht hdata).orElse _) fun _ => ?_
  refine Stage.Lockstep.bind ((describe_lockstep ht.facing hs).orElse _) fun status status' =>
    Stage.Lockstep.given fun hsize => ?_
  rw [hsize]
  split
  · exact (writeChecksum_lockstep ht hs ht' hs').next fun _ => .pure fun _ _ hb => ⟨rfl, hb⟩
  · exact .pure fun _ _ hb => ⟨rfl, hb⟩

/-- Files that differ in their numbers only. -/
structure SameFile (data data' : FileData) : Prop where
  content : data'.content = data.content
  mode : data'.mode = data.mode
  modified : data'.modified = data.modified

theorem SameFile.sameData {fs fs' : FileSystem} {place : Location} {data data' : FileData}
    (h : SameFile data data') (hnode : fs.node? place = some (.file data))
    (hnode' : fs'.node? place = some (.file data')) :
    SameData fs fs' ⟨place, data.serial⟩ ⟨place, data'.serial⟩ := by
  have hopen : fs.openNode? ⟨place, data.serial⟩ = some (.file data) :=
    openNode?_eq.mpr ⟨hnode, rfl⟩
  have hopen' : fs'.openNode? ⟨place, data'.serial⟩ = some (.file data') :=
    openNode?_eq.mpr ⟨hnode', rfl⟩
  refine ⟨fun offset count => ?_, fun now now' => ?_⟩
  · unfold FileSystem.read
    rw [hopen, hopen']
    simp only [h.content]
  · unfold FileSystem.describeOpen
    rw [hopen, hopen']
    simp only [statusOf, kindOf, Node.size, h.content, h.modified]

theorem packInto_lockstep {B : Location} {tool sidecar : String} {verified : VerifiedArtifact}
    {replaced : Bool} {data data' : FileData} (ht : Tracks S D name)
    (hs : Spells (packagePath settings verified.artifact.request) D name)
    (ht' : Tracks S D sidecar)
    (hs' : Spells (checksumPath (packagePath settings verified.artifact.request)) D sidecar)
    (hbinary : ∀ {fs fs'}, S fs fs' → Facing fs fs' B tool)
    (hartifact : Spells verified.artifact.path B tool) (hdata : SameFile data data')
    (hnode : ∀ {fs fs'}, S fs fs' → fs.node? (B ++ [tool]) = some (.file data))
    (hnode' : ∀ {fs fs'}, S fs fs' → fs'.node? (B ++ [tool]) = some (.file data')) :
    Stage.Lockstep runner S (packInto settings verified replaced)
      (packInto settings verified replaced) (Agreed S) S := by
  have hopen : Stage.Lockstep runner S
      (Stage.attempt (Program.file (.openRead verified.artifact.path)))
      (Stage.attempt (Program.file (.openRead verified.artifact.path)))
      (fun file file' fs fs' => (file = ⟨B ++ [tool], data.serial⟩ ∧
        file' = ⟨B ++ [tool], data'.serial⟩) ∧ S fs fs') S := by
    intro w v hb
    have hreply := (hbinary hb).openRead_file hartifact w.machine.directory v.machine.directory
      (hnode hb) (hnode' hb)
    change Ends _ _ (w.machine.files.openRead _ verified.artifact.path)
      (v.machine.files.openRead _ verified.artifact.path) _ _
    rcases hreply with ⟨e, he, he'⟩ | ⟨hok, hok'⟩
    · rw [he, he']
      exact ⟨rfl, hb⟩
    · rw [hok, hok']
      exact ⟨⟨rfl, rfl⟩, hb⟩
  refine (hopen.orElse _).bind fun opened opened' => Stage.Lockstep.given fun hopened => ?_
  obtain ⟨rfl, rfl⟩ := hopened
  refine (createFile_lockstep ht hs).bind fun file file' => ?_
  have hfill : Stage.Lockstep runner (Holding S (D ++ [name]) file file')
      (fillPackage settings file ⟨B ++ [tool], data.serial⟩ verified.artifact.path
        (packagePath settings verified.artifact.request)
        (verified.artifact.request.platform.packageName settings.product)
        (verified.artifact.request.os.executable settings.product))
      (fillPackage settings file' ⟨B ++ [tool], data'.serial⟩ verified.artifact.path
        (packagePath settings verified.artifact.request)
        (verified.artifact.request.platform.packageName settings.product)
        (verified.artifact.request.os.executable settings.product)) (Agreed S) S :=
    fillPackage_lockstep ht hs ht' hs' fun _ _ hb => hdata.sameData (hnode hb) (hnode' hb)
  refine Stage.Lockstep.next (.lift (hfill.agreed fun _ _ hb => hb)) fun filled => ?_
  cases filled with
  | error e =>
    exact Stage.Lockstep.bind (.lift (remove_lockstep ht hs)) fun _ _ =>
      (Stage.Lockstep.note _).next fun _ => .throw _ fun _ _ hb => hb
  | ok written =>
    obtain ⟨size, written⟩ := written
    exact (Stage.Lockstep.note _).next fun _ => .pure fun _ _ hb => ⟨rfl, hb⟩

end Packing

/-! ## Stages of a release -/

theorem launch_lockstep {i : Invocation} {both : ProcessOutput → ProcessOutput → Pairing}
    {neither : Pairing}
    (h : ∀ (m n : Machine) (s t : σ), before m.files n.files → Ends both neither (runner i m s).1
      (runner i n t).1 (runner i m s).2.1.files (runner i n t).2.1.files) :
    Stage.Lockstep runner before (launch i) (launch i) both neither := by
  intro w v hb
  have hcalled : ∀ w : World σ,
      w.Called runner i (w.run runner (launch i).run).1 (w.run runner (launch i).run).2 :=
    fun w => runs_launch (runs_run runner Refusals.never w _)
  have hends := h w.machine v.machine w.runner v.runner hb
  rwa [(hcalled w).1, (hcalled v).1] at hends

section Version

variable {S : Pairing} {D : Location} {name : String} {path : Path} {file file' : Handle}

theorem readFirstLine_lockstep {fuel offset : Nat} {read : Bytes}
    (hread : ∀ fs fs', S fs fs' → ∀ offset count,
      fs'.read file' offset count = fs.read file offset count) :
    Lockstep runner S (readFirstLine file fuel offset read)
      (readFirstLine file' fuel offset read) (Agreed S) := by
  induction fuel generalizing offset read with
  | zero => exact .pure fun _ _ hb => ⟨rfl, hb⟩
  | succ fuel ih =>
    have hreply : Lockstep runner S (Program.file (.read file offset pieceSize))
        (Program.file (.read file' offset pieceSize)) (Agreed S) :=
      fun _ _ hb => ⟨hread _ _ hb offset pieceSize, hb⟩
    refine hreply.next fun reply => ?_
    match reply with
    | .error e => exact .pure fun _ _ hb => ⟨rfl, hb⟩
    | .ok [] => exact .pure fun _ _ hb => ⟨rfl, hb⟩
    | .ok (b :: piece) =>
      dsimp only
      split
      · exact .pure fun _ _ hb => ⟨rfl, hb⟩
      · exact ih

theorem resolveVersion_lockstep (hf : ∀ {fs fs'}, S fs fs' → Facing fs fs' D name)
    (hs : Spells path D name) :
    Stage.Lockstep runner S (resolveVersion path) (resolveVersion path) (Agreed S) S := by
  refine ((openRead_lockstep hf hs).orElse _).bind fun file file' => ?_
  refine (describeOpen_lockstep.orElse _).bind fun status status' =>
    Stage.Lockstep.given fun hsize => ?_
  rw [hsize]
  have hline : Stage.Lockstep runner (Holding S (D ++ [name]) file file')
      (Stage.attempt (readFirstLine file (status.size + 1) 0 []))
      (Stage.attempt (readFirstLine file' (status.size + 1) 0 [])) (Agreed S) S :=
    (readFirstLine_lockstep fun _ _ hb _ _ => hb.2.2.read).attempt (fun _ _ hb => hb.1)
      fun _ _ hb => hb.1
  refine (hline.orElse _).next fun line => ?_
  exact (Stage.Lockstep.ofExcept _ fun _ _ hb => hb).next fun _ =>
    (Stage.Lockstep.note _).next fun _ => .pure fun _ _ hb => ⟨rfl, hb⟩

end Version

end Slipway
