import Slipway.Proofs.Packaging

/-!
# Trees of files

In a tree without links a name is there when its directory is and has it. Every step of packaging
leaves a tree, and creating the directories of a path changes nothing about what is in the last one.
-/

namespace Slipway

open FileSystem World

/-! ## Errors of walks -/

namespace FileSystem

variable {fs fs' : FileSystem} {here place : Location} {dir path : Path} {name : String}
  {e : SystemError} {now : Int}

theorem move_kind (h : fs.move here name = .error e) : e.kind ≠ .alreadyExists := by
  unfold move at h
  split at h
  · obtain rfl := Except.error.inj h
    decide
  · split_ifs at h
    · obtain rfl := Except.error.inj h
      decide
    · obtain rfl := Except.error.inj h
      decide
    · split at h
      · obtain rfl := Except.error.inj h
        decide
      · simp at h
      · simp at h
  · obtain rfl := Except.error.inj h
    decide

theorem takeSteps_kind {followLast : Bool} {steps : List String}
    {onLink : Location → Path → List String → Except SystemError Spot}
    (hlink : ∀ here target rest e, onLink here target rest = .error e → e.kind ≠ .alreadyExists)
    (h : takeSteps fs onLink followLast here steps = .error e) : e.kind ≠ .alreadyExists := by
  induction steps generalizing here with
  | nil => simp [takeSteps] at h
  | cons name rest ih =>
    cases takeSteps_cases h with
    | fails e' moved ends =>
      obtain rfl := Except.error.inj ends
      exact move_kind moved
    | goes next moved walks => exact ih walks
    | follows target moved on there walks => exact hlink _ _ _ _ walks
    | absent moved last enterable gone ends => simp at ends
    | unfollowed target moved last only there ends => simp at ends

/-- A walk never fails because something is there. -/
theorem walk_kind {followLast : Bool} {links : Nat} {steps : List String}
    (h : fs.walk followLast links here steps = .error e) : e.kind ≠ .alreadyExists := by
  induction links generalizing here steps e with
  | zero =>
    refine takeSteps_kind (fun _ _ _ e hlink => ?_) h
    obtain rfl := Except.error.inj hlink
    decide
  | succ links ih => exact takeSteps_kind (fun _ _ _ _ hlink => ih hlink) h

theorem refuse?_kind (h : refuse? path = some e) : e.kind ≠ .alreadyExists := by
  unfold refuse? at h
  split_ifs at h <;> obtain rfl := Option.some.inj h <;> decide

theorem findLast_kind (h : fs.findLast here path = .error e) : e.kind ≠ .alreadyExists := by
  unfold findLast at h
  split at h
  · rename_i hrefused
    obtain rfl := Except.error.inj h
    exact refuse?_kind hrefused
  · dsimp only at h
    split at h
    · rename_i hwalk
      obtain rfl := Except.error.inj h
      exact walk_kind hwalk
    · simp at h
    · obtain rfl := Except.error.inj h
      decide
    · obtain rfl := Except.error.inj h
      decide

theorem find_kind {followLast : Bool} (h : fs.find here path followLast = .error e) :
    e.kind ≠ .alreadyExists := by
  unfold find at h
  split at h
  · rename_i hrefused
    obtain rfl := Except.error.inj h
    exact refuse?_kind hrefused
  · exact walk_kind h

theorem createAt_kind {mode : Nat} (h : fs.createAt place mode now = .error e) :
    e.kind ≠ .alreadyExists := by
  unfold createAt at h
  split at h
  · split_ifs at h <;> obtain rfl := Except.error.inj h <;> decide
  · obtain rfl := Except.error.inj h
    decide

theorem openAny_kind {emptied : Bool} (h : fs.openAny here path now emptied = .error e) :
    e.kind ≠ .alreadyExists := by
  unfold openAny at h
  split at h
  · split at h
    · rename_i hlast
      obtain rfl := Except.error.inj h
      exact findLast_kind hlast
    · obtain rfl := Except.error.inj h
      decide
  · split at h
    · rename_i hfind
      obtain rfl := Except.error.inj h
      exact find_kind hfind
    · unfold openExisting at h
      split at h
      · obtain rfl := Except.error.inj h
        decide
      · split_ifs at h
        obtain rfl := Except.error.inj h
        decide
      · obtain rfl := Except.error.inj h
        decide
      · simp at h
      · obtain rfl := Except.error.inj h
        decide
      · obtain rfl := Except.error.inj h
        decide
    · exact createAt_kind h

/-! ## File systems without links -/

def LinkFree (fs : FileSystem) : Prop := ∀ q target, fs.node? q ≠ some (.link target)

theorem LinkFree.direct (h : fs.LinkFree) (place : Location) : fs.Direct place := fun q _ => h q

theorem LinkFree.grows (h : fs.LinkFree) (hg : Grows fs fs') : fs'.LinkFree := by
  intro q target hq
  rcases hg q with hsame | ⟨-, hdir⟩
  · exact h q target (hsame ▸ hq)
  · simp [hdir] at hq

theorem linkFree_of_entries (h : ∀ entry ∈ fs.entries, entry.2.isDirectory ∨ entry.2.isRegular) :
    fs.LinkFree :=
  fun q target => (ordinary_of_entries h q).1 target

/-- A tree of directories and what is in them. -/
structure Tree (fs : FileSystem) : Prop where
  links : fs.LinkFree
  rooted : fs.Rooted

theorem exists?_join_iff (hn : IsName name) (hl : fs.LinkFree) :
    fs.exists? here (dir.join name) = true ↔
      refuse? (dir.join name) = none ∧ name.utf8ByteSize ≤ maxNameBytes ∧
        ∃ place node, fs.Reaches here dir place ∧ fs.node? (place ++ [name]) = some node := by
  unfold FileSystem.exists?
  constructor
  · intro h
    cases hfind : fs.findNode here (dir.join name) with
    | error e => simp [hfind, Except.isOk, Except.toBool] at h
    | ok found =>
      obtain ⟨at', node⟩ := found
      obtain ⟨hr, hsize, place, hreach, hspot⟩ := find_join hn (findNode_eq_ok.mp hfind)
      have hnode := congrArg Spot.node (hspot (hl _))
      exact ⟨hr, hsize, place, node, hreach, hnode.symm⟩
  · rintro ⟨hr, hsize, place, node, hreach, hnode⟩
    have hfind := hreach.find hn hr hsize (hl _)
    rw [hnode] at hfind
    simp [findNode_eq_ok.mpr hfind, Except.isOk, Except.toBool]

/-- A file that must be new cannot be created where something is. -/
theorem openFresh_of_exists (hn : IsName name) (ht : fs.Tree)
    (h : fs.exists? here (dir.join name) = true) :
    fs.openFresh here (dir.join name) now = .error .alreadyThere := by
  obtain ⟨hr, hsize, place, node, hreach, hnode⟩ := (exists?_join_iff hn ht.links).mp h
  obtain ⟨mode, -, hlast⟩ := hreach.findLast hn hr
  obtain ⟨hgone, -⟩ := ht.rooted place (place ++ [name]) node (List.prefix_append _ _) (by simp)
    (not_fixed_append hn.ne_empty) hnode
  unfold openFresh
  simp [hlast, LastName.lookup, Nat.not_lt.mpr hsize, hgone, hnode]

/-- Nothing else lets the creation of a new file fail with this error. -/
theorem exists?_of_openFresh (hn : IsName name) (hl : fs.LinkFree)
    (h : fs.openFresh here (dir.join name) now = .error e) (hk : e.kind = .alreadyExists) :
    fs.exists? here (dir.join name) = true := by
  unfold openFresh at h
  cases hlast : fs.findLast here (dir.join name) with
  | error e' =>
    simp only [hlast] at h
    obtain rfl := Except.error.inj h
    exact absurd hk (findLast_kind hlast)
  | ok last =>
    obtain ⟨hr, place, mode, hreach, -, rfl⟩ := findLast_join hn hlast
    simp only [hlast, Bool.false_eq_true, if_false] at h
    split at h
    · rename_i hlook
      obtain rfl := Except.error.inj h
      unfold LastName.lookup at hlook
      split_ifs at hlook <;> obtain rfl := Except.error.inj hlook <;> exact absurd hk (by decide)
    · rename_i node hlook
      obtain ⟨hsize, -, hnode⟩ := lookup_ok hlook
      exact (exists?_join_iff hn hl).mpr ⟨hr, hsize, place, node, hreach, hnode.symm⟩
    · exact absurd hk (createAt_kind h)

theorem exists?_congr (hn : IsName name) (hl : fs.LinkFree) (hl' : fs'.LinkFree)
    (hk : Keeps fs fs') (hk' : Keeps fs' fs)
    (hsame : ∀ place, fs.Reaches here dir place →
      fs'.node? (place ++ [name]) = fs.node? (place ++ [name])) :
    fs'.exists? here (dir.join name) = fs.exists? here (dir.join name) := by
  rw [Bool.eq_iff_iff, exists?_join_iff hn hl', exists?_join_iff hn hl]
  refine and_congr_right fun _ => and_congr_right fun _ => ⟨?_, ?_⟩
  · rintro ⟨place, node, hreach, hnode⟩
    have hreach' := hreach.keeps hk'
    exact ⟨place, node, hreach', (hsame place hreach') ▸ hnode⟩
  · rintro ⟨place, node, hreach, hnode⟩
    exact ⟨place, node, hreach.keeps hk, (hsame place hreach).trans hnode⟩

theorem Rooted.sameOff {q : Location} (h : fs.Rooted) (hsame : SameOff q fs fs')
    (habove : ∀ p, p <+: q → p ≠ q → isGone p = false ∧ ∃ mode, fs.node? p = some (.directory mode))
    (hbefore : ∀ mode, fs.node? q ≠ some (.directory mode)) : fs'.Rooted := by
  intro p p' node hpre hne hfixed hnode
  by_cases hq : p' = q
  · subst hq
    rw [hsame p hne]
    exact habove p hpre hne
  · rw [hsame p' hq] at hnode
    obtain ⟨hgone, mode, hdir⟩ := h p p' node hpre hne hfixed hnode
    have hp : p ≠ q := by
      rintro rfl
      exact hbefore mode hdir
    exact ⟨hgone, mode, (hsame p hp).trans hdir⟩

theorem Rooted.of_holds {file : Handle} {content : Bytes} (h : fs.Rooted)
    (hsame : SameOff file.place fs fs') (hh : fs.Holds file content) : fs'.Rooted := by
  have hfixed := hh.not_fixed
  obtain ⟨data, hnode, -⟩ := hh
  exact h.sameOff hsame (fun p hpre hne => h p _ _ hpre hne hfixed hnode)
    (fun mode => by simp [hnode])

theorem Rooted.above {q : Location} {mode : Nat} (h : fs.Rooted) (hgone : isGone place = false)
    (hdir : fs.node? place = some (.directory mode)) (hpre : q <+: place) :
    isGone q = false ∧ ∃ mode, fs.node? q = some (.directory mode) := by
  by_cases hq : q = place
  · subst hq
    exact ⟨hgone, mode, hdir⟩
  · refine h q place _ hpre hq ?_ hdir
    rintro (rfl | hgone')
    · exact hq (List.prefix_nil.mp hpre)
    · simp [hgone] at hgone'

theorem Rooted.added {mode : Nat} (h : fs.Rooted) (hgone : isGone place = false)
    (hdir : fs.node? place = some (.directory mode)) (hnone : fs.node? (place ++ [name]) = none)
    (hsame : SameOff (place ++ [name]) fs fs') : fs'.Rooted := by
  refine h.sameOff hsame (fun p hpre hne => ?_) (fun mode => by simp [hnone])
  rcases List.prefix_concat_iff.mp hpre with rfl | hpre
  · exact absurd rfl hne
  · exact h.above hgone hdir hpre

theorem LinkFree.sameOff {q : Location} (h : fs.LinkFree) (hsame : SameOff q fs fs')
    (hafter : ∀ target, fs'.node? q ≠ some (.link target)) : fs'.LinkFree := by
  intro p target hp
  by_cases hq : p = q
  · exact hafter target (hq ▸ hp)
  · rw [hsame p hq] at hp
    exact h p target hp

theorem Tree.written {file : Handle} {content content' : Bytes} (h : fs.Tree)
    (hsame : SameOff file.place fs fs') (hh : fs.Holds file content)
    (hh' : fs'.Holds file content') : fs'.Tree := by
  obtain ⟨data', hnode', -⟩ := hh'
  exact ⟨h.links.sameOff hsame (by simp [hnode']), h.rooted.of_holds hsame hh⟩

theorem Rooted.makeDirectory (h : fs.Rooted) (hmade : fs.makeDirectory here path = .ok fs') :
    fs'.Rooted := by
  obtain ⟨last, name, hlast, -, hgone, -, hnone, -, hsame⟩ := makeDirectory_last hmade
  exact h.added hgone (findLast_directory hlast) hnone hsame

theorem Tree.makeDirectory (h : fs.Tree) (hmade : fs.makeDirectory here path = .ok fs') :
    fs'.Tree := by
  obtain ⟨last, name, -, -, -, -, -, hdir, hsame⟩ := makeDirectory_last hmade
  exact ⟨h.links.sameOff hsame (by simp [hdir]), h.rooted.makeDirectory hmade⟩

end FileSystem

/-- Creating the directories of a path that never goes up changes nothing about what is in the last
one: if something was, all of them were there. -/
theorem GrowsAlong.exists? {fs fs' : FileSystem} {here : Location} {dir : Path} {name : String}
    (hn : IsName name) (ht : fs.Tree) (hp : Descends (stepsOf dir))
    (h : GrowsAlong (wayOf here dir) fs fs') :
    fs'.exists? here (dir.join name) = fs.exists? here (dir.join name) := by
  have hl' := ht.links.grows h.grows
  have hbeside : ∀ {q : Location}, ¬ q ++ [name] <+: q := fun hpre => by
    have hlen := hpre.length_le
    rw [List.length_append, List.length_singleton] at hlen
    omega
  have hsame : fs'.node? (wayOf here dir ++ [name]) = fs.node? (wayOf here dir ++ [name]) :=
    (h _).resolve_right (fun hadded => hbeside hadded.1)
  rw [Bool.eq_iff_iff, exists?_join_iff hn hl', exists?_join_iff hn ht.links]
  refine and_congr_right fun _ => and_congr_right fun _ => ⟨?_, ?_⟩
  · rintro ⟨place, node, hreach, hnode⟩
    obtain rfl := hreach.eq_wayOf hp (hl'.direct _)
    rw [hsame] at hnode
    -- What is there is below directories, so no directory of the way was missing.
    have hkeeps : Keeps fs' fs := by
      intro q there _ hq
      rcases h q with hstays | ⟨hway, hnone, -⟩
      · rwa [← hstays]
      · have hpre : q <+: wayOf here dir ++ [name] := hway.trans (List.prefix_append _ _)
        have hne : q ≠ wayOf here dir ++ [name] := by
          rintro rfl
          exact hbeside hway
        obtain ⟨-, mode, hdir⟩ :=
          ht.rooted q _ node hpre hne (not_fixed_append hn.ne_empty) hnode
        simp [hdir] at hnone
    exact ⟨_, node, hreach.keeps hkeeps, hnode⟩
  · rintro ⟨place, node, hreach, hnode⟩
    exact ⟨place, node, hreach.keeps h.grows.keeps, h.grows.keep hnode⟩

/-! ## Programs on trees -/

variable {σ : Type} {runner : Runner σ} {may : Refusals} {w w' : World σ} {settings : Settings}
  {fs : FileSystem} {place : Location} {dir : Path} {name : String} {file : Handle}

theorem runs_makeDirectories_tree {path : Path} {r : Except SystemError Unit}
    (ht : w.machine.files.Tree) (h : w.Runs runner may (makeDirectories path).run r w') :
    w'.machine.files.Tree :=
  runs_makeDirectories_only (R := fun m m' => m.files.Tree → m'.files.Tree) h
    (fun _ => id) (fun h h' => h' ∘ h) (fun _ hfs ht => ht.makeDirectory hfs) ht

theorem Created.rooted {fs' : FileSystem} {here : Location} (hc : settings.collision = .fail)
    (h : Created settings fs here dir name place fs' file) (hr : fs.Rooted) : fs'.Rooted := by
  obtain ⟨hgone, mode, hdir, -⟩ := h.changeable hc
  exact hr.added hgone hdir (h.fresh hc) h.opens.sameOff

theorem Created.tree {fs' : FileSystem} {here : Location} (hc : settings.collision = .fail)
    (h : Created settings fs here dir name place fs' file) (ht : fs.Tree) : fs'.Tree := by
  obtain ⟨data, hnode, -⟩ := h.opens.holds
  rw [h.opens.place_eq] at hnode
  exact ⟨ht.links.sameOff h.opens.sameOff (by simp [hnode]), h.rooted hc ht.rooted⟩

end Slipway
