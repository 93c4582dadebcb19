import Slipway.Proofs.Lineage
import Slipway.Proofs.Readiness
import Slipway.Proofs.Trees

/-!
# The relocation of a built binary

A build calls the toolchain once. Either it moves what the toolchain left under its own name to the
canonical name, and touches nothing else, or it fails with an error that says why and leaves the
files as the toolchain left them. A name that leads to a file is given to nothing else: after the
rename the old name is free, and whatever a path leads to it led to before.
-/

namespace Slipway

namespace FileSystem

variable {fs fs' : FileSystem} {here place : Location} {dir : Path} {name newName : String}

/-! ## Ways after a rename -/

/-- The first file system becomes the second one when a name in the directory at `place` is changed
that leads to no directory. -/
structure Renamed (fs fs' : FileSystem) (place : Location) (name newName : String) : Prop where
  old : IsName name
  new : IsName newName
  gone : fs'.node? (place ++ [name]) = none
  moved : fs'.node? (place ++ [newName]) = fs.node? (place ++ [name])
  others : ∀ q, q ≠ place ++ [name] → q ≠ place ++ [newName] → fs'.node? q = fs.node? q
  ends : ∃ links spot, fs.walk true links place [name] = .ok spot ∧
    ∀ mode, spot.node ≠ some (.directory mode)

theorem Renamed.not_directory (h : Renamed fs fs' place name newName) (mode : Nat) :
    fs.node? (place ++ [name]) ≠ some (.directory mode) := by
  obtain ⟨links, spot, hwalk, hspot⟩ := h.ends
  intro hnode
  obtain ⟨-, -, rfl⟩ := (walk_name h.old (by simp [hnode])).mp hwalk
  exact hspot mode hnode

theorem Renamed.directory {mode : Nat} (h : Renamed fs fs' place name newName)
    (hdir : fs'.node? here = some (.directory mode)) : fs.node? here = some (.directory mode) := by
  by_cases hold : here = place ++ [name]
  · subst hold
    simp [h.gone] at hdir
  · by_cases hnew : here = place ++ [newName]
    · subst hnew
      exact absurd (h.moved ▸ hdir) (h.not_directory mode)
    · rwa [← h.others here hold hnew]

theorem Renamed.move {step : String} {next : Location ⊕ Path}
    (h : Renamed fs fs' place name newName) (hmove : fs'.move here step = .ok next) :
    fs.move here step = .ok next ∨ here = place ∧ step = newName := by
  by_cases hnew : here ++ [step] = place ++ [newName]
  · obtain ⟨rfl, hstep⟩ := List.append_inj' hnew rfl
    exact Or.inr ⟨rfl, List.singleton_inj.mp hstep⟩
  refine Or.inl ?_
  unfold FileSystem.move at hmove ⊢
  cases hnode : fs'.node? here with
  | none => simp [hnode] at hmove
  | some node =>
    cases node with
    | directory mode =>
      rw [hnode] at hmove
      rw [h.directory hnode]
      dsimp only at hmove ⊢
      split_ifs at hmove ⊢ <;> try exact hmove
      by_cases hold : here ++ [step] = place ++ [name]
      · simp [hold, h.gone] at hmove
      · rwa [← h.others _ hold hnew]
    | _ => simp [hnode] at hmove

/-- A walk through the new name would have gone on through the old one, which leads to no
directory. -/
theorem Renamed.no_walk_new {links : Nat} {rest : List String} {spot : Spot}
    (h : Renamed fs fs' place name newName)
    (hlink : ∀ target, fs'.follow true links place target (rest ++ ["."]) = .ok spot →
      ∃ spot', fs.follow true links place target (rest ++ ["."]) = .ok spot') :
    fs'.walk true links place (newName :: (rest ++ ["."])) ≠ .ok spot := by
  intro hwalk
  have hrest : rest ++ ["."] ≠ [] := by simp
  obtain ⟨links', last, hlast, hnone⟩ := h.ends
  rw [walk_cons hrest] at hwalk
  cases hmove : fs'.move place newName with
  | error e => simp [hmove] at hwalk
  | ok next =>
    obtain ⟨⟨mode, hdir, hexec⟩, hsize⟩ := size_of_move h.new hmove
    have hthere := hmove
    rw [move_name h.new ⟨mode, hdir, hexec⟩ hsize, h.moved] at hthere
    have hbefore := move_name h.old ⟨mode, h.directory hdir, hexec⟩ (size_of_walk_name h.old hlast)
    rw [hmove] at hwalk
    cases hnode : fs.node? (place ++ [name]) with
    | none => simp [hnode] at hthere
    | some node =>
      rw [hnode] at hthere hbefore
      cases node with
      | link target =>
        obtain rfl := Except.ok.inj hthere
        obtain ⟨spot', hfollow⟩ := hlink _ hwalk
        have hon : fs.walk true links place ([name] ++ (rest ++ ["."])) = .ok spot' := by
          rw [List.singleton_append, walk_cons hrest, hbefore]
          exact hfollow
        obtain ⟨mode', hlastdir⟩ := directory_of_walk_append hrest hon hlast
        exact hnone mode' hlastdir
      | directory mode' => exact h.not_directory mode' hnode
      | _ =>
        obtain rfl := Except.ok.inj hthere
        obtain ⟨mode', hnew⟩ := directory_of_walk hwalk hrest
        exact h.not_directory mode' (h.moved ▸ hnew)

theorem Renamed.walk_of_follow {links : Nat} {steps : List String} {spot : Spot}
    (h : Renamed fs fs' place name newName)
    (hlink : ∀ here target rest spot, fs'.follow true links here target (rest ++ ["."]) = .ok spot →
      fs.follow true links here target (rest ++ ["."]) = .ok ⟨spot.place, fs.node? spot.place⟩)
    (hwalk : fs'.walk true links here (steps ++ ["."]) = .ok spot) :
    fs.walk true links here (steps ++ ["."]) = .ok ⟨spot.place, fs.node? spot.place⟩ := by
  induction steps generalizing here with
  | nil =>
    obtain ⟨⟨mode, hdir, hexec⟩, rfl⟩ := walk_dot.mp hwalk
    exact walk_dot.mpr ⟨⟨mode, h.directory hdir, hexec⟩, rfl⟩
  | cons step rest ih =>
    have hrest : rest ++ ["."] ≠ [] := by simp
    rw [List.cons_append, walk_cons hrest] at hwalk ⊢
    cases hmove : fs'.move here step with
    | error e => simp [hmove] at hwalk
    | ok next =>
      rcases h.move hmove with hbefore | ⟨rfl, rfl⟩
      · rw [hmove] at hwalk
        rw [hbefore]
        cases next with
        | inl next => exact ih hwalk
        | inr target => exact hlink _ _ _ _ hwalk
      · rw [← walk_cons hrest] at hwalk
        exact absurd hwalk (h.no_walk_new (fun target hfollow => ⟨_, hlink _ _ _ _ hfollow⟩))

/-- Whatever a path leads to after the rename, it led to before. -/
theorem Renamed.walk {links : Nat} {steps : List String} {spot : Spot}
    (h : Renamed fs fs' place name newName)
    (hwalk : fs'.walk true links here (steps ++ ["."]) = .ok spot) :
    fs.walk true links here (steps ++ ["."]) = .ok ⟨spot.place, fs.node? spot.place⟩ := by
  induction links generalizing here steps spot with
  | zero =>
    refine h.walk_of_follow (fun _ _ _ _ hlink => ?_) hwalk
    exact absurd hlink (by simp [follow])
  | succ links ih =>
    refine h.walk_of_follow (fun here target rest spot hlink => ?_) hwalk
    rw [follow, ← List.append_assoc] at hlink ⊢
    exact ih hlink

theorem Renamed.reaches {q : Location} (h : Renamed fs fs' place name newName)
    (hreach : fs'.Reaches here dir q) : fs.Reaches here dir q :=
  h.walk hreach

/-! ## The rename of a file -/

theorem fixed_append_congr {p q rest : Location} (h : rest ≠ []) :
    Fixed (p ++ rest) ↔ Fixed (q ++ rest) := by
  unfold Fixed isGone
  rw [List.getLast?_append_of_ne_nil _ h, List.getLast?_append_of_ne_nil _ h]
  simp [h]

theorem node?_moveTree_of_ne {q : Location} (hne : name ≠ newName) (hrooted : fs.Rooted)
    (hold : ∀ mode, fs.node? (place ++ [name]) ≠ some (.directory mode))
    (hnew : ∀ mode, fs.node? (place ++ [newName]) ≠ some (.directory mode))
    (hq : q ≠ place ++ [name]) (hq' : q ≠ place ++ [newName]) :
    (fs.moveTree (place ++ [name]) (place ++ [newName])).node? q = fs.node? q := by
  by_cases hfixed : Fixed q
  · rw [node?_of_fixed hfixed, node?_of_fixed hfixed]
  have hapart : ∀ rest, ¬ place ++ [newName] <+: place ++ [name] ++ rest := by
    intro rest hpre
    have heq := List.prefix_of_prefix_length_le hpre (List.prefix_append _ _) (by simp)
    exact hne (by simpa using (heq.eq_of_length (by simp)).symm)
  by_cases ho : place ++ [name] <+: q
  · obtain ⟨rest, rfl⟩ := ho
    have hrest : rest ≠ [] := by simpa using hq
    rw [hrooted.none_below hold hrest hfixed,
      node?_moveTree_origin hfixed (List.prefix_append _ _) (hapart rest)]
  · by_cases hd : place ++ [newName] <+: q
    · obtain ⟨rest, rfl⟩ := hd
      have hrest : rest ≠ [] := by simpa using hq'
      have hfixed' : ¬ Fixed (place ++ [name] ++ rest) :=
        (fixed_append_congr hrest).not.mpr hfixed
      rw [hrooted.none_below hnew hrest hfixed,
        node?_moveTree_destination hfixed' hfixed (hapart rest),
        hrooted.none_below hold hrest hfixed']
    · exact node?_moveTree_of_apart ho hd

theorem renamed_of_renameWith {moved : FileSystem × Location × Location} (hn : IsName name)
    (hn' : IsName newName) (hne : name ≠ newName) (hrooted : fs.Rooted)
    (hregular : fs.satisfies here (dir.join name) Node.isRegular = true)
    (h : fs.renameWith here (dir.join name) (dir.join newName) = .ok moved) :
    ∃ place, fs.Reaches here dir place ∧ moved.2 = (place ++ [name], place ++ [newName]) ∧
      (∀ mode, fs.node? (place ++ [newName]) ≠ some (.directory mode)) ∧
      Renamed fs moved.1 place name newName := by
  obtain ⟨place, hreach, hplaces, node, hnode, hmoved⟩ := renameWith_join hn hn' h
  have hdiffer : place ++ [name] ≠ place ++ [newName] := by simpa using hne
  obtain ⟨hmoved, hreplaced⟩ := hmoved.resolve_left (fun hsame => hdiffer hsame.2)
  -- The walk to the file shows that no directory is behind the name.
  have hends : ∃ links spot, fs.walk true links place [name] = .ok spot ∧
      ∀ mode, spot.node ≠ some (.directory mode) := by
    unfold satisfies at hregular
    split at hregular
    · rename_i found file hfound
      have hfind := findNode_eq_ok.mp hfound
      unfold find at hfind
      split at hfind
      · simp at hfind
      · obtain ⟨-, links, hmore⟩ := hreach.walk_on
        rw [hn.startOf_join, hn.walkSteps_join, hmore _ (List.cons_ne_nil _ _)] at hfind
        refine ⟨links, _, hfind, fun mode hdir => ?_⟩
        rw [Option.some.inj hdir] at hregular
        simp [Node.isRegular] at hregular
    · simp at hregular
  have hold : ∀ mode, fs.node? (place ++ [name]) ≠ some (.directory mode) := by
    obtain ⟨links, spot, hwalk, hspot⟩ := hends
    intro mode hdir
    obtain ⟨-, -, rfl⟩ := (walk_name hn (by simp [hdir])).mp hwalk
    exact hspot mode hdir
  have hnew : ∀ mode, fs.node? (place ++ [newName]) ≠ some (.directory mode) := by
    intro mode hdir
    have hfile := hreplaced mode hdir
    cases node with
    | directory mode' => exact hold mode' hnode
    | _ => simp [Node.isDirectory] at hfile
  have hapart : ¬ place ++ [newName] <+: place ++ [name] := fun hpre =>
    hdiffer (hpre.eq_of_length (by simp)).symm
  rw [hmoved]
  refine ⟨place, hreach, hplaces, hnew, hn, hn', ?_, ?_, fun q hq hq' =>
    node?_moveTree_of_ne hne hrooted hold hnew hq hq', hends⟩
  · exact node?_moveTree_origin (not_fixed_append hn.ne_empty) (List.prefix_refl _) hapart
  · exact node?_moveTree_new (not_fixed_append hn.ne_empty) (not_fixed_append hn'.ne_empty) hapart

end FileSystem

/-! ## On a machine -/

namespace Machine

variable {m : Machine} {dir : Path} {name newName : String}

/-- The files are a tree, and the current directory is in it. -/
structure Sound (m : Machine) : Prop where
  rooted : m.files.Rooted
  directory : ∀ p, p <+: m.directory → ∃ mode, m.files.node? p = some (.directory mode)

theorem sound_of_entries (hdirectory : m.directory = [])
    (h : ∀ entry ∈ m.files.entries, ∀ p ∈ entry.1.inits, p ≠ entry.1 →
      FileSystem.isGone p = false ∧ (m.files.node? p).any Node.isDirectory = true) : m.Sound := by
  refine ⟨FileSystem.rooted_of_entries h,
    fun p hp => ⟨newDirectoryMode, FileSystem.node?_of_fixed (Or.inl ?_)⟩⟩
  rwa [hdirectory, List.prefix_nil] at hp

theorem orphaned_of_apart {removed place : Location} (h : ¬ removed <+: place) :
    FileSystem.orphaned removed place = place := by
  unfold FileSystem.orphaned
  split
  · rename_i rest heq
    rw [List.isPrefixOf?_eq_some_iff_append_eq] at heq
    exact absurd ⟨rest, heq⟩ h
  · rfl

/-- Nobody is in what is renamed or replaced, so the current directory stays the same. -/
theorem Sound.renamed_stays {moved : FileSystem × Location × Location} {place : Location}
    (hm : m.Sound) (hne : name ≠ newName)
    (hplaces : moved.2 = (place ++ [name], place ++ [newName]))
    (hold : ∀ mode, m.files.node? (place ++ [name]) ≠ some (.directory mode))
    (hnew : ∀ mode, m.files.node? (place ++ [newName]) ≠ some (.directory mode)) :
    (m.renamed (.ok moved)).2.directory = m.directory ∧
      (m.renamed (.ok moved)).2.files = moved.1 := by
  obtain ⟨files, origin, destination⟩ := moved
  obtain ⟨rfl, rfl⟩ := Prod.mk.inj hplaces
  have hstays : FileSystem.rebase (place ++ [name]) (place ++ [newName])
      (FileSystem.orphaned (place ++ [newName]) m.directory) = m.directory := by
    rw [orphaned_of_apart, FileSystem.rebase_of_apart]
    · intro hpre
      obtain ⟨mode, hdir⟩ := hm.directory _ hpre
      exact hold mode hdir
    · intro hpre
      obtain ⟨mode, hdir⟩ := hm.directory _ hpre
      exact hnew mode hdir
  have hdiffer : place ++ [name] ≠ place ++ [newName] := by simpa using hne
  simp only [renamed, if_neg hdiffer, forget, relocate, hstays, and_self]

theorem Sound.old_name_free {moved : FileSystem × Location × Location} (hm : m.Sound)
    (hn : IsName name) (hn' : IsName newName) (hne : name ≠ newName)
    (hregular : m.files.satisfies m.directory (dir.join name) Node.isRegular = true)
    (h : m.files.renameWith m.directory (dir.join name) (dir.join newName) = .ok moved) :
    (m.renamed (.ok moved)).2.files.exists? (m.renamed (.ok moved)).2.directory (dir.join name)
      = false := by
  obtain ⟨place, hreach, hplaces, hnew, hren⟩ :=
    FileSystem.renamed_of_renameWith hn hn' hne hm.rooted hregular h
  obtain ⟨hdirectory, hfiles⟩ := hm.renamed_stays hne hplaces hren.not_directory hnew
  rw [hdirectory, hfiles]
  refine FileSystem.exists?_join hn (fun q hq => ?_)
  rw [(hren.reaches hq).unique hreach]
  exact hren.gone

end Machine

open FileSystem World

variable {σ : Type} {runner : Runner σ} {may : Refusals} {w w' : World σ} {settings : Settings}
  {toolchain : Path} {request : BuildRequest} {m m' : Machine} {os : Os} {here place : Location}
  {fs : FileSystem} {path dir : Path} {name newName : String}

/-! ## Names in file systems without links -/

namespace FileSystem

/-- Without links a name leads to what its directory has under it. -/
theorem findNode_join_iff (hn : IsName name) (hl : fs.LinkFree) {node : Node} :
    fs.findNode here (dir.join name) = .ok (place, node) ↔
      refuse? (dir.join name) = none ∧ name.utf8ByteSize ≤ maxNameBytes ∧
        ∃ found, fs.Reaches here dir found ∧ place = found ++ [name] ∧
          fs.node? place = some node := by
  rw [findNode_eq_ok]
  constructor
  · intro hfind
    obtain ⟨hr, hsize, found, hreach, hspot⟩ := find_join hn hfind
    obtain ⟨rfl, hnode⟩ := Spot.mk.inj (hspot (hl _))
    exact ⟨hr, hsize, found, hreach, rfl, hnode.symm⟩
  · rintro ⟨hr, hsize, found, hreach, rfl, hnode⟩
    rw [← hnode]
    exact hreach.find hn hr hsize (hl _)

theorem LinkFree.reaches (hl : fs.LinkFree) (h : fs.Reaches here dir place) :
    place = placeOf here dir :=
  h.eq_placeOf fun q _ => hl q

theorem resolveSteps_landing
    {onLink : Location → Path → List String → Except SystemError Location} {steps : List String}
    (hl : fs.LinkFree) (h : resolveSteps fs onLink here steps = .ok place) :
    place = landing here steps := by
  induction steps generalizing here with
  | nil => exact (Except.ok.inj h).symm
  | cons step rest ih =>
    change place = landing (stepped here step) rest
    rw [resolveSteps] at h
    unfold stepped
    split_ifs at h ⊢
    · exact ih h
    · exact ih h
    · unfold findNode at h
      cases hfind : fs.find [] (pathOf (here ++ [step])) false with
      | error e => simp [hfind] at h
      | ok spot =>
        obtain ⟨found, _ | node⟩ := spot
        · simp [hfind] at h
        · have hnode : fs.node? found = some node := by
            unfold find at hfind
            split at hfind
            · simp at hfind
            · exact (walk_node hfind).symm
          simp only [hfind] at h
          cases node with
          | link target => exact absurd hnode (hl found target)
          | _ =>
            dsimp only at h
            split_ifs at h
            exact ih h

theorem resolve_landing {links : Nat} {steps : List String} (hl : fs.LinkFree)
    (h : fs.resolve links here steps = .ok place) : place = landing here steps := by
  cases links <;> exact resolveSteps_landing hl h

theorem canonicalize_landing (hn : IsName name) (hl : fs.LinkFree)
    (h : fs.canonicalize here (dir.join name) = .ok path) :
    path = pathOf (placeOf here dir ++ [name]) := by
  unfold canonicalize at h
  split_ifs at h
  obtain ⟨found, hfound, rfl⟩ := map_eq_ok h
  rw [resolve_landing hl hfound, hn.startOf_join, hn.walkSteps_join, landing_append]
  simp [placeOf, landing, stepped, hn.ne_empty, hn.ne_dot, hn.ne_dots]

theorem findable_of_renameWith {moved : FileSystem × Location × Location} (hn : IsName name)
    (hn' : IsName newName)
    (h : fs.renameWith here (dir.join name) (dir.join newName) = .ok moved) :
    refuse? (dir.join newName) = none ∧ newName.utf8ByteSize ≤ maxNameBytes := by
  unfold renameWith at h
  cases hold : fs.findLast here (dir.join name) with
  | error e => simp [hold] at h
  | ok old =>
    cases hnew : fs.findLast here (dir.join newName) with
    | error e => simp [hold, hnew] at h
    | ok new =>
      obtain ⟨-, place, mode, -, -, rfl⟩ := findLast_join hn hold
      obtain ⟨hr, place', mode', -, -, rfl⟩ := findLast_join hn' hnew
      simp only [hold, hnew] at h
      split at h
      · simp at h
      · simp at h
      · split at h
        · simp at h
        · rename_i hlook
          exact ⟨hr, (lookup_ok hlook).1⟩

end FileSystem

/-! ## What the relocation leaves -/

/-- The name that the toolchain gives to the binary, and the one that it gets. -/
def producedName (settings : Settings) (os : Os) : String := os.executable settings.toolchainOutput
def canonicalName (settings : Settings) (os : Os) : String := os.executable settings.product

/-- The binary left its produced name for the canonical one, both in the directory at `dir`. -/
structure Relocated (settings : Settings) (os : Os) (dir : Location) (m m' : Machine) : Prop where
  directory : m'.directory = m.directory
  /-- What was at a stale canonical name is gone: the very node that was produced is there now. -/
  binary : ∃ node, node.isRegular = true ∧
    m.files.findNode m.directory (producedPath settings os)
      = .ok (dir ++ [producedName settings os], node) ∧
    m'.files.findNode m'.directory (canonicalPath settings os)
      = .ok (dir ++ [canonicalName settings os], node)
  gone : producedName settings os ≠ canonicalName settings os →
    m'.files.node? (dir ++ [producedName settings os]) = none ∧
      m'.files.exists? m'.directory (producedPath settings os) = false
  others : ∀ q, q ≠ dir ++ [producedName settings os] → q ≠ dir ++ [canonicalName settings os] →
    m'.files.node? q = m.files.node? q

theorem relocated_of_renameWith {moved : FileSystem × Location × Location}
    (hproduct : IsName settings.product)
    (houtput : IsName settings.toolchainOutput) (hl : m.files.LinkFree) (hm : m.Sound)
    (hregular : m.files.satisfies m.directory (producedPath settings os) Node.isRegular = true)
    (h : m.files.renameWith m.directory (producedPath settings os) (canonicalPath settings os)
      = .ok moved) :
    Relocated settings os (placeOf m.directory settings.buildDir) m (m.renamed (.ok moved)).2 := by
  have hn : IsName (producedName settings os) := isName_executable houtput os
  have hn' : IsName (canonicalName settings os) := isName_executable hproduct os
  obtain ⟨hr, hsize⟩ := findable_of_renameWith hn hn' h
  obtain ⟨found, node, hfind, hfile⟩ : ∃ found node, m.files.findNode m.directory
      (producedPath settings os) = .ok (found, node) ∧ node.isRegular = true := by
    unfold satisfies at hregular
    split at hregular
    · rename_i found node hfind
      exact ⟨found, node, hfind, hregular⟩
    · simp at hregular
  obtain ⟨hr', hsize', dir, hreach, rfl, hnode⟩ := (findNode_join_iff hn hl).mp hfind
  rw [← hl.reaches hreach]
  -- A rename of a file to its own name leaves everything as it is.
  by_cases hne : producedName settings os = canonicalName settings os
  · have hsame : (m.renamed (.ok moved)).2 = m := by
      obtain ⟨place, -, hplaces, -⟩ := renameWith_join hn hn' h
      obtain ⟨files, origin, destination⟩ := moved
      obtain ⟨rfl, rfl⟩ := Prod.mk.inj hplaces
      simp [Machine.renamed, hne]
    rw [hsame]
    refine ⟨rfl, ⟨node, hfile, hfind, ?_⟩, fun h => absurd hne h, fun q _ _ => rfl⟩
    rw [canonicalPath, ← canonicalName, ← hne]
    exact hfind
  · obtain ⟨place, hreach', hplaces, hnew, hren⟩ :=
      renamed_of_renameWith hn hn' hne hm.rooted hregular h
    obtain rfl := hreach'.unique hreach
    obtain ⟨hdirectory, hfiles⟩ := hm.renamed_stays hne hplaces hren.not_directory hnew
    have hmoved := hren.moved.trans hnode
    have hlink : ∀ target, node ≠ .link target := fun target heq => hl _ target (heq ▸ hnode)
    -- The walk to the build directory meets neither name: one is no directory, the other no link.
    have hkeeps : Keeps m.files moved.1 := fun q other hleads hq => by
      have hplace : ∀ name', (∀ mode, m.files.node? (place ++ [name']) ≠ some (.directory mode)) →
          q ≠ place ++ [name'] := by
        rintro name' hdirectory rfl
        cases other with
        | directory mode => exact hdirectory mode hq
        | link target => exact hl _ target hq
        | file | device | tool => exact hleads
      rw [hren.others q (hplace _ hren.not_directory) (hplace _ hnew), hq]
    have hreaches : moved.1.Reaches m.directory settings.buildDir place := hreach.keeps hkeeps
    have hcanonical : moved.1.find m.directory (canonicalPath settings os)
        = .ok ⟨place ++ [canonicalName settings os], some node⟩ := by
      rw [← hmoved]
      exact hreaches.find hn' hr hsize fun target heq =>
        hlink target (Option.some.inj (hmoved.symm.trans heq))
    have hfree := hm.old_name_free hn hn' hne hregular h
    rw [hdirectory, hfiles] at hfree
    refine ⟨hdirectory, ⟨node, hfile, hfind, ?_⟩, fun _ => ⟨?_, ?_⟩, ?_⟩
    · rw [hdirectory, hfiles]
      exact findNode_eq_ok.mpr hcanonical
    · rw [hfiles]
      exact hren.gone
    · rw [hdirectory, hfiles]
      exact hfree
    · rw [hfiles]
      exact hren.others

/-! ## The outcomes of a build -/

/-- The toolchain ran and reported success. -/
def ExitedWell (answer : Except SystemError ProcessOutput) : Prop :=
  ∃ output, answer = .ok output ∧ output.code = some 0

theorem not_exitedWell_error {e : SystemError} : ¬ ExitedWell (.error e) := by
  rintro ⟨output, h, -⟩
  simp at h

theorem exitedWell_ok {output : ProcessOutput} :
    ExitedWell (.ok output) ↔ output.code = some 0 := by
  simp [ExitedWell]

/-- Whether a file has the name that the toolchain gives to the binary. -/
def Machine.Produced (m : Machine) (settings : Settings) (os : Os) : Prop :=
  m.files.satisfies m.directory (producedPath settings os) Node.isRegular = true

/-- How a build ends whose toolchain gave `answer` and left the machine `m`: each outcome has its
own condition. `renamed` is what became of the rename, which is tried when a binary was produced. -/
structure Concluded (may : Refusals) (toolchain : Path) (settings : Settings)
    (request : BuildRequest) (answer : Except SystemError ProcessOutput) (m m' : Machine)
    (renamed : Except SystemError Unit) (r : Except BuildError Artifact) : Prop where
  tried : ExitedWell answer → m.Produced settings request.os → m.Performs may
    (.rename (producedPath settings request.os) (canonicalPath settings request.os)) renamed m'
  spawn : ∀ command e, r = .error (.spawn command e) ↔
    command = (publishInvocation toolchain settings request).commandLine ∧ answer = .error e
  failed : ∀ command code stderr, r = .error (.failed command code stderr) ↔
    command = (publishInvocation toolchain settings request).commandLine ∧
      ∃ output, answer = .ok output ∧ output.code ≠ some 0 ∧ code = output.code ∧
        stderr = trimBlanks (Utf8.decodeLossy output.stderr)
  missing : ∀ path, r = .error (.missingOutput path) ↔
    path = producedPath settings request.os ∧ ExitedWell answer ∧ ¬ m.Produced settings request.os
  relocate : ∀ origin destination e, r = .error (.relocate origin destination e) ↔
    (origin = producedPath settings request.os ∧ destination = canonicalPath settings request.os) ∧
      ExitedWell answer ∧ m.Produced settings request.os ∧ renamed = .error e
  succeeds : (∃ artifact, r = .ok artifact) ↔
    ExitedWell answer ∧ m.Produced settings request.os ∧ renamed = .ok ()
  /-- An error leaves everything as the toolchain left it. -/
  unchanged : ∀ e, r = .error e → m' = m
  /-- The artifact is for the same request and where the binary is now. Its location is spelled out
  in full, unless the system fails to do so. -/
  relocated : ∀ artifact, r = .ok artifact → artifact.request = request ∧
    Relocated settings request.os (placeOf m.directory settings.buildDir) m m' ∧
    (artifact.path = pathOf
        (placeOf m.directory settings.buildDir ++ [canonicalName settings request.os]) ∨
      artifact.path = canonicalPath settings request.os ∧
        ∀ found,
          m'.files.canonicalize m'.directory (canonicalPath settings request.os) = .ok found →
          may (.canonicalize (canonicalPath settings request.os)))

section Concluded

variable {renamed : Except SystemError Unit} {answer : Except SystemError ProcessOutput}
  {output : ProcessOutput} {e : SystemError}

theorem concluded_spawn : Concluded may toolchain settings request (.error e) m m renamed
    (.error (.spawn (publishInvocation toolchain settings request).commandLine e)) := by
  constructor <;> simp [not_exitedWell_error, eq_comm]

theorem concluded_failed (hcode : output.code ≠ some 0) :
    Concluded may toolchain settings request (.ok output) m m renamed (.error (.failed
      (publishInvocation toolchain settings request).commandLine output.code
      (trimBlanks output.stderrText))) := by
  constructor <;> simp [exitedWell_ok, hcode, eq_comm, ProcessOutput.stderrText]

theorem concluded_missing (hcode : output.code = some 0)
    (hnone : ¬ m.Produced settings request.os) :
    Concluded may toolchain settings request (.ok output) m m renamed
      (.error (.missingOutput (producedPath settings request.os))) := by
  constructor <;> simp [exitedWell_ok, hcode, hnone, eq_comm]

theorem concluded_relocate (hcode : output.code = some 0) (hsome : m.Produced settings request.os)
    (htried : m.Performs may (.rename (producedPath settings request.os)
      (canonicalPath settings request.os)) (.error e) m) :
    Concluded may toolchain settings request (.ok output) m m (.error e) (.error (.relocate
      (producedPath settings request.os) (canonicalPath settings request.os) e)) := by
  constructor <;> simp [exitedWell_ok, hcode, hsome, htried, eq_comm, and_assoc]

theorem concluded_ok {path : Path} (hcode : output.code = some 0)
    (hsome : m.Produced settings request.os)
    (htried : m.Performs may
      (.rename (producedPath settings request.os) (canonicalPath settings request.os)) (.ok ()) m')
    (hrelocated : Relocated settings request.os (placeOf m.directory settings.buildDir) m m')
    (hpath : path = pathOf
        (placeOf m.directory settings.buildDir ++ [canonicalName settings request.os]) ∨
      path = canonicalPath settings request.os ∧
        ∀ found,
          m'.files.canonicalize m'.directory (canonicalPath settings request.os) = .ok found →
          may (.canonicalize (canonicalPath settings request.os))) :
    Concluded may toolchain settings request (.ok output) m m' (.ok ()) (.ok ⟨path, request⟩) where
  tried _ _ := htried
  spawn := by simp
  failed := by simp [hcode]
  missing := by simp [hsome]
  relocate := by simp
  succeeds := by simp [exitedWell_ok, hcode, hsome]
  unchanged := by simp
  relocated artifact h := by
    obtain rfl := Except.ok.inj h
    exact ⟨rfl, hrelocated, hpath⟩

end Concluded

theorem Relocated.linkFree (h : Relocated settings os (placeOf m.directory settings.buildDir) m m')
    (hl : m.files.LinkFree) : m'.files.LinkFree := by
  intro q target hq
  obtain ⟨node, hfile, hproduced, hcanonical⟩ := h.binary
  have hnode := node?_of_findNode hcanonical
  by_cases hnew : q = placeOf m.directory settings.buildDir ++ [canonicalName settings os]
  · rw [hnew, hnode] at hq
    obtain rfl := Option.some.inj hq
    simp [Node.isRegular] at hfile
  · by_cases hold : q = placeOf m.directory settings.buildDir ++ [producedName settings os]
    · have hne : producedName settings os ≠ canonicalName settings os := fun heq =>
        hnew (heq ▸ hold)
      rw [hold, (h.gone hne).1] at hq
      simp at hq
    · rw [h.others q hold hnew] at hq
      exact hl q target hq

/-- Publishes for Windows, and leaves a stale binary beside the new one. -/
def replacingToolchain : Runner Unit := fun _ m s =>
  let binary (serial : Nat) (text : String) : Node := .file ⟨serial, Utf8.encode text, 0o755, 0⟩
  let stale := m.files.put (binaryPlace ["work"] .windows) (binary 2 "stale")
  (.ok { code := some 0 },
    { m with files := stale.put (producedPlace ["work"] .windows) (binary 3 "binary") }, s)

/-- The machine that the publish command for the fresh project leaves. -/
def published : World Unit :=
  (freshWorld.reply replacingToolchain (.start (publishInvocation ⟨"/opt/dotnet"⟩
    (rootSettings ["work"] .fail false) ⟨.amd64, "1.2.3", .windows⟩))).2

end Slipway
