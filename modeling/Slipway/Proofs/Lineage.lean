import Slipway.Proofs.Pieces

/-!
# Directories along a way

The directories that are created for a path are on the path's own way, if no link is on it.
-/

namespace Slipway

open FileSystem World

/-! ## The directories above a path -/

theorem stepsOf_lineage {p q : Path} (h : q ∈ lineage p) :
    q.isAbsolute = p.isAbsolute ∧ stepsOf q <+: stepsOf p := by
  unfold lineage at h
  generalize p.text.length + 1 = fuel at h
  induction fuel generalizing p with
  | zero =>
    rw [lineage.go, List.mem_singleton] at h
    subst h
    exact ⟨rfl, List.prefix_refl _⟩
  | succ fuel ih =>
    rw [lineage.go] at h
    split at h
    · rename_i up hup
      obtain ⟨habs', hsteps⟩ := stepsOf_parent? hup
      rcases List.mem_cons.mp h with rfl | h
      · exact ⟨rfl, List.prefix_refl _⟩
      · obtain ⟨hq, hqsteps⟩ := ih h
        exact ⟨hq.trans habs', hqsteps.trans hsteps⟩
    · rw [List.mem_singleton] at h
      subst h
      exact ⟨rfl, List.prefix_refl _⟩

theorem isName_of_mem_stepsOf {p : Path} {step : String} (h : step ∈ stepsOf p)
    (hdot : step ≠ ".") (hdots : step ≠ "..") : IsName step := by
  obtain ⟨chars, hchars, rfl⟩ := List.mem_map.mp h
  obtain ⟨hmem, hnil⟩ := List.mem_filter.mp hchars
  exact ⟨by simpa using hnil, hdot, hdots, by simpa using Path.no_separator_of_mem_split hmem⟩

/-- Every step of a path is a name, or goes up or nowhere. -/
theorem descends_stepsOf {p : Path} (h : ".." ∉ stepsOf p) : Descends (stepsOf p) := by
  intro step hstep
  by_cases hdot : step = "."
  · exact Or.inl hdot
  · exact Or.inr (isName_of_mem_stepsOf hstep hdot fun hdots => h (hdots ▸ hstep))

theorem wayOf_mono {here : Location} {p q : Path} (habs : q.isAbsolute = p.isAbsolute)
    (h : stepsOf q <+: stepsOf p) : wayOf here q <+: wayOf here p := by
  unfold wayOf startOf
  rw [habs]
  exact (List.prefix_append_right_inj _).mpr (h.filter _)

/-! ## Creating directories -/

/-- Directories were added on the way to `P`, and nothing else changed. -/
def GrowsAlong (P : Location) (fs fs' : FileSystem) : Prop :=
  ∀ q, fs'.node? q = fs.node? q ∨
    q <+: P ∧ fs.node? q = none ∧ fs'.node? q = some (.directory newDirectoryMode)

theorem GrowsAlong.refl (P : Location) (fs : FileSystem) : GrowsAlong P fs fs := fun _ => Or.inl rfl

theorem GrowsAlong.trans {P : Location} {fs fs' fs'' : FileSystem} (h : GrowsAlong P fs fs')
    (h' : GrowsAlong P fs' fs'') : GrowsAlong P fs fs'' := by
  intro q
  rcases h q with hq | ⟨hP, hnone, hdir⟩
  · rcases h' q with hq' | ⟨hP, hnone', hdir'⟩
    · exact Or.inl (hq'.trans hq)
    · exact Or.inr ⟨hP, hq ▸ hnone', hdir'⟩
  · rcases h' q with hq' | ⟨-, hnone', -⟩
    · exact Or.inr ⟨hP, hnone, hq'.trans hdir⟩
    · rw [hdir] at hnone'
      simp at hnone'

theorem GrowsAlong.grows {P : Location} {fs fs' : FileSystem} (h : GrowsAlong P fs fs') :
    Grows fs fs' := by
  intro q
  rcases h q with hq | ⟨-, hq⟩
  · exact Or.inl hq
  · exact Or.inr hq

theorem Grows.direct {fs fs' : FileSystem} {place : Location} (h : Grows fs fs')
    (hd : fs.Direct place) : fs'.Direct place := by
  intro q hq target hlink
  rcases h q with hsame | ⟨-, hdir⟩
  · exact hd q hq target (hsame ▸ hlink)
  · rw [hdir] at hlink
    simp at hlink

/-- The last name of a path is its last step, behind the way to the directory that it is in. -/
theorem findLast_name {fs : FileSystem} {here : Location} {path : Path} {last : LastName}
    {name : String} (h : fs.findLast here path = .ok last) (hname : last.name = some name) :
    name ≠ "." ∧ name ≠ ".." ∧ ∃ front, stepsOf path = front ++ [name] ∧
      fs.walk true maxLinks (startOf here path) (front ++ ["."])
        = .ok ⟨last.parent, some (.directory last.mode)⟩ := by
  unfold findLast at h
  split at h
  · simp at h
  · dsimp only at h
    split at h
    · simp at h
    · rename_i parent mode hwalk
      obtain rfl := Except.ok.inj h
      obtain ⟨hlast, hkind⟩ := Option.filter_eq_some_iff.mp hname
      obtain ⟨front, hsteps⟩ := List.getLast?_eq_some_iff.mp hlast
      simp only [decide_eq_true_eq] at hkind
      rw [hsteps, List.dropLast_concat] at hwalk
      exact ⟨hkind.1, hkind.2, front, hsteps, hwalk⟩
    · simp at h
    · simp at h

theorem place_of_findLast {fs : FileSystem} {here : Location} {path : Path} {last : LastName}
    {name : String} (hp : Descends (stepsOf path)) (hd : fs.Direct (wayOf here path))
    (h : fs.findLast here path = .ok last) (hname : last.name = some name) :
    last.parent ++ [name] = wayOf here path := by
  obtain ⟨hdot, -, front, hsteps, hwalk⟩ := findLast_name h hname
  unfold wayOf at hd ⊢
  rw [hsteps] at hp hd ⊢
  rw [namesIn_append, ← List.append_assoc] at hd ⊢
  obtain ⟨-, -, hend⟩ := walk_descends (fun n hn => hp n (List.mem_append_left _ hn))
    (fun q _ hq => hd q (hq.trans (List.prefix_append _ _))) (by simp) hwalk
  obtain ⟨-, hspot⟩ := walk_dot.mp hend
  rw [(Spot.mk.inj hspot).1]
  simp [namesIn, hdot]

/-- The directories of a path were created where they were missing. If the path never goes up, and
no link is on the way, nothing but them was added. -/
structure Prepares (here : Location) (path : Path) (fs fs' : FileSystem) : Prop where
  grows : Grows fs fs'
  along : Descends (stepsOf path) → fs.Direct (wayOf here path) →
    GrowsAlong (wayOf here path) fs fs'

theorem makeDirectory_along {fs fs' : FileSystem} {here P : Location} {path : Path}
    (hp : Descends (stepsOf path)) (hway : wayOf here path <+: P)
    (hd : fs.Direct P) (h : fs.makeDirectory here path = .ok fs') :
    GrowsAlong P fs fs' := by
  obtain ⟨last, name, hlast, hname, -, -, hnone, hdir, hsame⟩ := makeDirectory_last h
  have hplace := place_of_findLast hp (fun q hq => hd q (hq.trans hway)) hlast hname
  rw [hplace] at hnone hdir hsame
  intro q
  by_cases hq : q = wayOf here path
  · subst hq
    exact Or.inr ⟨hway, hnone, hdir⟩
  · exact Or.inl (hsame q hq)

variable {σ : Type} {runner : Runner σ} {may : Refusals} {w w' : World σ}

theorem runs_makeDirectories_prepares {path : Path} {r : Except SystemError Unit}
    (h : w.Runs runner may (makeDirectories path).run r w') :
    Prepares w.machine.directory path w.machine.files w'.machine.files := by
  refine ⟨runs_makeDirectories h, fun hp hd => ?_⟩
  -- The current directory stays, so all paths of the lineage start where the first one does.
  have hall := runs_makeDirectories_only (R := fun m m' => m.directory = w.machine.directory →
      m.files.Direct (wayOf w.machine.directory path) → m'.directory = w.machine.directory ∧
        GrowsAlong (wayOf w.machine.directory path) m.files m'.files) h
    (fun m hm _ => ⟨hm, GrowsAlong.refl _ _⟩)
    (fun h h' hm hd => by
      obtain ⟨hm', hg⟩ := h hm hd
      obtain ⟨hm'', hg'⟩ := h' hm' (hg.grows.direct hd)
      exact ⟨hm'', hg.trans hg'⟩)
    (fun hmade hfs hm hd => by
      obtain ⟨habs, hsteps⟩ := stepsOf_lineage hmade
      rw [hm] at hfs
      exact ⟨hm, makeDirectory_along (fun n hn => hp n (hsteps.subset hn))
        (wayOf_mono habs hsteps) hd hfs⟩)
  exact (hall rfl hd).2

/-! ## Paths as they are written

A path without links leads where its text says, also over `..`.
-/

namespace FileSystem

variable {fs fs' : FileSystem} {here place : Location} {name : String}

/-- Where a step leads that is not over a link. -/
def stepped (here : Location) (name : String) : Location :=
  if name = "" ∨ name = "." then here else if name = ".." then here.dropLast else here ++ [name]

/-- Where steps lead, none of which is over a link. -/
def landing (here : Location) (steps : List String) : Location := steps.foldl stepped here

/-- The places that steps lead over, none of which is over a link. -/
def trail : (here : Location) → List String → List Location
  | _, [] => []
  | here, name :: rest => stepped here name :: trail (stepped here name) rest

theorem trail_append (here : Location) (steps more : List String) :
    trail here (steps ++ more) = trail here steps ++ trail (landing here steps) more := by
  induction steps generalizing here with
  | nil => rfl
  | cons name rest ih => rw [List.cons_append, trail, trail, ih, List.cons_append]; rfl

theorem landing_append (here : Location) (steps more : List String) :
    landing here (steps ++ more) = landing (landing here steps) more :=
  List.foldl_append

theorem landing_dots {dots : List String} (h : ∀ d ∈ dots, d = ".") (here : Location) :
    landing here dots = here := by
  induction dots with
  | nil => rfl
  | cons d rest ih =>
    obtain ⟨rfl, hrest⟩ := List.forall_mem_cons.mp h
    exact ih hrest

/-- The places that a path leads over, as it is written. -/
def trailOf (here : Location) (path : Path) : List Location :=
  trail (startOf here path) (stepsOf path)

/-- The place that a path leads to, as it is written. -/
def placeOf (here : Location) (path : Path) : Location :=
  landing (startOf here path) (stepsOf path)

/-- No link is on the path or at its end. -/
def Unlinked (fs : FileSystem) (here : Location) (path : Path) : Prop :=
  ∀ q ∈ trailOf here path, ∀ target, fs.node? q ≠ some (.link target)

theorem move_stepped {next : Location ⊕ Path}
    (hlink : ∀ target, fs.node? (stepped here name) ≠ some (.link target))
    (h : fs.move here name = .ok next) : next = .inl (stepped here name) := by
  unfold move at h
  unfold stepped at hlink ⊢
  split at h
  · simp at h
  · split_ifs at h hlink ⊢ <;> try simp_all
    split at h <;> simp_all
  · simp at h

theorem stepped_of_absent {e : SystemError} (hent : fs.Enterable here)
    (h : fs.move here name = .error e) : stepped here name = here ++ [name] := by
  obtain ⟨mode, hdir, hexec⟩ := hent
  unfold stepped
  split_ifs with hstay hup
  · rcases hstay with rfl | rfl <;> simp [move, hdir, hexec] at h
  · simp [move, hdir, hexec, hup] at h
  · rfl

/-- A walk without links goes on from where its first steps lead. -/
theorem walk_trail {links : Nat} {steps tail : List String} {spot : Spot}
    (hlinks : ∀ q ∈ trail here steps, ∀ target, fs.node? q ≠ some (.link target)) (ht : tail ≠ [])
    (h : fs.walk true links here (steps ++ tail) = .ok spot) :
    fs.walk true links (landing here steps) tail = .ok spot := by
  induction steps generalizing here with
  | nil => exact h
  | cons name rest ih =>
    obtain ⟨hfirst, hrest⟩ := List.forall_mem_cons.mp hlinks
    rw [List.cons_append, walk_cons (by simp [ht])] at h
    cases hmove : fs.move here name with
    | error e => simp [hmove] at h
    | ok next =>
      rw [hmove, move_stepped hfirst hmove] at h
      exact ih hrest h

theorem Reaches.eq_placeOf {dir : Path} (h : fs.Reaches here dir place)
    (hd : fs.Unlinked here dir) : place = placeOf here dir := by
  obtain ⟨-, hspot⟩ := walk_dot.mp (walk_trail hd (List.cons_ne_nil _ _) h)
  exact (Spot.mk.inj hspot).1

/-- A step without a link is from a directory, and the walk goes on from where it leads. -/
theorem walk_stepped {links : Nat} {rest : List String} {spot : Spot}
    (hlink : ∀ target, fs.node? (stepped here name) ≠ some (.link target))
    (h : fs.walk true links here (name :: rest) = .ok spot) :
    (∃ mode, fs.node? here = some (.directory mode)) ∧
      fs.walk true links (stepped here name) rest = .ok spot := by
  rw [walk_eq] at h ⊢
  cases takeSteps_cases h with
  | fails e moved ends => simp at ends
  | goes next moved walks =>
    obtain rfl := Sum.inl.inj (move_stepped hlink moved)
    exact ⟨directory_of_move moved, walks⟩
  | follows target moved => exact absurd (move_stepped hlink moved) (by simp)
  | absent moved last enterable gone ends =>
    obtain ⟨mode, hhere, -⟩ := id enterable
    subst last
    rw [stepped_of_absent enterable moved, takeSteps, gone]
    exact ⟨⟨mode, hhere⟩, ends.symm⟩
  | unfollowed target moved last only => simp at only

theorem walk_lands {links : Nat} {steps : List String} {spot : Spot}
    (hlinks : ∀ q ∈ trail here steps, ∀ target, fs.node? q ≠ some (.link target))
    (h : fs.walk true links here steps = .ok spot) : spot.place = landing here steps := by
  induction steps generalizing here with
  | nil =>
    rw [walk_eq, takeSteps] at h
    rw [← Except.ok.inj h]
    rfl
  | cons name rest ih =>
    obtain ⟨hfirst, hrest⟩ := List.forall_mem_cons.mp hlinks
    exact ih hrest (walk_stepped hfirst h).2

theorem walk_directories {links : Nat} {steps : List String} {spot : Spot} {mode : Nat}
    (hlinks : ∀ q ∈ trail here steps, ∀ target, fs.node? q ≠ some (.link target))
    (h : fs.walk true links here steps = .ok spot) (hspot : spot.node = some (.directory mode)) :
    ∀ q ∈ here :: trail here steps, ∃ mode, fs.node? q = some (.directory mode) := by
  induction steps generalizing here with
  | nil =>
    rw [walk_eq, takeSteps] at h
    rw [← Except.ok.inj h] at hspot
    simpa [trail] using ⟨mode, hspot⟩
  | cons name rest ih =>
    obtain ⟨hfirst, hrest⟩ := List.forall_mem_cons.mp hlinks
    obtain ⟨hhere, hwalk⟩ := walk_stepped hfirst h
    exact List.forall_mem_cons.mpr ⟨hhere, ih hrest hwalk⟩

theorem findNode_place {path : Path} {node : Node} (hl : fs.Unlinked here path)
    (h : fs.findNode here path = .ok (place, node)) : place = placeOf here path := by
  have hfind := findNode_eq_ok.mp h
  unfold find at hfind
  split at hfind
  · simp at hfind
  · unfold walkSteps at hfind
    split at hfind
    · obtain ⟨-, hspot⟩ := walk_empty (walk_trail hl (List.cons_ne_nil _ _) hfind)
      exact (Spot.mk.inj hspot).1
    · exact walk_lands hl hfind

/-- Nothing changed at the place, but that it may be a new directory if it is one of `places`. -/
def Spared (places : List Location) (fs fs' : FileSystem) (q : Location) : Prop :=
  fs'.node? q = fs.node? q ∨
    q ∈ places ∧ fs.node? q = none ∧ fs'.node? q = some (.directory newDirectoryMode)

theorem Spared.refl (places : List Location) (fs : FileSystem) (q : Location) :
    Spared places fs fs q :=
  Or.inl rfl

theorem Spared.trans {places : List Location} {fs'' : FileSystem} {q : Location}
    (h : Spared places fs fs' q) (h' : Spared places fs' fs'' q) : Spared places fs fs'' q := by
  rcases h with hq | ⟨hmem, hnone, hdir⟩
  · rcases h' with hq' | ⟨hmem, hnone', hdir'⟩
    · exact Or.inl (hq'.trans hq)
    · exact Or.inr ⟨hmem, hq ▸ hnone', hdir'⟩
  · rcases h' with hq' | ⟨-, hnone', -⟩
    · exact Or.inr ⟨hmem, hnone, hq'.trans hdir⟩
    · rw [hdir] at hnone'
      simp at hnone'

theorem Spared.kept {places : List Location} {q : Location} {node : Node}
    (h : Spared places fs fs' q) (hnode : fs.node? q = some node) : fs'.node? q = some node := by
  rcases h with hsame | ⟨-, hnone, -⟩
  · rw [hsame, hnode]
  · simp [hnone] at hnode

theorem keeps_of_spared {places : List Location} (h : ∀ q, Spared places fs fs' q) :
    Keeps fs fs' :=
  fun q _ _ hnode => (h q).kept hnode

theorem Spared.same {places : List Location} {q : Location} (h : Spared places fs fs' q)
    (hnew : fs'.node? q ≠ some (.directory newDirectoryMode)) : fs'.node? q = fs.node? q :=
  h.resolve_right fun hmade => hnew hmade.2.2

theorem Unlinked.spared {places : List Location} {path : Path} (h : fs.Unlinked here path)
    (hg : ∀ q, Spared places fs fs' q) : fs'.Unlinked here path := by
  intro q hq target hlink
  rw [(hg q).same (by simp [hlink])] at hlink
  exact h q hq target hlink

theorem Ordinary.spared {places : List Location} {q : Location} (h : fs.Ordinary q)
    (hg : Spared places fs fs' q) : fs'.Ordinary q := by
  rcases hg with hsame | ⟨-, -, hnew⟩
  · exact h.of_same hsame
  · exact ordinary_of_directory hnew

theorem mem_trailOf_of_findLast {path : Path} {last : LastName} (hl : fs.Unlinked here path)
    (h : fs.findLast here path = .ok last) (hname : last.name = some name) :
    last.parent ++ [name] ∈ trailOf here path := by
  obtain ⟨hdot, hdots, front, hsteps, hwalk⟩ := findLast_name h hname
  have hn : IsName name := isName_of_mem_stepsOf (p := path) (by simp [hsteps]) hdot hdots
  have htrail : trailOf here path
      = trail (startOf here path) front ++ trail (landing (startOf here path) front) [name] := by
    rw [trailOf, hsteps, trail_append]
  unfold Unlinked at hl
  rw [htrail] at hl ⊢
  have hfront := walk_trail (fun q hq => hl q (List.mem_append_left _ hq)) (List.cons_ne_nil _ _)
    hwalk
  have hparent : last.parent = landing (startOf here path) front :=
    (Spot.mk.inj (walk_dot.mp hfront).2).1
  rw [hparent]
  simp [trail, stepped, hn.ne_empty, hdot, hdots]

theorem makeDirectory_spares {path : Path} (hl : fs.Unlinked here path)
    (h : fs.makeDirectory here path = .ok fs') (q : Location) :
    Spared (trailOf here path) fs fs' q := by
  obtain ⟨last, name, hlast, hname, -, -, hnone, hdir, hsame⟩ := makeDirectory_last h
  by_cases hq : q = last.parent ++ [name]
  · subst hq
    exact Or.inr ⟨mem_trailOf_of_findLast hl hlast hname, hnone, hdir⟩
  · exact Or.inl (hsame q hq)

theorem trailOf_lineage {p q : Path} (h : q ∈ lineage p) : trailOf here q ⊆ trailOf here p := by
  obtain ⟨habs, more, hmore⟩ := stepsOf_lineage h
  unfold trailOf startOf
  rw [habs, ← hmore, trail_append]
  exact List.subset_append_left _ _

end FileSystem

theorem runs_makeDirectories_spares {path : Path} {r : Except SystemError Unit}
    (hd : w.machine.files.Unlinked w.machine.directory path)
    (h : w.Runs runner may (makeDirectories path).run r w') (q : Location) :
    Spared (trailOf w.machine.directory path) w.machine.files w'.machine.files q := by
  have hall := runs_makeDirectories_only (R := fun m m' => m.directory = w.machine.directory →
      m.files.Unlinked w.machine.directory path → m'.directory = w.machine.directory ∧
        ∀ q, Spared (trailOf w.machine.directory path) m.files m'.files q) h
    (fun m hm _ => ⟨hm, Spared.refl _ _⟩)
    (fun h h' hm hd => by
      obtain ⟨hm', hg⟩ := h hm hd
      obtain ⟨hm'', hg'⟩ := h' hm' (hd.spared hg)
      exact ⟨hm'', fun q => (hg q).trans (hg' q)⟩)
    (fun hmade hfs hm hd => by
      have hsub : trailOf w.machine.directory _ ⊆ trailOf w.machine.directory path :=
        trailOf_lineage hmade
      rw [hm] at hfs
      refine ⟨hm, fun q => ?_⟩
      rcases makeDirectory_spares (fun q hq => hd q (hsub hq)) hfs q with hsame | ⟨hmem, hnew⟩
      · exact Or.inl hsame
      · exact Or.inr ⟨hsub hmem, hnew⟩)
  exact (hall rfl hd).2 q

/-! ## Files that agree along a path

What is made for a path depends on what is on its ways, and on nothing else.
-/

namespace FileSystem

variable {fs fs' : FileSystem} {here place : Location} {name : String} {path : Path}

/-- The file systems differ at these places at most. -/
def SameOutside (places : List Location) (fs fs' : FileSystem) : Prop :=
  ∀ q, q ∉ places → fs'.node? q = fs.node? q

/-- The same nodes are on the ways of the two file systems, and no link is. -/
def AgreeAlong (ways : List Location) (fs fs' : FileSystem) : Prop :=
  ∀ q ∈ ways, fs'.node? q = fs.node? q ∧ ∀ target, fs.node? q ≠ some (.link target)

/-- A walk looks at the places that its steps lead over, and nowhere else. -/
theorem AgreeAlong.walk {links : Nat} {steps : List String}
    (h : AgreeAlong (here :: trail here steps) fs fs') :
    fs'.walk true links here steps = fs.walk true links here steps := by
  induction steps generalizing here with
  | nil => rw [walk_eq, walk_eq, takeSteps, takeSteps, (h here List.mem_cons_self).1]
  | cons name rest ih =>
    have hhere := (h here List.mem_cons_self).1
    have hon : ∀ {next}, stepped here name = next →
        fs'.takeSteps (fs'.follow true links) true next rest
          = fs.takeSteps (fs.follow true links) true next rest := by
      rintro next rfl
      rw [← walk_eq, ← walk_eq]
      exact ih fun q hq => h q (List.mem_cons_of_mem _ hq)
    obtain ⟨hnext, hlink⟩ := h (stepped here name) (List.mem_cons_of_mem _ List.mem_cons_self)
    -- Both walks decide by what is `here` and at the next place, where the two file systems agree.
    rw [walk_eq, walk_eq, takeSteps, takeSteps, hhere]
    cases fs.node? here with
    | none => rfl
    | some node =>
      cases node with
      | directory mode =>
        dsimp only
        by_cases hempty : name = ""
        · rw [if_pos hempty, if_pos hempty, hon (by simp [stepped, hempty])]
        rw [if_neg hempty, if_neg hempty]
        split
        · rfl
        by_cases hdot : name = "."
        · rw [if_pos hdot, if_pos hdot, hon (by simp [stepped, hdot])]
        rw [if_neg hdot, if_neg hdot]
        by_cases hdots : name = ".."
        · rw [if_pos hdots, if_pos hdots, hon (by simp [stepped, hdots])]
        rw [if_neg hdots, if_neg hdots]
        have hplace : stepped here name = here ++ [name] := by simp [stepped, hempty, hdot, hdots]
        split
        · rfl
        rw [hplace] at hnext hlink
        rw [hnext, hon hplace]
        cases hnode : fs.node? (here ++ [name]) with
        | none => rfl
        | some there =>
          cases there with
          | link target => exact absurd hnode (hlink target)
          | _ => rfl
      | _ => rfl

theorem landing_mem (here : Location) (steps : List String) :
    landing here steps ∈ here :: trail here steps := by
  induction steps generalizing here with
  | nil => exact List.mem_cons_self
  | cons name rest ih => exact List.mem_cons_of_mem _ (ih (stepped here name))

/-- The places that a path leads over, with the one that it starts from. -/
def waysOf (here : Location) (path : Path) : List Location :=
  startOf here path :: trailOf here path

/-- The first steps of a path lead over places of the path, also when a step follows that leads
nowhere else. -/
theorem trail_subset {front back : List String} (step : String) (hstep : step = "" ∨ step = ".") :
    here :: trail here (front ++ [step]) ⊆ here :: trail here (front ++ back) := by
  have hfront : here :: trail here front ⊆ here :: trail here (front ++ back) := by
    rw [trail_append, ← List.cons_append]
    exact List.subset_append_left _ _
  rw [trail_append, ← List.cons_append]
  refine List.append_subset.mpr ⟨hfront, ?_⟩
  rcases hstep with rfl | rfl <;>
    simpa [trail, stepped] using hfront (landing_mem here front)

theorem AgreeAlong.findLast (h : AgreeAlong (waysOf here path) fs fs') :
    fs'.findLast here path = fs.findLast here path := by
  have hwalk : fs'.walk true maxLinks (startOf here path) ((stepsOf path).dropLast ++ ["."])
      = fs.walk true maxLinks (startOf here path) ((stepsOf path).dropLast ++ ["."]) := by
    refine AgreeAlong.walk fun q hq => h q ?_
    obtain ⟨back, hback⟩ := List.dropLast_prefix (stepsOf path)
    unfold waysOf trailOf
    rw [← hback]
    exact trail_subset "." (Or.inr rfl) hq
  unfold FileSystem.findLast
  simp only [hwalk]

theorem AgreeAlong.find (h : AgreeAlong (waysOf here path) fs fs') :
    fs'.find here path = fs.find here path := by
  have hwalk : fs'.walk true maxLinks (startOf here path) (walkSteps path)
      = fs.walk true maxLinks (startOf here path) (walkSteps path) := by
    refine AgreeAlong.walk fun q hq => h q ?_
    unfold walkSteps at hq
    split at hq
    · have hsub : startOf here path :: trail (startOf here path) (stepsOf path ++ [""])
          ⊆ startOf here path :: trail (startOf here path) (stepsOf path ++ []) :=
        trail_subset "" (Or.inl rfl)
      rw [List.append_nil] at hsub
      exact hsub hq
    · exact hq
  unfold FileSystem.find
  rw [hwalk]

theorem AgreeAlong.satisfies (h : AgreeAlong (waysOf here path) fs fs') (kind : Node → Bool) :
    fs'.satisfies here path kind = fs.satisfies here path kind := by
  unfold FileSystem.satisfies findNode
  rw [h.find]

theorem AgreeAlong.unlinked {ways : List Location} (h : AgreeAlong ways fs fs')
    (hways : trailOf here path ⊆ ways) : fs.Unlinked here path :=
  fun q hq => (h q (hways hq)).2

theorem AgreeAlong.makeDirectory (h : AgreeAlong (waysOf here path) fs fs') :
    (∃ e, fs.makeDirectory here path = .error e ∧ fs'.makeDirectory here path = .error e) ∨
      ∃ place, fs.node? place = none ∧
        fs.makeDirectory here path = .ok (fs.put place (.directory newDirectoryMode)) ∧
        fs'.makeDirectory here path = .ok (fs'.put place (.directory newDirectoryMode)) := by
  unfold FileSystem.makeDirectory
  rw [h.findLast]
  cases hlast : fs.findLast here path with
  | error e => exact Or.inl ⟨e, rfl, rfl⟩
  | ok last =>
    dsimp only
    cases hname : last.name with
    | none => exact Or.inl ⟨_, rfl, rfl⟩
    | some name =>
      have hmem := mem_trailOf_of_findLast (h.unlinked (List.subset_cons_self _ _)) hlast hname
      have hlook : last.lookup fs' name = last.lookup fs name := by
        unfold LastName.lookup
        rw [(h _ (List.mem_cons_of_mem _ hmem)).1]
      dsimp only
      rw [hlook]
      cases hfound : last.lookup fs name with
      | error e => exact Or.inl ⟨e, rfl, rfl⟩
      | ok found =>
        cases found with
        | some node => exact Or.inl ⟨_, rfl, rfl⟩
        | none =>
          obtain ⟨-, -, hnone⟩ := lookup_ok hfound
          dsimp only
          split_ifs
          · exact Or.inl ⟨_, rfl, rfl⟩
          · exact Or.inr ⟨_, hnone.symm, rfl, rfl⟩

/-- The file systems agree along the ways, and outside of the places. -/
structure Parallel (ways places : List Location) (fs fs' : FileSystem) : Prop where
  along : AgreeAlong ways fs fs'
  outside : SameOutside places fs fs'

theorem Parallel.put {ways places : List Location} (h : Parallel ways places fs fs')
    (hplace : fs.node? place = none) :
    Parallel ways places (fs.put place (.directory newDirectoryMode))
      (fs'.put place (.directory newDirectoryMode)) := by
  have hfixed : ¬ Fixed place := not_fixed_of_none hplace
  refine ⟨fun q hq => ?_, fun q hq => ?_⟩ <;> by_cases heq : q = place
  · subst heq
    rw [node?_put_self hfixed, node?_put_self hfixed]
    exact ⟨rfl, by simp⟩
  · rw [node?_put_of_ne heq, node?_put_of_ne heq]
    exact h.along q hq
  · subst heq
    rw [node?_put_self hfixed, node?_put_self hfixed]
  · rw [node?_put_of_ne heq, node?_put_of_ne heq]
    exact h.outside q hq

end FileSystem

/-! ## The directories of a path, one after the other -/

namespace FileSystem

/-- What creating the first directory of the list comes to, after the others when one of them is
missing, and the files that it leaves. -/
def makeAll (here : Location) : List Path → FileSystem → Except SystemError Unit × FileSystem
  | [], fs => (.error (.described .other "failed to create whole tree"), fs)
  | path :: above, fs =>
    if path.text.isEmpty then (.ok (), fs)
    else
      match fs.makeDirectory here path with
      | .ok made => (.ok (), made)
      | .error e =>
        if e.kind = .notFound then
          match makeAll here above fs with
          | (.error e, fs) => (.error e, fs)
          | (.ok (), fs) =>
            match fs.makeDirectory here path with
            | .ok made => (.ok (), made)
            | .error e =>
              (if fs.satisfies here path Node.isDirectory then .ok () else .error e, fs)
        else (if fs.satisfies here path Node.isDirectory then .ok () else .error e, fs)

end FileSystem

theorem run_makeLineage (w : World σ) (paths : List Path) :
    w.run runner (makeLineage paths).run =
      ((makeAll w.machine.directory paths w.machine.files).1, { w with machine := { w.machine with
        files := (makeAll w.machine.directory paths w.machine.files).2 } }) := by
  have hask : ∀ (v : World σ) path e, v.run runner (Program.file (.isDirectory path) >>= fun there =>
      if there = true then pure (.ok ()) else pure (.error e) : Program (Except SystemError Unit))
        = (if v.machine.files.satisfies v.machine.directory path Node.isDirectory then .ok ()
            else .error e, v) := by
    intro v path e
    rw [run_bind, run_file]
    change v.run runner (if v.machine.files.satisfies v.machine.directory path Node.isDirectory
      then pure (Except.ok ()) else pure (Except.error e)) = _
    split_ifs <;> rfl
  induction paths generalizing w with
  | nil => rfl
  | cons path above ih =>
    unfold makeAll
    change w.run runner (ite _ _ _) = _
    split
    · rfl
    rw [run_bind, run_file]
    simp only [Machine.reply]
    cases hmake : w.machine.files.makeDirectory w.machine.directory path with
    | ok made => rfl
    | error e =>
      dsimp only [Machine.change]
      change w.run runner (ite _ _ _) = _
      split
      · rw [run_bind, ih w]
        generalize makeAll w.machine.directory above w.machine.files = made
        obtain ⟨_ | ⟨⟩, fs⟩ := made
        · rfl
        · dsimp only
          rw [run_bind, run_file]
          simp only [Machine.reply]
          cases fs.makeDirectory w.machine.directory path with
          | ok made => rfl
          | error e => exact hask _ path e
      · exact hask w path e

/-- Creating the directories of a path leaves what `makeAll` leaves, whatever may fail. -/
theorem makeDirectories_runs {path : Path} {result : Except SystemError Unit} {made : FileSystem}
    (h : makeAll w.machine.directory (lineage path) w.machine.files = (result, made)) :
    w.Runs runner may (makeDirectories path).run result
      { w with machine := { w.machine with files := made } } := by
  have hrun := runs_run runner may w (makeLineage (lineage path)).run
  rw [run_makeLineage, h] at hrun
  exact hrun

theorem runs_makeDirectories_made {path : Path}
    (h : w.Runs runner Refusals.never (makeDirectories path).run (.ok ()) w') :
    makeAll w.machine.directory (lineage path) w.machine.files = (.ok (), w'.machine.files) ∧
      w' = { w with machine := { w.machine with files := w'.machine.files } } := by
  have hrun := h.eq_run
  unfold makeDirectories at hrun
  rw [run_makeLineage] at hrun
  obtain ⟨hok, rfl⟩ := Prod.mk.inj hrun
  exact ⟨Prod.ext hok rfl, rfl⟩

namespace FileSystem

variable {fs fs' : FileSystem} {here place : Location} {name : String} {path : Path}

theorem Parallel.makeAll {ways places : List Location} {paths : List Path}
    (h : Parallel ways places fs fs') (hways : ∀ path ∈ paths, waysOf here path ⊆ ways) :
    (fs'.makeAll here paths).1 = (fs.makeAll here paths).1 ∧
      Parallel ways places (fs.makeAll here paths).2 (fs'.makeAll here paths).2 := by
  induction paths generalizing fs fs' with
  | nil => exact ⟨rfl, h⟩
  | cons path above ih =>
    obtain ⟨hpath, habove⟩ := List.forall_mem_cons.mp hways
    have hagree : ∀ {fs fs'}, Parallel ways places fs fs' → AgreeAlong (waysOf here path) fs fs' :=
      fun h q hq => h.along q (hpath hq)
    unfold FileSystem.makeAll
    split
    · exact ⟨rfl, h⟩
    rcases (hagree h).makeDirectory with ⟨e, he, he'⟩ | ⟨place, hnone, hok, hok'⟩
    · rw [he, he']
      dsimp only
      split
      · obtain ⟨hresult, hafter⟩ := ih h habove
        generalize FileSystem.makeAll here above fs = made at hresult hafter
        generalize FileSystem.makeAll here above fs' = made' at hresult hafter
        obtain ⟨_ | _, fs₁⟩ := made <;> obtain ⟨r, fs₁'⟩ := made' <;> obtain rfl : r = _ := hresult
        · exact ⟨rfl, hafter⟩
        · dsimp only at hafter ⊢
          rcases (hagree hafter).makeDirectory with ⟨e, he, he'⟩ | ⟨place, hnone, hok, hok'⟩
          · rw [he, he', (hagree hafter).satisfies]
            exact ⟨rfl, hafter⟩
          · rw [hok, hok']
            exact ⟨rfl, hafter.put hnone⟩
      · rw [(hagree h).satisfies]
        exact ⟨rfl, h⟩
    · rw [hok, hok']
      exact ⟨rfl, h.put hnone⟩

theorem findLast_directory {last : LastName} (h : fs.findLast here path = .ok last) :
    fs.node? last.parent = some (.directory last.mode) := by
  unfold findLast at h
  split at h
  · simp at h
  · dsimp only at h
    split at h
    · simp at h
    · rename_i hwalk
      obtain rfl := Except.ok.inj h
      exact (walk_node hwalk).symm
    · simp at h
    · simp at h

/-- The way of a new directory leads to it, whatever comes next. -/
theorem walk_of_makeDirectory (h : fs.makeDirectory here path = .ok fs') :
    ∃ place, fs.node? place = none ∧ fs'.node? place = some (.directory newDirectoryMode) ∧
      SameOff place fs fs' ∧ ∃ links, ∀ more,
        fs'.walk true maxLinks (startOf here path) (stepsOf path ++ more)
          = fs'.walk true links place more := by
  obtain ⟨last, name, hlast, hname, -, hsize, hnone, hdir, hsame⟩ := makeDirectory_last h
  obtain ⟨hdot, hdots, front, hsteps, hwalk⟩ := findLast_name hlast hname
  have hn : IsName name := isName_of_mem_stepsOf (p := path) (by simp [hsteps]) hdot hdots
  have hkeeps : Keeps fs fs' := hsame.keeps (by simp [hnone])
  have hwalk' := walk_keeps hkeeps hwalk
  obtain ⟨links, place, hmore⟩ := walk_append hwalk' (List.cons_ne_nil _ _)
  rw [hmore _ (List.cons_ne_nil _ _)] at hwalk'
  obtain ⟨hparent, hspot⟩ := walk_dot.mp hwalk'
  obtain rfl : last.parent = place := (Spot.mk.inj hspot).1
  refine ⟨last.parent ++ [name], hnone, hdir, hsame, links, fun more => ?_⟩
  have hmove : fs'.move last.parent name = .ok (.inl (last.parent ++ [name])) := by
    rw [move_name hn hparent hsize, hdir]
  rw [hsteps, List.append_assoc, hmore _ (by simp), List.singleton_append]
  cases more with
  | nil => rw [walk_last hmove, walk_eq, takeSteps]
  | cons step rest => rw [walk_cons (List.cons_ne_nil _ _), hmove]

theorem satisfies_of_makeDirectory (h : fs.makeDirectory here path = .ok fs') :
    fs'.satisfies here path Node.isDirectory = true := by
  obtain ⟨last, name, hlast, -⟩ := makeDirectory_last h
  obtain ⟨place, -, hdir, -, links, hmore⟩ := walk_of_makeDirectory h
  have hr : refuse? path = none := by
    unfold FileSystem.findLast at hlast
    split at hlast
    · simp at hlast
    · assumption
  have hwalk : fs'.walk true maxLinks (startOf here path) (walkSteps path)
      = .ok ⟨place, some (.directory newDirectoryMode)⟩ := by
    unfold walkSteps
    split
    · rw [hmore, walk_eq, takeSteps, hdir]
      simp [takeSteps, hdir]
    · have hend := hmore []
      rw [List.append_nil] at hend
      rw [hend, walk_eq, takeSteps, hdir]
  unfold FileSystem.satisfies findNode FileSystem.find
  rw [hr]
  dsimp only
  rw [hwalk]
  rfl

theorem findLast_keeps {last : LastName} (hk : Keeps fs fs') (h : fs.findLast here path = .ok last) :
    fs'.findLast here path = .ok last := by
  have hparent := findLast_directory h
  unfold FileSystem.findLast at h ⊢
  split at h
  · simp at h
  · dsimp only at h ⊢
    split at h
    · simp at h
    · rename_i parent mode hwalk
      obtain rfl := Except.ok.inj h
      rw [walk_keeps hk hwalk, hk _ (.directory mode) trivial hparent]
    · simp at h
    · simp at h

theorem makeDirectory_again (h : fs.makeDirectory here path = .ok fs') :
    fs'.makeDirectory here path = .error .alreadyThere := by
  obtain ⟨last, name, hlast, hname, hgone, hsize, hnone, hdir, hsame⟩ := makeDirectory_last h
  have hlast' := findLast_keeps (hsame.keeps (by simp [hnone])) hlast
  simp [FileSystem.makeDirectory, hlast', hname, LastName.lookup, Nat.not_lt.mpr hsize, hgone, hdir]

theorem makeAll_nowhere (hpath : path.text.isEmpty = true) :
    fs.makeAll here (lineage path) = (.ok (), fs) := by
  obtain ⟨above, habove⟩ := lineage_eq_cons path
  rw [habove, FileSystem.makeAll, if_pos hpath]

theorem makeAll_made {above : List Path} {made : FileSystem} (hpath : path.text.isEmpty = false)
    (h : fs.makeDirectory here path = .ok made) :
    fs.makeAll here (path :: above) = (.ok (), made) := by
  rw [FileSystem.makeAll, if_neg (by simp [hpath]), h]

theorem makeAll_refused {above : List Path} {e : SystemError} (hpath : path.text.isEmpty = false)
    (h : fs.makeDirectory here path = .error e) (hkind : e.kind ≠ .notFound) :
    fs.makeAll here (path :: above)
      = (if fs.satisfies here path Node.isDirectory then .ok () else .error e, fs) := by
  rw [FileSystem.makeAll, if_neg (by simp [hpath]), h]
  dsimp only
  rw [if_neg hkind]

theorem Reaches.makeAll {dir : Path} {mode : Nat} (hreach : fs.Reaches here dir place)
    (hn : IsName name) (hsize : name.utf8ByteSize ≤ maxNameBytes) (hgone : isGone place = false)
    (hmode : fs.node? place = some (.directory mode))
    (hlink : ∀ target, fs.node? (place ++ [name]) ≠ some (.link target)) :
    fs.makeAll here (lineage (dir.join name)) =
      match refuse? (dir.join name) with
      | some e => (.error e, fs)
      | none =>
        match fs.node? (place ++ [name]) with
        | some (.directory _) => (.ok (), fs)
        | some _ => (.error .alreadyThere, fs)
        | none =>
          if ownerWrites mode then
            (.ok (), fs.put (place ++ [name]) (.directory newDirectoryMode))
          else (.error .noAccess, fs) := by
  obtain ⟨above, habove⟩ := lineage_eq_cons (dir.join name)
  have hempty := hn.isEmpty_join dir
  rw [habove]
  cases hr : refuse? (dir.join name) with
  | some e =>
    have hmake : fs.makeDirectory here (dir.join name) = .error e := by
      simp [FileSystem.makeDirectory, FileSystem.findLast, hr]
    have hno : fs.satisfies here (dir.join name) Node.isDirectory = false := by
      simp [FileSystem.satisfies, findNode, FileSystem.find, hr]
    have hkind : e.kind ≠ .notFound := by
      simp only [refuse?, hempty, Bool.false_eq_true, if_false] at hr
      split_ifs at hr <;> obtain rfl := Option.some.inj hr <;> decide
    rw [makeAll_refused hempty hmake hkind, hno]
    rfl
  | none =>
    have hmake := hreach.makeDirectory hn hr hsize hgone hmode
    have hsatisfies := hreach.satisfies (t := Node.isDirectory) hn hr hsize hlink
    cases hnode : fs.node? (place ++ [name]) with
    | none =>
      rw [hnode, Option.isSome_none, if_neg (by simp)] at hmake
      rw [hnode] at hsatisfies
      dsimp only
      cases hwrites : ownerWrites mode with
      | true =>
        rw [hwrites, if_pos rfl] at hmake
        rw [if_pos rfl, makeAll_made hempty hmake]
      | false =>
        rw [hwrites, if_neg (by simp)] at hmake
        rw [if_neg (by simp), makeAll_refused hempty hmake (by decide), hsatisfies]
        rfl
    | some node =>
      rw [hnode, Option.isSome_some, if_pos rfl] at hmake
      rw [hnode] at hsatisfies
      rw [makeAll_refused hempty hmake (by decide), hsatisfies]
      cases node <;> rfl

/-- The first directory of the list was made, or it was there. In between, the others were made if
one of them was missing. -/
theorem makeAll_cons_ok {above : List Path} {made : FileSystem} (hpath : path.text.isEmpty = false)
    (h : fs.makeAll here (path :: above) = (.ok (), made)) :
    ∃ before, before.makeDirectory here path = .ok made ∨
      made = before ∧ before.satisfies here path Node.isDirectory = true ∧
        ∃ e, before.makeDirectory here path = .error e ∧
          (e.kind = .notFound → fs.makeAll here above = (.ok (), before)) := by
  have hfound : ∀ {before : FileSystem} {e : SystemError},
      ((if before.satisfies here path Node.isDirectory = true then Except.ok () else .error e),
        before) = (Except.ok (), made) →
      made = before ∧ before.satisfies here path Node.isDirectory = true := by
    intro before e h
    split_ifs at h with hdir
    · exact ⟨(Prod.mk.inj h).2.symm, hdir⟩
    · simp at h
  rw [FileSystem.makeAll, if_neg (by simp [hpath])] at h
  cases hmake : fs.makeDirectory here path with
  | ok files =>
    rw [hmake] at h
    exact ⟨fs, Or.inl (hmake.trans (congrArg _ (Prod.mk.inj h).2))⟩
  | error e =>
    rw [hmake] at h
    dsimp only at h
    split at h
    · split at h
      · simp at h
      · rename_i before habove
        split at h
        · rename_i files hmake'
          exact ⟨before, Or.inl (hmake'.trans (congrArg _ (Prod.mk.inj h).2))⟩
        · rename_i e' hmake'
          obtain ⟨hmade, hdir⟩ := hfound h
          exact ⟨before, Or.inr ⟨hmade, hdir, e', hmake', fun _ => habove⟩⟩
    · rename_i hkind
      obtain ⟨hmade, hdir⟩ := hfound h
      exact ⟨fs, Or.inr ⟨hmade, hdir, e, hmake, fun hnot => absurd hnot hkind⟩⟩

theorem satisfies_of_makeAll {above : List Path} {made : FileSystem}
    (hpath : path.text.isEmpty = false) (h : fs.makeAll here (path :: above) = (.ok (), made)) :
    made.satisfies here path Node.isDirectory = true := by
  obtain ⟨before, hmake | ⟨rfl, hdir, -⟩⟩ := makeAll_cons_ok hpath h
  · exact satisfies_of_makeDirectory hmake
  · exact hdir

theorem makeAll_again {paths : List Path} {made : FileSystem}
    (h : fs.makeAll here paths = (.ok (), made)) : made.makeAll here paths = (.ok (), made) := by
  induction paths generalizing fs made with
  | nil => simp [FileSystem.makeAll] at h
  | cons path above ih =>
    cases hpath : path.text.isEmpty with
    | true => simp [FileSystem.makeAll, hpath]
    | false =>
      have hdir := satisfies_of_makeAll hpath h
      rw [FileSystem.makeAll, if_neg (by simp [hpath])]
      obtain ⟨before, hmake | ⟨rfl, -, e, hmake, habove⟩⟩ := makeAll_cons_ok hpath h
      · rw [makeDirectory_again hmake, hdir]
        rfl
      · by_cases hkind : e.kind = .notFound
        · simp [hmake, hkind, ih (habove hkind), hdir]
        · simp [hmake, hkind, hdir]

theorem directories_of_satisfies (hl : fs.Unlinked here path)
    (h : fs.satisfies here path Node.isDirectory = true) :
    ∀ q ∈ waysOf here path, ∃ mode, fs.node? q = some (.directory mode) := by
  unfold FileSystem.satisfies at h
  split at h
  · rename_i place node hfind
    cases node with
    | directory mode =>
      have hwalk := findNode_eq_ok.mp hfind
      unfold FileSystem.find walkSteps at hwalk
      split at hwalk
      · simp at hwalk
      split at hwalk
      · have hlinks : ∀ q ∈ trail (startOf here path) (stepsOf path ++ [""]),
            ∀ target, fs.node? q ≠ some (.link target) := by
          rw [trail_append]
          refine List.forall_mem_append.mpr ⟨hl, ?_⟩
          obtain ⟨⟨mode, hnode⟩, -⟩ := walk_empty (walk_trail hl (List.cons_ne_nil _ _) hwalk)
          simp [trail, stepped, hnode]
        have hall := walk_directories hlinks hwalk rfl
        rw [trail_append] at hall
        exact fun q hq => hall q (List.mem_append_left _ hq)
      · exact walk_directories hl hwalk rfl
    | _ => simp [Node.isDirectory] at h
  · simp at h

end FileSystem

end Slipway
