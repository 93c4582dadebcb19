import Slipway.Proofs.Neighbours
import Slipway.Proofs.Pieces
import Slipway.Release.Locate

/-!
# Canonical paths

A canonical path spells out a location, with no link on the way to it. A path that does so already
is its own canonical path. The settings of a release are those below the canonical form of its root.
-/

namespace Slipway

namespace FileSystem

variable {fs : FileSystem} {here place : Location} {path : Path} {name : String}

/-! ## Paths without links -/

/-- Steps that are names and lead over no link are taken one below the other. Only the last name may
be that of a link, if links at the end are not followed. -/
theorem takeSteps_plain {onLink : Location → Path → List String → Except SystemError Spot}
    {followLast : Bool} {names : List String} {spot : Spot} (hp : Plain names)
    (hd : ∀ q, here <+: q → q <+: here ++ names → (q = here ++ names → followLast = true) →
      ∀ target, fs.node? q ≠ some (.link target))
    (h : takeSteps fs onLink followLast here names = .ok spot) :
    spot = ⟨here ++ names, fs.node? (here ++ names)⟩ := by
  induction names generalizing here with
  | nil =>
    rw [List.append_nil]
    exact (Except.ok.inj h).symm
  | cons name rest ih =>
    have hname := hp name List.mem_cons_self
    have happend : here ++ name :: rest = here ++ [name] ++ rest := by simp
    have hbelow : ∀ q, here ++ [name] <+: q → q <+: here ++ [name] ++ rest →
        (q = here ++ [name] ++ rest → followLast = true) →
          ∀ target, fs.node? q ≠ some (.link target) := fun q hq hq' hlast =>
      hd q ((List.prefix_append _ _).trans hq) (happend ▸ hq') (happend ▸ hlast)
    cases takeSteps_cases h with
    | fails e moved ends => simp at ends
    | goes next moved walks =>
      obtain rfl : next = here ++ [name] := by simpa using move_name_cases hname moved
      rw [happend]
      exact ih (fun n hn => hp n (List.mem_cons_of_mem _ hn)) hbelow walks
    -- Only a link at the very end may be there, and that one is not followed.
    | follows target moved on there =>
      refine absurd there (hbelow _ (List.prefix_refl _) (List.prefix_append _ _) (fun hlast => ?_) target)
      exact on (List.self_eq_append_right.mp hlast)
    | absent moved last enterable gone ends =>
      subst last
      rw [gone]
      exact Except.ok.inj ends
    | unfollowed target moved last only there ends =>
      subst last
      rw [there]
      exact Except.ok.inj ends

theorem find_direct {spot : Spot} (habs : path.isAbsolute = true) (hp : Plain (walkSteps path))
    (hd : fs.Direct (walkSteps path)) (h : fs.find here path = .ok spot) :
    spot = ⟨walkSteps path, fs.node? (walkSteps path)⟩ := by
  unfold find startOf at h
  rw [if_pos habs] at h
  split at h
  · simp at h
  · rw [walk_eq] at h
    have hspot := takeSteps_plain hp (fun q _ hq _ => hd q (by simpa using hq)) h
    simpa using hspot

theorem findNode_direct {found : Location} {node : Node} (habs : path.isAbsolute = true)
    (hp : Plain (walkSteps path)) (hd : fs.Direct (walkSteps path))
    (h : fs.findNode here path = .ok (found, node)) :
    found = walkSteps path ∧ fs.node? found = some node := by
  obtain ⟨hplace, hnode⟩ := Spot.mk.inj (find_direct habs hp hd (findNode_eq_ok.mp h))
  exact ⟨hplace, by rw [hplace, ← hnode]⟩

theorem findNode_pathOf {found : Location} {node : Node} (hp : Plain here) (hn : IsName name)
    (hd : fs.Direct here) (h : fs.findNode [] (pathOf (here ++ [name])) false = .ok (found, node)) :
    fs.node? (here ++ [name]) = some node := by
  have hplain : Plain (here ++ [name]) := hp.append (by simpa [Plain] using hn)
  unfold findNode at h
  split at h
  · simp at h
  · simp at h
  · rename_i found' node' hfind
    obtain ⟨rfl, rfl⟩ := Prod.mk.inj (Except.ok.inj h)
    unfold find startOf at hfind
    split at hfind
    · simp at hfind
    · rw [if_pos (isAbsolute_pathOf _), walkSteps_pathOf hplain (by simp), walk_eq] at hfind
      have hspot := takeSteps_plain hplain (fun q _ hq hlast => ?_) hfind
      · obtain ⟨-, hnode⟩ := Spot.mk.inj hspot
        simpa using hnode.symm
      · rw [List.nil_append] at hq hlast
        rcases List.prefix_concat_iff.mp hq with rfl | hq
        · exact absurd (hlast rfl) (by simp)
        · exact hd q hq

/-! ## Resolving -/

/-- The location can be spelled out, and there is no link on the way to it. -/
structure Resolved (fs : FileSystem) (place : Location) : Prop where
  plain : Plain place
  direct : fs.Direct place

theorem node?_root (fs : FileSystem) : fs.node? [] = some (.directory newDirectoryMode) :=
  node?_of_fixed (Or.inl rfl)

theorem resolved_nil (fs : FileSystem) : fs.Resolved [] :=
  ⟨by simp [Plain], fun _ hq => by rw [List.prefix_nil.mp hq, node?_root]; simp⟩

theorem Resolved.dropLast (h : fs.Resolved place) : fs.Resolved place.dropLast :=
  ⟨fun n hn => h.plain n (List.mem_of_mem_dropLast hn),
    fun q hq => h.direct q (hq.trans (List.dropLast_prefix _))⟩

theorem Resolved.concat {node : Node} (h : fs.Resolved place) (hn : IsName name)
    (hnode : fs.node? (place ++ [name]) = some node) (hlink : ∀ target, node ≠ .link target) :
    fs.Resolved (place ++ [name]) := by
  refine ⟨h.plain.append (by simpa [Plain] using hn), fun q hq target => ?_⟩
  rcases List.prefix_concat_iff.mp hq with rfl | hq
  · rw [hnode, Ne, Option.some.injEq]
    exact hlink target
  · exact h.direct q hq target

theorem resolveSteps_resolved
    {onLink : Location → Path → List String → Except SystemError Location} {steps : List String}
    (hlink : ∀ here target rest place, fs.Resolved here → (∀ n ∈ rest, '/' ∉ n.toList) →
      onLink here target rest = .ok place → fs.Resolved place)
    (hs : ∀ n ∈ steps, '/' ∉ n.toList) (hr : fs.Resolved here)
    (h : resolveSteps fs onLink here steps = .ok place) : fs.Resolved place := by
  induction steps generalizing here with
  | nil =>
    obtain rfl := Except.ok.inj h
    exact hr
  | cons name rest ih =>
    have hrest : ∀ n ∈ rest, '/' ∉ n.toList := fun n hn => hs n (List.mem_cons_of_mem _ hn)
    rw [resolveSteps] at h
    split at h
    · exact ih hrest hr h
    · rename_i hidle
      split at h
      · exact ih hrest hr.dropLast h
      · rename_i hdots
        rw [not_or] at hidle
        have hn : IsName name := ⟨hidle.1, hidle.2, hdots, hs name List.mem_cons_self⟩
        cases hfind : fs.findNode [] (pathOf (here ++ [name])) false with
        | error e => simp [hfind] at h
        | ok found =>
          obtain ⟨found, node⟩ := found
          have hnode := findNode_pathOf hr.plain hn hr.direct hfind
          simp only [hfind] at h
          cases node with
          | link target => exact hlink _ _ _ _ hr hrest h
          | _ =>
            simp only at h
            split_ifs at h
            exact ih hrest (hr.concat hn hnode (by simp)) h

theorem no_separator_of_mem_walkSteps (h : name ∈ walkSteps path) : '/' ∉ name.toList := by
  have hsteps : ∀ n ∈ stepsOf path, '/' ∉ n.toList := by
    intro n hn
    obtain ⟨chars, hc, rfl⟩ := List.mem_map.mp hn
    rw [String.toList_ofList]
    exact Path.no_separator_of_mem_split (List.mem_of_mem_filter hc)
  unfold walkSteps at h
  split at h
  · rcases List.mem_append.mp h with h | h
    · exact hsteps name h
    · rw [List.mem_singleton.mp h]
      decide
  · exact hsteps name h

theorem Resolved.startOf (h : fs.Resolved here) (path : Path) :
    fs.Resolved (FileSystem.startOf here path) := by
  unfold FileSystem.startOf
  split
  · exact resolved_nil fs
  · exact h

theorem resolve_resolved {links : Nat} {steps : List String}
    (hs : ∀ n ∈ steps, '/' ∉ n.toList) (hr : fs.Resolved here)
    (h : fs.resolve links here steps = .ok place) : fs.Resolved place := by
  induction links generalizing here steps place with
  | zero => exact resolveSteps_resolved (by simp) hs hr h
  | succ links ih =>
    refine resolveSteps_resolved (fun here target rest place hr hrest hlink => ?_) hs hr h
    refine ih (fun n hn => ?_) (hr.startOf _) hlink
    rcases List.mem_append.mp hn with hn | hn
    · exact no_separator_of_mem_walkSteps hn
    · exact hrest n hn

/-- A canonical path spells out a location without links. -/
theorem canonicalize_resolved {canonical : Path} (hr : fs.Resolved here)
    (h : fs.canonicalize here path = .ok canonical) :
    ∃ place, fs.Resolved place ∧ canonical = pathOf place := by
  unfold canonicalize at h
  split_ifs at h
  obtain ⟨place, hplace, rfl⟩ := map_eq_ok h
  exact ⟨place, resolve_resolved (fun n hn => no_separator_of_mem_walkSteps hn) (hr.startOf _) hplace,
    rfl⟩

theorem resolveSteps_plain
    {onLink : Location → Path → List String → Except SystemError Location} {names : List String}
    (hp : Plain names) (hr : fs.Resolved here) (hd : fs.Direct (here ++ names))
    (h : resolveSteps fs onLink here names = .ok place) : place = here ++ names := by
  induction names generalizing here with
  | nil =>
    rw [List.append_nil]
    exact (Except.ok.inj h).symm
  | cons name rest ih =>
    have hname := hp name List.mem_cons_self
    have happend : here ++ name :: rest = here ++ [name] ++ rest := by simp
    rw [happend] at hd ⊢
    rw [resolveSteps, if_neg (by simp [hname.ne_empty, hname.ne_dot]), if_neg hname.ne_dots] at h
    cases hfind : fs.findNode [] (pathOf (here ++ [name])) false with
    | error e => simp [hfind] at h
    | ok found =>
      obtain ⟨found, node⟩ := found
      have hnode := findNode_pathOf hr.plain hname hr.direct hfind
      have hnolink : ∀ target, node ≠ .link target := by
        rintro target rfl
        exact hd _ (List.prefix_append _ _) target hnode
      simp only [hfind] at h
      cases node with
      | link target => exact absurd rfl (hnolink target)
      | _ =>
        split_ifs at h
        exact ih (fun n hn => hp n (List.mem_cons_of_mem _ hn)) (hr.concat hname hnode hnolink) hd h

theorem canonicalize_direct {canonical : Path} (habs : path.isAbsolute = true)
    (hp : Plain (walkSteps path)) (hd : fs.Direct (walkSteps path))
    (h : fs.canonicalize here path = .ok canonical) : canonical = pathOf (walkSteps path) := by
  unfold canonicalize FileSystem.startOf at h
  rw [if_pos habs] at h
  split_ifs at h
  obtain ⟨place, hplace, rfl⟩ := map_eq_ok h
  rw [resolveSteps_plain hp (resolved_nil fs) (by simpa using hd) hplace, List.nil_append]

end FileSystem

/-! ## The root of a release -/

open FileSystem World

variable {σ : Type} {runner : Runner σ} {may : Refusals} {w w' : World σ}

theorem runs_fromRoot {root : Path} {settings : Settings}
    (hr : w.machine.files.Resolved w.machine.directory)
    (h : w.Runs runner may (Settings.fromRoot root).run (.ok settings) w') :
    w.Untouched w' ∧ ∃ R, w.machine.files.Resolved R ∧ settings = Settings.below (pathOf R) := by
  rw [Settings.fromRoot, runs_stage_bind_ok] at h
  obtain ⟨canonical, w₁, hcanon, hpure⟩ := h
  rw [runs_orElse_ok, runs_attempt] at hcanon
  obtain ⟨hok, rfl⟩ := hpure
  obtain rfl := Except.ok.inj hok
  refine ⟨hcanon.untouched (only_file trivial), ?_⟩
  rw [runs_file] at hcanon
  obtain ⟨m, hm, -⟩ := hcanon
  obtain ⟨hreply, -⟩ := Machine.performs_ok hm (by simp [FileAction.failure])
  obtain ⟨R, hresolved, rfl⟩ := canonicalize_resolved hr hreply.symm
  exact ⟨R, hresolved, rfl⟩

end Slipway
