import Slipway.Proofs.Paths

/-!
# Where walks end

A walk looks at the directories and links on its way and at nothing else, so it leads to the same
directory as long as these stay. What the last name stands for is decided in that directory.
-/

namespace Slipway

/-- Whether a walk can go on from the node. -/
def Node.leads : Node → Prop
  | .directory _ => True
  | .link _ => True
  | _ => False

namespace FileSystem

variable {fs fs' : FileSystem} {here place : Location} {dir : Path} {name : String}

/-- The directories and links of the first file system are in the second one too. -/
def Keeps (fs fs' : FileSystem) : Prop :=
  ∀ q node, node.leads → fs.node? q = some node → fs'.node? q = some node

theorem Keeps.refl (fs : FileSystem) : Keeps fs fs := fun _ _ _ h => h

theorem Keeps.trans {fs'' : FileSystem} (h : Keeps fs fs') (h' : Keeps fs' fs'') :
    Keeps fs fs'' :=
  fun q node hn hq => h' q node hn (h q node hn hq)

/-- A directory that can be walked through. -/
def Enterable (fs : FileSystem) (place : Location) : Prop :=
  ∃ mode, fs.node? place = some (.directory mode) ∧ ownerExecutes mode = true

theorem Enterable.keeps (h : fs.Enterable place) (hk : Keeps fs fs') : fs'.Enterable place := by
  obtain ⟨mode, hnode, hexec⟩ := h
  exact ⟨mode, hk _ _ trivial hnode, hexec⟩

/-! ## Steps -/

/-- How a walk goes on at a link. -/
def follow (fs : FileSystem) (followLast : Bool) :
    (links : Nat) → Location → Path → List String → Except SystemError Spot
  | 0, _, _, _ => .error .tooManyLinks
  | links + 1, here, target, rest =>
    fs.walk followLast links (startOf here target) (walkSteps target ++ rest)

theorem walk_eq (fs : FileSystem) (followLast : Bool) (links : Nat) :
    fs.walk followLast links = takeSteps fs (fs.follow followLast links) followLast := by
  cases links <;> rfl

/-- Where a name leads that is not the last one of a walk: to a place, or over a link. -/
def move (fs : FileSystem) (here : Location) (name : String) :
    Except SystemError (Location ⊕ Path) :=
  match fs.node? here with
  | none => .error .noEntry
  | some (.directory mode) =>
    if name = "" then .ok (.inl here)
    else if !ownerExecutes mode then .error .noAccess
    else if name = "." then .ok (.inl here)
    else if name = ".." then .ok (.inl here.dropLast)
    else if maxNameBytes < name.utf8ByteSize then .error .nameTooLong
    else
      match fs.node? (here ++ [name]) with
      | none => .error .noEntry
      | some (.link target) => .ok (.inr ⟨target⟩)
      | some _ => .ok (.inl (here ++ [name]))
  | some _ => .error .notDirectory

/-- What a walk does at a name: what `move` says, but that the last name may be that of nothing, or
of a link that is not followed. -/
inductive FirstStep (fs : FileSystem)
    (onLink : Location → Path → List String → Except SystemError Spot) (followLast : Bool)
    (here : Location) (name : String) (rest : List String) (r : Except SystemError Spot) : Prop
  | fails (e : SystemError) (moved : fs.move here name = .error e) (ends : r = .error e)
  | goes (next : Location) (moved : fs.move here name = .ok (.inl next))
      (walks : takeSteps fs onLink followLast next rest = r)
  | follows (target : String) (moved : fs.move here name = .ok (.inr ⟨target⟩))
      (on : rest = [] → followLast = true)
      (there : fs.node? (here ++ [name]) = some (.link target))
      (walks : onLink here ⟨target⟩ rest = r)
  | absent (moved : fs.move here name = .error .noEntry) (last : rest = [])
      (enterable : fs.Enterable here) (gone : fs.node? (here ++ [name]) = none)
      (ends : r = .ok ⟨here ++ [name], none⟩)
  | unfollowed (target : String) (moved : fs.move here name = .ok (.inr ⟨target⟩))
      (last : rest = []) (only : followLast = false)
      (there : fs.node? (here ++ [name]) = some (.link target))
      (ends : r = .ok ⟨here ++ [name], some (.link target)⟩)

theorem takeSteps_cases {onLink : Location → Path → List String → Except SystemError Spot}
    {followLast : Bool} {rest : List String} {r : Except SystemError Spot}
    (h : takeSteps fs onLink followLast here (name :: rest) = r) :
    FirstStep fs onLink followLast here name rest r := by
  have hmove := move.eq_1 fs here name
  rw [takeSteps] at h
  cases hhere : fs.node? here with
  | none =>
    rw [hhere] at h hmove
    exact .fails _ hmove h.symm
  | some node =>
    rw [hhere] at h hmove
    cases node with
    | directory mode =>
      dsimp only at h hmove
      by_cases hempty : name = ""
      · rw [if_pos hempty] at h hmove
        exact .goes _ hmove h
      rw [if_neg hempty] at h hmove
      by_cases hexec : (!ownerExecutes mode) = true
      · rw [if_pos hexec] at h hmove
        exact .fails _ hmove h.symm
      rw [if_neg hexec] at h hmove
      by_cases hdot : name = "."
      · rw [if_pos hdot] at h hmove
        exact .goes _ hmove h
      rw [if_neg hdot] at h hmove
      by_cases hdots : name = ".."
      · rw [if_pos hdots] at h hmove
        exact .goes _ hmove h
      rw [if_neg hdots] at h hmove
      by_cases hsize : maxNameBytes < name.utf8ByteSize
      · rw [if_pos hsize] at h hmove
        exact .fails _ hmove h.symm
      rw [if_neg hsize] at h hmove
      -- Only here it matters whether the name is the last one.
      cases hnext : fs.node? (here ++ [name]) with
      | none =>
        simp only [hnext] at h hmove
        split_ifs at h with hlast
        · exact .absent hmove (List.isEmpty_iff.mp hlast) ⟨mode, hhere, by simpa using hexec⟩ hnext
            h.symm
        · exact .fails _ hmove h.symm
      | some next =>
        cases next with
        | link target =>
          simp only [hnext] at h hmove
          split_ifs at h with hlast
          · obtain ⟨hnil, honly⟩ := (Bool.and_eq_true _ _).mp hlast
            exact .unfollowed target hmove (List.isEmpty_iff.mp hnil) (by simpa using honly) hnext
              h.symm
          · refine .follows _ hmove (fun hnil => ?_) hnext h
            simpa [hnil] using hlast
        | _ =>
          simp only [hnext] at h hmove
          exact .goes _ hmove h
    | _ => exact .fails _ hmove h.symm

theorem walk_cons {links : Nat} {rest : List String} (h : rest ≠ []) :
    fs.walk true links here (name :: rest) =
      match fs.move here name with
      | .error e => .error e
      | .ok (.inl next) => fs.walk true links next rest
      | .ok (.inr target) => fs.follow true links here target rest := by
  rw [walk_eq]
  cases takeSteps_cases (rfl : takeSteps fs (fs.follow true links) true here (name :: rest) = _) with
  | fails e moved ends => rw [ends, moved]
  | goes next moved walks => rw [← walks, moved]
  | follows target moved _ _ walks => rw [← walks, moved]
  | absent _ last => exact absurd last h
  | unfollowed _ _ last => exact absurd last h

theorem walk_last {links : Nat} {next : Location ⊕ Path} (h : fs.move here name = .ok next) :
    fs.walk true links here [name] =
      match next with
      | .inl place => .ok ⟨place, fs.node? place⟩
      | .inr target => fs.follow true links here target [] := by
  rw [walk_eq]
  cases takeSteps_cases (rfl : takeSteps fs (fs.follow true links) true here [name] = _) with
  | fails e moved => simp [moved] at h
  | goes place moved walks =>
    obtain rfl := Except.ok.inj (h.symm.trans moved)
    exact walks.symm
  | follows target moved _ _ walks =>
    obtain rfl := Except.ok.inj (h.symm.trans moved)
    exact walks.symm
  | absent moved => simp [moved] at h
  | unfollowed _ _ _ only => simp at only

theorem move_dot (hent : fs.Enterable here) : fs.move here "." = .ok (.inl here) := by
  obtain ⟨mode, hnode, hexec⟩ := hent
  simp [move, hnode, hexec]

theorem move_name (hn : IsName name) (hent : fs.Enterable here)
    (hsize : name.utf8ByteSize ≤ maxNameBytes) :
    fs.move here name =
      match fs.node? (here ++ [name]) with
      | none => .error .noEntry
      | some (.link target) => .ok (.inr ⟨target⟩)
      | some _ => .ok (.inl (here ++ [name])) := by
  obtain ⟨mode, hdir, hexec⟩ := hent
  simp only [move, hdir, hn.ne_empty, hn.ne_dot, hn.ne_dots, hexec,
    Nat.not_lt.mpr hsize, if_false, Bool.not_true, Bool.false_eq_true]

theorem directory_of_move {next : Location ⊕ Path} (h : fs.move here name = .ok next) :
    ∃ mode, fs.node? here = some (.directory mode) := by
  unfold move at h
  split at h
  · simp at h
  · exact ⟨_, ‹_›⟩
  · simp at h

theorem enterable_of_move {next : Location ⊕ Path} (hn : name ≠ "")
    (h : fs.move here name = .ok next) : fs.Enterable here := by
  obtain ⟨mode, hdir⟩ := directory_of_move h
  simp only [move, hdir, hn, if_false] at h
  split_ifs at h with hexec <;> exact ⟨mode, hdir, by simpa using hexec⟩

theorem size_of_move {next : Location ⊕ Path} (hn : IsName name)
    (h : fs.move here name = .ok next) : fs.Enterable here ∧ name.utf8ByteSize ≤ maxNameBytes := by
  obtain ⟨mode, hdir, hexec⟩ := enterable_of_move hn.ne_empty h
  refine ⟨⟨mode, hdir, hexec⟩, ?_⟩
  by_contra hsize
  simp [move, hdir, hexec, hn.ne_empty, hn.ne_dot, hn.ne_dots, Nat.lt_of_not_le hsize] at h

/-- A name leads to the place below, or over the link that is there. -/
theorem move_name_cases {next : Location ⊕ Path} (hn : IsName name)
    (h : fs.move here name = .ok next) :
    next = .inl (here ++ [name]) ∨
      ∃ target, fs.node? (here ++ [name]) = some (.link target) ∧ next = .inr ⟨target⟩ := by
  obtain ⟨hent, hsize⟩ := size_of_move hn h
  rw [move_name hn hent hsize] at h
  split at h
  · simp at h
  · exact Or.inr ⟨_, ‹_›, (Except.ok.inj h).symm⟩
  · exact Or.inl (Except.ok.inj h).symm

theorem move_plain {next : Location ⊕ Path} (hn : IsName name)
    (hlink : ∀ target, fs.node? (here ++ [name]) ≠ some (.link target))
    (h : fs.move here name = .ok next) : next = .inl (here ++ [name]) := by
  rcases move_name_cases hn h with hnext | ⟨target, hnode, -⟩
  · exact hnext
  · exact absurd hnode (hlink target)

/-- A walk that has taken some steps goes on in the same way whatever comes next, if it does so
behind each link. -/
theorem walk_append_of_follow {links : Nat} {steps tail : List String} {spot : Spot}
    (hlink : ∀ here target rest spot, fs.follow true links here target (rest ++ tail) = .ok spot →
      ∃ left place, ∀ more, more ≠ [] →
        fs.follow true links here target (rest ++ more) = fs.walk true left place more)
    (h : fs.walk true links here (steps ++ tail) = .ok spot) (ht : tail ≠ []) :
    ∃ left place, ∀ more, more ≠ [] →
      fs.walk true links here (steps ++ more) = fs.walk true left place more := by
  induction steps generalizing here with
  | nil => exact ⟨links, here, fun _ _ => rfl⟩
  | cons name rest ih =>
    have hcons : ∀ more, more ≠ [] → rest ++ more ≠ [] := fun more hm => by simp [hm]
    rw [List.cons_append, walk_cons (hcons tail ht)] at h
    -- The move is chosen without a look at what follows the name.
    cases hmove : fs.move here name with
    | error e => simp [hmove] at h
    | ok next =>
      rw [hmove] at h
      cases next with
      | inl next =>
        obtain ⟨left, place, hmore⟩ := ih h
        refine ⟨left, place, fun more hm => ?_⟩
        rw [List.cons_append, walk_cons (hcons more hm), hmove]
        exact hmore more hm
      | inr target =>
        obtain ⟨left, place, hmore⟩ := hlink _ _ _ _ h
        refine ⟨left, place, fun more hm => ?_⟩
        rw [List.cons_append, walk_cons (hcons more hm), hmove]
        exact hmore more hm

theorem walk_append {links : Nat} {steps tail : List String} {spot : Spot}
    (h : fs.walk true links here (steps ++ tail) = .ok spot) (ht : tail ≠ []) :
    ∃ left place, ∀ more, more ≠ [] →
      fs.walk true links here (steps ++ more) = fs.walk true left place more := by
  induction links generalizing here steps spot with
  | zero =>
    refine walk_append_of_follow (fun _ _ _ _ hlink => ?_) h ht
    exact absurd hlink (by simp [follow])
  | succ links ih =>
    refine walk_append_of_follow (fun here target rest spot hlink => ?_) h ht
    rw [follow, ← List.append_assoc] at hlink
    obtain ⟨left, place, hmore⟩ := ih hlink
    refine ⟨left, place, fun more hm => ?_⟩
    rw [follow, ← List.append_assoc]
    exact hmore more hm

/-! ## The last step -/

theorem enterable_of_walk {followLast : Bool} {links : Nat} {rest : List String} {spot : Spot}
    (h : fs.walk followLast links here (name :: rest) = .ok spot) (hn : name ≠ "") :
    fs.Enterable here := by
  rw [walk_eq] at h
  cases takeSteps_cases h with
  | fails e moved ends => simp at ends
  | goes next moved => exact enterable_of_move hn moved
  | follows target moved => exact enterable_of_move hn moved
  | absent moved last enterable => exact enterable
  | unfollowed target moved => exact enterable_of_move hn moved

theorem walk_dot {links : Nat} {spot : Spot} :
    fs.walk true links here ["."] = .ok spot ↔
      fs.Enterable here ∧ spot = ⟨here, fs.node? here⟩ := by
  have hstep : fs.Enterable here → fs.walk true links here ["."] = .ok ⟨here, fs.node? here⟩ := by
    rintro ⟨mode, hnode, hexec⟩
    simp [walk_eq, takeSteps, hnode, hexec]
  constructor
  · intro h
    have hent := enterable_of_walk h (by simp)
    rw [hstep hent] at h
    exact ⟨hent, (Except.ok.inj h).symm⟩
  · rintro ⟨hent, rfl⟩
    exact hstep hent

/-- A separator at the end of a path leads nowhere else, and only from a directory. -/
theorem walk_empty {links : Nat} {spot : Spot} (h : fs.walk true links here [""] = .ok spot) :
    (∃ mode, fs.node? here = some (.directory mode)) ∧ spot = ⟨here, fs.node? here⟩ := by
  rw [walk_eq, takeSteps] at h
  split at h
  · simp at h
  · rename_i mode hdir
    exact ⟨⟨mode, hdir⟩, (Except.ok.inj h).symm⟩
  · simp at h

theorem walk_name {links : Nat} {spot : Spot} (hn : IsName name)
    (hlink : ∀ target, fs.node? (here ++ [name]) ≠ some (.link target)) :
    fs.walk true links here [name] = .ok spot ↔
      fs.Enterable here ∧ name.utf8ByteSize ≤ maxNameBytes ∧
        spot = ⟨here ++ [name], fs.node? (here ++ [name])⟩ := by
  have hstep : fs.Enterable here → fs.walk true links here [name] =
      if maxNameBytes < name.utf8ByteSize then .error .nameTooLong
      else .ok ⟨here ++ [name], fs.node? (here ++ [name])⟩ := by
    rintro ⟨mode, hnode, hexec⟩
    rw [walk_eq, takeSteps, hnode]
    simp only [hn.ne_empty, hn.ne_dot, hn.ne_dots, hexec, if_false, Bool.not_true,
      Bool.false_eq_true]
    cases hnext : fs.node? (here ++ [name]) with
    | none => rfl
    | some next =>
      cases next with
      | link target => exact absurd hnext (hlink target)
      | _ => simp [takeSteps, hnext]
  constructor
  · intro h
    have hent := enterable_of_walk h hn.ne_empty
    rw [hstep hent] at h
    split at h
    · exact absurd h (by simp)
    · rename_i hsize
      exact ⟨hent, Nat.le_of_not_lt hsize, (Except.ok.inj h).symm⟩
  · rintro ⟨hent, hsize, rfl⟩
    rw [hstep hent, if_neg (Nat.not_lt.mpr hsize)]

theorem size_of_walk_name {links : Nat} {spot : Spot} (hn : IsName name)
    (h : fs.walk true links here [name] = .ok spot) : name.utf8ByteSize ≤ maxNameBytes := by
  obtain ⟨mode, hnode, hexec⟩ := enterable_of_walk h hn.ne_empty
  rw [walk_eq, takeSteps, hnode] at h
  simp only [hn.ne_empty, hn.ne_dot, hn.ne_dots, hexec, if_false, Bool.not_true,
    Bool.false_eq_true] at h
  by_contra hsize
  simp [Nat.lt_of_not_le hsize] at h

theorem takeSteps_node {followLast : Bool} {steps : List String} {spot : Spot}
    {onLink : Location → Path → List String → Except SystemError Spot}
    (hlink : ∀ here target rest spot, onLink here target rest = .ok spot →
      spot.node = fs.node? spot.place)
    (h : takeSteps fs onLink followLast here steps = .ok spot) :
    spot.node = fs.node? spot.place := by
  induction steps generalizing here with
  | nil => obtain rfl := Except.ok.inj h; rfl
  | cons name rest ih =>
    cases takeSteps_cases h with
    | fails e moved ends => simp at ends
    | goes next moved walks => exact ih walks
    | follows target moved _ _ walks => exact hlink _ _ _ _ walks
    | absent moved last enterable gone ends =>
      obtain rfl := Except.ok.inj ends
      exact gone.symm
    | unfollowed target moved last only there ends =>
      obtain rfl := Except.ok.inj ends
      exact there.symm

theorem walk_node {followLast : Bool} {links : Nat} {steps : List String} {spot : Spot}
    (h : fs.walk followLast links here steps = .ok spot) : spot.node = fs.node? spot.place := by
  induction links generalizing here steps spot with
  | zero => exact takeSteps_node (by simp) h
  | succ links ih => exact takeSteps_node (fun _ _ _ _ hlink => ih hlink) h

/-! ## The directory that a path leads to -/

/-- The path leads to a directory at `place`, and on from there. -/
def Reaches (fs : FileSystem) (here : Location) (dir : Path) (place : Location) : Prop :=
  fs.walk true maxLinks (startOf here dir) (stepsOf dir ++ ["."]) = .ok ⟨place, fs.node? place⟩

theorem Reaches.unique {other : Location} (h : fs.Reaches here dir place)
    (h' : fs.Reaches here dir other) : place = other := by
  unfold Reaches at h h'
  rw [h] at h'
  exact (Spot.mk.inj (Except.ok.inj h')).1

/-- What comes behind the directory's path is walked from the directory. -/
theorem Reaches.walk_on (h : fs.Reaches here dir place) :
    fs.Enterable place ∧ ∃ links, ∀ more, more ≠ [] →
      fs.walk true maxLinks (startOf here dir) (stepsOf dir ++ more)
        = fs.walk true links place more := by
  obtain ⟨links, other, hmore⟩ := walk_append h (List.cons_ne_nil _ _)
  have hdot := hmore ["."] (List.cons_ne_nil _ _)
  rw [h] at hdot
  obtain ⟨hent, hspot⟩ := walk_dot.mp hdot.symm
  obtain ⟨rfl, -⟩ := Spot.mk.inj hspot
  exact ⟨hent, links, hmore⟩

theorem Reaches.enterable (h : fs.Reaches here dir place) : fs.Enterable place := h.walk_on.1

theorem reaches_of_walk {spot : Spot}
    (h : fs.walk true maxLinks (startOf here dir) (stepsOf dir ++ ["."]) = .ok spot) :
    fs.Reaches here dir spot.place := by
  obtain ⟨links, place, hmore⟩ := walk_append h (List.cons_ne_nil _ _)
  have hdot := hmore ["."] (List.cons_ne_nil _ _)
  rw [h] at hdot
  obtain ⟨-, rfl⟩ := walk_dot.mp hdot.symm
  exact h

theorem reaches_of_walk_name {spot : Spot} (hn : IsName name)
    (h : fs.walk true maxLinks (startOf here dir) (stepsOf dir ++ [name]) = .ok spot) :
    ∃ place, fs.Reaches here dir place := by
  obtain ⟨links, place, hmore⟩ := walk_append h (List.cons_ne_nil _ _)
  rw [hmore [name] (List.cons_ne_nil _ _)] at h
  have hent := enterable_of_walk h hn.ne_empty
  refine ⟨place, ?_⟩
  unfold Reaches
  rw [hmore ["."] (List.cons_ne_nil _ _)]
  exact walk_dot.mpr ⟨hent, rfl⟩

/-! ## Names in a directory -/

theorem findNode_eq_ok {path : Path} {found : Location} {node : Node} :
    fs.findNode here path = .ok (found, node) ↔ fs.find here path = .ok ⟨found, some node⟩ := by
  unfold findNode
  cases fs.find here path with
  | error e => simp
  | ok spot =>
    obtain ⟨at', _ | n⟩ := spot <;> simp

theorem node?_of_findNode {path : Path} {found : Location} {node : Node}
    (h : fs.findNode here path = .ok (found, node)) : fs.node? found = some node := by
  have hfind := findNode_eq_ok.mp h
  unfold find at hfind
  split at hfind
  · simp at hfind
  · exact (walk_node hfind).symm

theorem findLast_join {last : LastName} (hn : IsName name)
    (h : fs.findLast here (dir.join name) = .ok last) :
    refuse? (dir.join name) = none ∧ ∃ place mode, fs.Reaches here dir place ∧
      fs.node? place = some (.directory mode) ∧ last = ⟨place, mode, some name, false⟩ := by
  unfold findLast at h
  cases hr : refuse? (dir.join name) with
  | some e => simp [hr] at h
  | none =>
    refine ⟨rfl, ?_⟩
    simp only [hr, hn.stepsOf_join, hn.startOf_join, hn.endsInSeparator_join, List.dropLast_concat,
      List.getLast?_concat] at h
    cases hwalk : fs.walk true maxLinks (startOf here dir) (stepsOf dir ++ ["."]) with
    | error e => simp [hwalk] at h
    | ok spot =>
      have hreach := reaches_of_walk hwalk
      obtain ⟨mode, hnode, -⟩ := hreach.enterable
      unfold Reaches at hreach
      rw [hreach, hnode] at h
      refine ⟨spot.place, mode, hreach, hnode, ?_⟩
      simpa [Option.filter, hn.ne_dot, hn.ne_dots] using (Except.ok.inj h).symm

theorem Reaches.findLast (h : fs.Reaches here dir place) (hn : IsName name)
    (hr : refuse? (dir.join name) = none) :
    ∃ mode, fs.node? place = some (.directory mode) ∧
      fs.findLast here (dir.join name) = .ok ⟨place, mode, some name, false⟩ := by
  obtain ⟨mode, hnode, -⟩ := h.enterable
  refine ⟨mode, hnode, ?_⟩
  unfold FileSystem.findLast
  unfold Reaches at h
  simp only [hr, hn.stepsOf_join, hn.startOf_join, hn.endsInSeparator_join, List.dropLast_concat,
    List.getLast?_concat, h, hnode]
  simp [hn.ne_dot, hn.ne_dots]

theorem find_join {spot : Spot} (hn : IsName name)
    (h : fs.find here (dir.join name) = .ok spot) :
    refuse? (dir.join name) = none ∧ name.utf8ByteSize ≤ maxNameBytes ∧
      ∃ place, fs.Reaches here dir place ∧
        ((∀ target, fs.node? (place ++ [name]) ≠ some (.link target)) →
          spot = ⟨place ++ [name], fs.node? (place ++ [name])⟩) := by
  unfold find at h
  cases hr : refuse? (dir.join name) with
  | some e => simp [hr] at h
  | none =>
    simp only [hr, hn.startOf_join, hn.walkSteps_join] at h
    obtain ⟨place, hreach⟩ := reaches_of_walk_name hn h
    obtain ⟨hent, links, hmore⟩ := hreach.walk_on
    rw [hmore [name] (List.cons_ne_nil _ _)] at h
    exact ⟨rfl, size_of_walk_name hn h, place, hreach, fun hl => ((walk_name hn hl).mp h).2.2⟩

theorem Reaches.find (h : fs.Reaches here dir place) (hn : IsName name)
    (hr : refuse? (dir.join name) = none) (hsize : name.utf8ByteSize ≤ maxNameBytes)
    (hlink : ∀ target, fs.node? (place ++ [name]) ≠ some (.link target)) :
    fs.find here (dir.join name) = .ok ⟨place ++ [name], fs.node? (place ++ [name])⟩ := by
  obtain ⟨hent, links, hmore⟩ := h.walk_on
  unfold FileSystem.find
  simp only [hr, hn.startOf_join, hn.walkSteps_join, hmore [name] (List.cons_ne_nil _ _)]
  exact (walk_name hn hlink).mpr ⟨hent, hsize, rfl⟩

/-! ## Ways that stay -/

theorem directory_of_walk {links : Nat} {steps : List String} {spot : Spot}
    (h : fs.walk true links here steps = .ok spot) (hs : steps ≠ []) :
    ∃ mode, fs.node? here = some (.directory mode) := by
  obtain ⟨name, rest, rfl⟩ := List.exists_cons_of_ne_nil hs
  rw [walk_eq] at h
  cases takeSteps_cases h with
  | fails e moved ends => simp at ends
  | goes next moved => exact directory_of_move moved
  | follows target moved => exact directory_of_move moved
  | absent moved last enterable =>
    obtain ⟨mode, hnode, -⟩ := enterable
    exact ⟨mode, hnode⟩
  | unfollowed target moved => exact directory_of_move moved

theorem directory_of_walk_append_of_follow {links links' : Nat} {steps tail : List String}
    {spot spot' : Spot} (ht : tail ≠ [])
    (hlink : ∀ here target rest, fs.follow true links here target (rest ++ tail) = .ok spot →
      fs.follow true links' here target rest = .ok spot' →
      ∃ mode, spot'.node = some (.directory mode))
    (h : fs.walk true links here (steps ++ tail) = .ok spot)
    (h' : fs.walk true links' here steps = .ok spot') :
    ∃ mode, spot'.node = some (.directory mode) := by
  induction steps generalizing here with
  | nil =>
    rw [walk_eq] at h'
    obtain rfl := Except.ok.inj h'
    exact directory_of_walk h ht
  | cons name rest ih =>
    rw [List.cons_append, walk_cons (by simp [ht])] at h
    cases hmove : fs.move here name with
    | error e => simp [hmove] at h
    | ok next =>
      rw [hmove] at h
      by_cases hrest : rest = []
      · subst hrest
        rw [walk_last hmove] at h'
        cases next with
        | inl next =>
          obtain rfl := Except.ok.inj h'
          exact directory_of_walk h ht
        | inr target => exact hlink _ _ _ h h'
      · rw [walk_cons hrest, hmove] at h'
        cases next with
        | inl next => exact ih h h'
        | inr target => exact hlink _ _ _ h h'

theorem directory_of_walk_append {links links' : Nat} {steps tail : List String}
    {spot spot' : Spot} (ht : tail ≠ [])
    (h : fs.walk true links here (steps ++ tail) = .ok spot)
    (h' : fs.walk true links' here steps = .ok spot') :
    ∃ mode, spot'.node = some (.directory mode) := by
  induction links generalizing links' here steps with
  | zero =>
    exact directory_of_walk_append_of_follow ht (fun _ _ _ hlink => by simp [follow] at hlink) h h'
  | succ links ih =>
    refine directory_of_walk_append_of_follow ht (fun here target rest hlink hlink' => ?_) h h'
    rw [follow, ← List.append_assoc] at hlink
    cases links' with
    | zero => simp [follow] at hlink'
    | succ links' => exact ih hlink hlink'


/-- A name leads to the same place as long as the ways stay, and what is at that place. -/
theorem move_keeps {next : Location ⊕ Path} (hk : Keeps fs fs')
    (h : fs.move here name = .ok next)
    (hto : ∀ p, next = .inl p → fs'.node? p = fs.node? p) : fs'.move here name = .ok next := by
  unfold move at h ⊢
  cases hnode : fs.node? here with
  | none => simp [hnode] at h
  | some node =>
    cases node with
    | directory mode =>
      rw [hnode] at h
      rw [hk here (.directory mode) trivial hnode]
      dsimp only at h ⊢
      split_ifs at h ⊢ <;> try exact h
      cases hnext : fs.node? (here ++ [name]) with
      | none => simp [hnext] at h
      | some there =>
        cases there with
        | link target => rw [hnext] at h; rw [hk _ (.link target) trivial hnext]; exact h
        | _ =>
          rw [hnext] at h
          rw [hto _ (Except.ok.inj h).symm, hnext]
          exact h
    | _ => simp [hnode] at h

theorem move_keeps_directory {next : Location ⊕ Path} (hk : Keeps fs fs')
    (h : fs.move here name = .ok next)
    (hdir : ∀ p, next = .inl p → ∃ mode, fs.node? p = some (.directory mode)) :
    fs'.move here name = .ok next := by
  refine move_keeps hk h (fun p hp => ?_)
  obtain ⟨mode, hnode⟩ := hdir p hp
  rw [hnode, hk p (.directory mode) trivial hnode]

theorem walk_keeps_of_follow {links : Nat} {steps : List String} {spot : Spot}
    (hk : Keeps fs fs')
    (hlink : ∀ here target rest spot, fs.follow true links here target (rest ++ ["."]) = .ok spot →
      fs'.follow true links here target (rest ++ ["."]) = .ok ⟨spot.place, fs'.node? spot.place⟩)
    (h : fs.walk true links here (steps ++ ["."]) = .ok spot) :
    fs'.walk true links here (steps ++ ["."]) = .ok ⟨spot.place, fs'.node? spot.place⟩ := by
  induction steps generalizing here with
  | nil =>
    obtain ⟨hent, rfl⟩ := walk_dot.mp h
    exact walk_dot.mpr ⟨hent.keeps hk, rfl⟩
  | cons name rest ih =>
    have hrest : rest ++ ["."] ≠ [] := by simp
    rw [List.cons_append, walk_cons hrest] at h ⊢
    cases hmove : fs.move here name with
    | error e => simp [hmove] at h
    | ok next =>
      rw [hmove] at h
      cases next with
      | inl next =>
        have hdir : ∀ p, (.inl next : Location ⊕ Path) = .inl p →
            ∃ mode, fs.node? p = some (.directory mode) := by
          rintro p ⟨⟩
          exact directory_of_walk h hrest
        rw [move_keeps_directory hk hmove hdir]
        exact ih h
      | inr target =>
        rw [move_keeps_directory hk hmove (by simp)]
        exact hlink _ _ _ _ h

theorem walk_keeps {links : Nat} {steps : List String} {spot : Spot} (hk : Keeps fs fs')
    (h : fs.walk true links here (steps ++ ["."]) = .ok spot) :
    fs'.walk true links here (steps ++ ["."]) = .ok ⟨spot.place, fs'.node? spot.place⟩ := by
  induction links generalizing here steps spot with
  | zero =>
    refine walk_keeps_of_follow hk (fun _ _ _ _ hlink => ?_) h
    exact absurd hlink (by simp [follow])
  | succ links ih =>
    refine walk_keeps_of_follow hk (fun here target rest spot hlink => ?_) h
    rw [follow, ← List.append_assoc] at hlink ⊢
    exact ih hlink

theorem move_of_walk {links : Nat} {node : Node}
    (h : fs.walk true links here [name] = .ok ⟨place, some node⟩) :
    ∃ next, fs.move here name = .ok next := by
  rw [walk_eq] at h
  cases takeSteps_cases h with
  | fails e moved ends => simp at ends
  | goes next moved => exact ⟨_, moved⟩
  | follows target moved => exact ⟨_, moved⟩
  | absent moved last enterable gone ends => simp at ends
  | unfollowed target moved => exact ⟨_, moved⟩

theorem walk_finds_of_follow {links : Nat} {steps : List String} {node : Node}
    (hk : Keeps fs fs') (hplace : fs'.node? place = some node)
    (hlink : ∀ here target rest, fs.follow true links here target rest = .ok ⟨place, some node⟩ →
      fs'.follow true links here target rest = .ok ⟨place, some node⟩)
    (h : fs.walk true links here steps = .ok ⟨place, some node⟩) :
    fs'.walk true links here steps = .ok ⟨place, some node⟩ := by
  induction steps generalizing here with
  | nil =>
    rw [walk_eq, takeSteps] at h ⊢
    obtain ⟨rfl, -⟩ := Spot.mk.inj (Except.ok.inj h)
    rw [hplace]
  | cons name rest ih =>
    by_cases hrest : rest = []
    · subst hrest
      obtain ⟨next, hmove⟩ := move_of_walk h
      rw [walk_last hmove] at h
      cases next with
      | inl next =>
        obtain ⟨rfl, hnode⟩ := Spot.mk.inj (Except.ok.inj h)
        have hmove' : fs'.move here name = .ok (.inl next) :=
          move_keeps hk hmove (by rintro p ⟨⟩; rw [hplace, hnode])
        rw [walk_last hmove']
        simp only [hplace]
      | inr target =>
        have hmove' : fs'.move here name = .ok (.inr target) := move_keeps hk hmove (by simp)
        rw [walk_last hmove']
        exact hlink _ _ _ h
    · rw [walk_cons hrest] at h ⊢
      cases hmove : fs.move here name with
      | error e => simp [hmove] at h
      | ok next =>
        rw [hmove] at h
        cases next with
        | inl next =>
          have hmove' : fs'.move here name = .ok (.inl next) :=
            move_keeps_directory hk hmove (by rintro p ⟨⟩; exact directory_of_walk h hrest)
          rw [hmove']
          exact ih h
        | inr target =>
          have hmove' : fs'.move here name = .ok (.inr target) := move_keeps hk hmove (by simp)
          rw [hmove']
          exact hlink _ _ _ h

theorem walk_finds {links : Nat} {steps : List String} {node : Node} (hk : Keeps fs fs')
    (hplace : fs'.node? place = some node)
    (h : fs.walk true links here steps = .ok ⟨place, some node⟩) :
    fs'.walk true links here steps = .ok ⟨place, some node⟩ := by
  induction links generalizing here steps with
  | zero =>
    refine walk_finds_of_follow hk hplace (fun _ _ _ hlink => ?_) h
    exact absurd hlink (by simp [follow])
  | succ links ih => exact walk_finds_of_follow hk hplace (fun _ _ _ hlink => ih hlink) h

theorem findNode_keeps {path : Path} {node : Node} (hk : Keeps fs fs')
    (h : fs.findNode here path = .ok (place, node)) (hplace : fs'.node? place = some node) :
    fs'.findNode here path = .ok (place, node) := by
  have hfind := findNode_eq_ok.mp h
  refine findNode_eq_ok.mpr ?_
  unfold find at hfind ⊢
  cases hr : refuse? path with
  | some e => simp [hr] at hfind
  | none =>
    simp only [hr] at hfind ⊢
    exact walk_finds hk hplace hfind

theorem Reaches.keeps (h : fs.Reaches here dir place) (hk : Keeps fs fs') :
    fs'.Reaches here dir place :=
  walk_keeps hk h

/-! ## Ways without links -/

/-- No link lies on the way from the root to the place, nor is one there. -/
def Direct (fs : FileSystem) (place : Location) : Prop :=
  ∀ q, q <+: place → ∀ target, fs.node? q ≠ some (.link target)

theorem prefix_cons_cases {name : String} {rest : List String} {q : Location} (h : here <+: q)
    (h' : q <+: here ++ name :: rest) : q = here ∨ here ++ [name] <+: q := by
  obtain ⟨more, rfl⟩ := h
  cases more with
  | nil => exact Or.inl (by simp)
  | cons next more =>
    have hnext := (List.prefix_append_right_inj here).mp h'
    obtain ⟨rfl, -⟩ := List.cons_prefix_cons.mp hnext
    exact Or.inr ⟨more, by simp⟩

/-- Steps that never go up. -/
def Descends (steps : List String) : Prop := ∀ step ∈ steps, step = "." ∨ IsName step

/-- The names among the steps; `.` is none. -/
def namesIn (steps : List String) : List String := steps.filter (· ≠ ".")

theorem namesIn_append (steps more : List String) :
    namesIn (steps ++ more) = namesIn steps ++ namesIn more :=
  List.filter_append _ _

theorem namesIn_of_plain {names : List String} (h : Plain names) : namesIn names = names := by
  refine List.filter_eq_self.mpr (fun name hn => ?_)
  simpa using (h name hn).ne_dot

/-- A walk that never goes up takes its names one after the other, if no link is in its way. -/
theorem walk_descends {links : Nat} {steps more : List String} {first : String} {spot : Spot}
    (hp : Descends steps)
    (hlinks : ∀ q, here <+: q → q <+: here ++ namesIn steps → ∀ target,
      fs.node? q ≠ some (.link target)) (hf : first ≠ "")
    (h : fs.walk true links here (steps ++ first :: more) = .ok spot) :
    (∀ q, here <+: q → q <+: here ++ namesIn steps → fs.Enterable q) ∧
      (∀ name ∈ namesIn steps, name.utf8ByteSize ≤ maxNameBytes) ∧
      fs.walk true links (here ++ namesIn steps) (first :: more) = .ok spot := by
  induction steps generalizing here with
  | nil =>
    refine ⟨fun q hq hq' => ?_, by simp [namesIn], by simpa [namesIn] using h⟩
    obtain rfl : q = here := (hq'.trans (by simp [namesIn])).eq_of_length_le hq.length_le
    exact enterable_of_walk h hf
  | cons step rest ih =>
    have hrest : Descends rest := fun n hn => hp n (List.mem_cons_of_mem _ hn)
    -- A dot stays where the walk is; a name leads one place down.
    rcases hp step List.mem_cons_self with rfl | hname
    · have hent : fs.Enterable here := enterable_of_walk h (by simp)
      have hskip : namesIn ("." :: rest) = namesIn rest := by simp [namesIn]
      rw [List.cons_append, walk_cons (by simp), move_dot hent] at h
      rw [hskip] at hlinks ⊢
      exact ih hrest hlinks h
    · have hent : fs.Enterable here := enterable_of_walk h hname.ne_empty
      have hcons : namesIn (step :: rest) = step :: namesIn rest := by
        simp [namesIn, hname.ne_dot]
      have happend : here ++ [step] ++ namesIn rest = here ++ step :: namesIn rest := by simp
      rw [List.cons_append, walk_cons (by simp)] at h
      rw [hcons] at hlinks ⊢
      cases hmove : fs.move here step with
      | error e => simp [hmove] at h
      | ok next =>
        obtain ⟨-, hsize⟩ := size_of_move hname hmove
        have hnolink := hlinks (here ++ [step]) (by simp) ⟨namesIn rest, by simp⟩
        rw [hmove, move_plain hname hnolink hmove] at h
        obtain ⟨henter, hsizes, hwalk⟩ := ih hrest
          (fun q hq hq' => hlinks q ((List.prefix_append _ _).trans hq) (happend ▸ hq')) h
        refine ⟨fun q hq hq' => ?_, ?_, happend ▸ hwalk⟩
        · rcases prefix_cons_cases hq hq' with rfl | hq
          · exact hent
          · exact henter q hq (happend ▸ hq')
        · intro n hn
          rcases List.mem_cons.mp hn with rfl | hn
          · exact hsize
          · exact hsizes n hn

theorem walk_down {links : Nat} {names more : List String} {first : String} {spot : Spot}
    (hp : Plain names)
    (hlinks : ∀ q, here <+: q → q <+: here ++ names → ∀ target, fs.node? q ≠ some (.link target))
    (hf : first ≠ "")
    (h : fs.walk true links here (names ++ first :: more) = .ok spot) :
    (∀ q, here <+: q → q <+: here ++ names → fs.Enterable q) ∧
      (∀ name ∈ names, name.utf8ByteSize ≤ maxNameBytes) ∧
      fs.walk true links (here ++ names) (first :: more) = .ok spot := by
  have hwalk := walk_descends (fun n hn => Or.inr (hp n hn)) (by rwa [namesIn_of_plain hp]) hf h
  rwa [namesIn_of_plain hp] at hwalk

theorem walk_of_enterable {links : Nat} {names tail : List String} (hp : Plain names)
    (hsizes : ∀ name ∈ names, name.utf8ByteSize ≤ maxNameBytes)
    (henter : ∀ q, here <+: q → q <+: here ++ names → fs.Enterable q) (ht : tail ≠ []) :
    fs.walk true links here (names ++ tail) = fs.walk true links (here ++ names) tail := by
  induction names generalizing here with
  | nil => simp
  | cons name rest ih =>
    have hname := hp name List.mem_cons_self
    have happend : here ++ [name] ++ rest = here ++ name :: rest := by simp
    obtain ⟨mode, hnode, hexec⟩ := henter here (List.prefix_refl _) (List.prefix_append _ _)
    obtain ⟨mode', hnext, -⟩ := henter (here ++ [name]) (by simp) ⟨rest, by simp⟩
    have hmove : fs.move here name = .ok (.inl (here ++ [name])) := by
      simp [move, hnode, hexec, hnext, hname.ne_empty, hname.ne_dot, hname.ne_dots,
        Nat.not_lt.mpr (hsizes name List.mem_cons_self)]
    rw [List.cons_append, walk_cons (by simp [ht]), hmove]
    rw [← happend]
    exact ih (fun n hn => hp n (List.mem_cons_of_mem _ hn))
      (fun n hn => hsizes n (List.mem_cons_of_mem _ hn))
      (fun q hq hq' => henter q ((List.prefix_append _ _).trans hq) (happend ▸ hq'))

/-- The place that a path names when no link is on its way. -/
def wayOf (here : Location) (dir : Path) : Location := startOf here dir ++ namesIn (stepsOf dir)

theorem Reaches.eq_wayOf (h : fs.Reaches here dir place) (hp : Descends (stepsOf dir))
    (hd : fs.Direct (wayOf here dir)) : place = wayOf here dir := by
  obtain ⟨-, -, hwalk⟩ := walk_descends hp (fun q _ hq => hd q hq) (by simp) h
  obtain ⟨-, hspot⟩ := walk_dot.mp hwalk
  exact (Spot.mk.inj hspot).1

theorem wayOf_of_plain (here : Location) (habs : dir.isAbsolute = true)
    (hp : Plain (stepsOf dir)) : wayOf here dir = stepsOf dir := by
  rw [wayOf, namesIn_of_plain hp, startOf, if_pos habs, List.nil_append]

theorem Reaches.eq_stepsOf (h : fs.Reaches here dir place) (habs : dir.isAbsolute = true)
    (hp : Plain (stepsOf dir)) (hd : fs.Direct (stepsOf dir)) : place = stepsOf dir := by
  rw [← wayOf_of_plain here habs hp] at hd ⊢
  exact h.eq_wayOf (fun n hn => Or.inr (hp n hn)) hd

end FileSystem

end Slipway
