import Mathlib.Data.List.Infix
import Slipway.FileSystem.Access
import Slipway.Proofs.Neighbours

/-!
# What operations on joined paths change

Each change of a file system is seen through `node?`: what it puts at the places that it is about,
and that it leaves the others as they are. An operation on a name in a directory changes what is at
that name and nothing else. An operation that succeeded tells where the directory is.
-/

namespace Slipway.FileSystem

variable {fs fs' : FileSystem} {here place q : Location} {dir : Path} {name : String} {now : Int}
  {node : Node}

/-! ## Places that are no entries -/

/-- The root and the places of removed directories are not looked up among the entries. -/
def Fixed (place : Location) : Prop := place = [] ∨ isGone place = true

instance : Decidable (Fixed place) := inferInstanceAs (Decidable (_ ∨ _))

theorem node?_of_fixed (h : Fixed place) : fs.node? place = some (.directory newDirectoryMode) :=
  if_pos h

theorem node?_of_not_fixed (h : ¬ Fixed place) : fs.node? place = fs.entries.lookup place :=
  if_neg h

theorem not_fixed_of_ne_directory (h : fs.node? place = some node)
    (hn : ∀ mode, node ≠ .directory mode) : ¬ Fixed place := by
  intro hf
  rw [node?_of_fixed hf, Option.some.injEq] at h
  exact hn _ h.symm

theorem not_fixed_of_none (h : fs.node? place = none) : ¬ Fixed place := by
  intro hf
  rw [node?_of_fixed hf] at h
  exact Option.some_ne_none _ h

theorem not_fixed_append {name : String} (h : name ≠ "") : ¬ Fixed (place ++ [name]) := by
  rintro (h' | h')
  · exact List.append_ne_nil_of_right_ne_nil _ (List.cons_ne_nil _ _) h'
  · simp [isGone, h] at h'

/-! ## Entries -/

theorem lookup_filter {k : Location → Bool} {entries : List (Location × Node)}
    (h : k q = true) :
    (entries.filter (fun entry => k entry.1)).lookup q = entries.lookup q := by
  induction entries with
  | nil => rfl
  | cons entry rest ih =>
    obtain ⟨p, n⟩ := entry
    rw [List.filter_cons]
    by_cases hq : q = p
    · subst hq
      simp [h]
    · have hne : (q == p) = false := beq_eq_false_iff_ne.mpr hq
      split
      · simp only [List.lookup_cons, hne, ih]
      · simp only [List.lookup_cons, hne, ih]

theorem lookup_filter_none {k : Location → Bool} {entries : List (Location × Node)}
    (h : k q = false) : (entries.filter (fun entry => k entry.1)).lookup q = none := by
  rw [List.lookup_eq_none_iff]
  intro entry hentry
  rw [List.mem_filter] at hentry
  rw [bne_iff_ne]
  rintro rfl
  simp [h] at hentry

theorem node?_put_self (h : ¬ Fixed place) : (fs.put place node).node? place = some node := by
  rw [node?_of_not_fixed h]
  simp [put]

theorem node?_put_of_ne (h : q ≠ place) : (fs.put place node).node? q = fs.node? q := by
  unfold node?
  split
  · rfl
  · simp only [put, List.lookup_cons, beq_eq_false_iff_ne.mpr h]
    exact lookup_filter (k := fun p => decide (p ≠ place)) (by simpa using h)

theorem node?_erase_self (h : ¬ Fixed place) : (fs.erase place).node? place = none := by
  rw [node?_of_not_fixed h]
  exact lookup_filter_none (k := fun p => decide (p ≠ place)) (by simp)

theorem node?_erase_of_ne (h : q ≠ place) : (fs.erase place).node? q = fs.node? q := by
  unfold node?
  split
  · rfl
  · exact lookup_filter (k := fun p => decide (p ≠ place)) (by simpa using h)

/-! ## New and open files -/

theorem node?_createFile_self {mode : Nat} {now : Int} (h : ¬ Fixed place) :
    (fs.createFile place mode now).1.node? place
      = some (.file { serial := fs.nextSerial, content := [], mode, modified := now }) := by
  rw [node?_of_not_fixed h]
  simp [createFile, put]

theorem node?_createFile_of_ne {mode : Nat} {now : Int} (h : q ≠ place) :
    (fs.createFile place mode now).1.node? q = fs.node? q :=
  node?_put_of_ne h

theorem node?_updateOpen_of_ne {file : Handle} {f : FileData → FileData} (h : q ≠ file.place) :
    (fs.updateOpen file f).node? q = fs.node? q := by
  unfold updateOpen
  split
  · split
    · exact node?_put_of_ne h
    · rfl
  · rfl

theorem node?_updateOpen_self {file : Handle} {f : FileData → FileData} {data : FileData}
    (h : fs.node? file.place = some (.file data)) (hs : data.serial = file.serial) :
    (fs.updateOpen file f).node? file.place = some (.file (f data)) := by
  have hplace : ¬ Fixed file.place := not_fixed_of_ne_directory h (by simp)
  unfold updateOpen
  rw [h]
  simp only [hs, if_pos]
  exact node?_put_self hplace

/-! ## Moved trees -/

theorem rebase_of_apart {origin destination : Location} (h : ¬ origin <+: place) :
    rebase origin destination place = place := by
  unfold rebase
  split
  · rename_i rest heq
    rw [List.isPrefixOf?_eq_some_iff_append_eq] at heq
    exact absurd ⟨rest, heq⟩ h
  · rfl

theorem prefix_rebase {origin destination : Location} (h : origin <+: place) :
    destination <+: rebase origin destination place := by
  unfold rebase
  split
  · exact List.prefix_append _ _
  · rename_i heq
    obtain ⟨rest, hrest⟩ := h
    have hsome := List.isPrefixOf?_eq_some_iff_append_eq.mpr hrest
    rw [heq] at hsome
    exact absurd hsome.symm (Option.some_ne_none _)

theorem node?_moveTree_of_apart {origin destination : Location} (ho : ¬ origin <+: q)
    (hd : ¬ destination <+: q) : (fs.moveTree origin destination).node? q = fs.node? q := by
  unfold node?
  split
  · rfl
  · simp only [moveTree]
    induction fs.entries with
    | nil => rfl
    | cons entry rest ih =>
      obtain ⟨p, n⟩ := entry
      rw [List.filter_cons]
      split
      · rw [List.map_cons]
        by_cases hm : origin <+: p
        · have hne : q ≠ p := fun h => ho (h ▸ hm)
          have hne' : q ≠ rebase origin destination p := fun h => hd (h ▸ prefix_rebase hm)
          simp only [List.lookup_cons, beq_eq_false_iff_ne.mpr hne,
            beq_eq_false_iff_ne.mpr hne', ih]
        · simp only [rebase_of_apart hm, List.lookup_cons, ih]
      · rename_i hk
        have hp : destination <+: p := by simpa using hk
        have hne : q ≠ p := fun h => hd (h ▸ hp)
        simp only [List.lookup_cons, beq_eq_false_iff_ne.mpr hne, ih]

theorem rebase_append (origin destination rest : Location) :
    rebase origin destination (origin ++ rest) = destination ++ rest := by
  unfold rebase
  rw [List.isPrefixOf?_eq_some_iff_append_eq.mpr rfl]

theorem rebase_eq_append {origin destination rest : Location} (h : ¬ destination <+: place)
    (heq : rebase origin destination place = destination ++ rest) : place = origin ++ rest := by
  by_cases hm : origin <+: place
  · obtain ⟨more, rfl⟩ := hm
    rw [rebase_append] at heq
    rw [List.append_cancel_left heq]
  · rw [rebase_of_apart hm] at heq
    exact absurd (heq ▸ List.prefix_append _ _) h

theorem node?_moveTree_destination {origin destination rest : Location}
    (ho : ¬ Fixed (origin ++ rest)) (hd : ¬ Fixed (destination ++ rest))
    (h : ¬ destination <+: origin ++ rest) :
    (fs.moveTree origin destination).node? (destination ++ rest) = fs.node? (origin ++ rest) := by
  rw [node?_of_not_fixed ho, node?_of_not_fixed hd]
  simp only [moveTree]
  induction fs.entries with
  | nil => rfl
  | cons entry more ih =>
    obtain ⟨p, n⟩ := entry
    rw [List.filter_cons]
    by_cases hp : p = origin ++ rest
    · subst hp
      have hk : List.isPrefixOf destination (origin ++ rest) = false := by
        rwa [← Bool.not_eq_true, List.isPrefixOf_iff_prefix]
      simp [hk, rebase_append]
    · split
      · rename_i hk
        rw [Bool.not_eq_true', ← Bool.not_eq_true, List.isPrefixOf_iff_prefix] at hk
        have hne : destination ++ rest ≠ rebase origin destination p := fun heq =>
          hp (rebase_eq_append hk heq.symm)
        simp only [List.map_cons, List.lookup_cons, beq_eq_false_iff_ne.mpr hne,
          beq_eq_false_iff_ne.mpr (Ne.symm hp), ih]
      · simp only [List.lookup_cons, beq_eq_false_iff_ne.mpr (Ne.symm hp), ih]

theorem node?_moveTree_new {origin destination : Location} (ho : ¬ Fixed origin)
    (hd : ¬ Fixed destination) (h : ¬ destination <+: origin) :
    (fs.moveTree origin destination).node? destination = fs.node? origin := by
  have hmoved := @node?_moveTree_destination fs origin destination []
  simp only [List.append_nil] at hmoved
  exact hmoved ho hd h

theorem node?_moveTree_origin {origin destination : Location} (hq : ¬ Fixed q)
    (ho : origin <+: q) (h : ¬ destination <+: q) :
    (fs.moveTree origin destination).node? q = none := by
  rw [node?_of_not_fixed hq, List.lookup_eq_none_iff]
  intro entry hentry
  simp only [moveTree, List.mem_map] at hentry
  obtain ⟨kept, -, rfl⟩ := hentry
  rw [bne_iff_ne]
  rintro rfl
  by_cases hm : origin <+: kept.1
  · exact h (prefix_rebase hm)
  · rw [rebase_of_apart hm] at ho
    exact hm ho

/-! ## Trees -/

/-- What is at a place is below directories only, and below none that was removed. -/
def Rooted (fs : FileSystem) : Prop :=
  ∀ p q node, p <+: q → p ≠ q → ¬ Fixed q → fs.node? q = some node →
    isGone p = false ∧ ∃ mode, fs.node? p = some (.directory mode)

theorem Rooted.none_below {rest : Location} (h : fs.Rooted)
    (hplace : ∀ mode, fs.node? place ≠ some (.directory mode)) (hrest : rest ≠ [])
    (hq : ¬ Fixed (place ++ rest)) : fs.node? (place ++ rest) = none := by
  cases hnode : fs.node? (place ++ rest) with
  | none => rfl
  | some node =>
    obtain ⟨-, mode, hdir⟩ :=
      h _ _ _ (List.prefix_append place rest) (by simpa using hrest) hq hnode
    exact absurd hdir (hplace mode)

theorem mem_of_lookup {entries : List (Location × Node)} (h : entries.lookup q = some node) :
    (q, node) ∈ entries := by
  obtain ⟨before, after, rfl, -⟩ := List.lookup_eq_some_iff.mp h
  simp

theorem rooted_of_entries
    (h : ∀ entry ∈ fs.entries, ∀ p ∈ entry.1.inits, p ≠ entry.1 →
      isGone p = false ∧ (fs.node? p).any Node.isDirectory = true) : fs.Rooted := by
  intro p q node hpq hne hq hnode
  rw [node?_of_not_fixed hq] at hnode
  obtain ⟨hgone, hdir⟩ := h _ (mem_of_lookup hnode) p ((List.mem_inits p q).mpr hpq) hne
  refine ⟨hgone, ?_⟩
  cases hthere : fs.node? p with
  | none => simp [hthere] at hdir
  | some there =>
    cases there with
    | directory mode => exact ⟨mode, rfl⟩
    | _ => simp [hthere, Node.isDirectory] at hdir

/-! ## Frames -/

/-- The two file systems differ at the place at most. -/
def SameOff (place : Location) (fs fs' : FileSystem) : Prop :=
  ∀ q, q ≠ place → fs'.node? q = fs.node? q

theorem SameOff.refl (place : Location) (fs : FileSystem) : SameOff place fs fs := fun _ _ => rfl

theorem SameOff.trans {fs'' : FileSystem} (h : SameOff place fs fs')
    (h' : SameOff place fs' fs'') : SameOff place fs fs'' :=
  fun q hq => (h' q hq).trans (h q hq)

theorem SameOff.symm (h : SameOff place fs fs') : SameOff place fs' fs :=
  fun q hq => (h q hq).symm

theorem SameOff.keeps (h : SameOff place fs fs')
    (hn : ∀ node, fs.node? place = some node → ¬ node.leads) : Keeps fs fs' := by
  intro p node hlead hnode
  have hp : p ≠ place := by rintro rfl; exact hn node hnode hlead
  rw [h p hp]
  exact hnode

/-- The open file is there, and this is what is in it. -/
def Holds (fs : FileSystem) (file : Handle) (content : Bytes) : Prop :=
  ∃ data, fs.node? file.place = some (.file data) ∧ data.serial = file.serial ∧
    data.content = content

theorem openNode?_eq {file : Handle} {data : FileData} :
    fs.openNode? file = some (.file data) ↔
      fs.node? file.place = some (.file data) ∧ data.serial = file.serial := by
  unfold FileSystem.openNode?
  cases hnode : fs.node? file.place with
  | none => simp
  | some node =>
    rw [Option.filter_some]
    constructor
    · intro h
      split at h
      · rename_i hs
        obtain rfl := Option.some.inj h
        exact ⟨rfl, of_decide_eq_true hs⟩
      · simp at h
    · rintro ⟨hd, hs⟩
      obtain rfl := Option.some.inj hd
      exact if_pos (decide_eq_true hs)

theorem holds_of_openNode? {file : Handle} {data : FileData}
    (h : fs.openNode? file = some (.file data)) : fs.Holds file data.content :=
  ⟨data, (openNode?_eq.mp h).1, (openNode?_eq.mp h).2, rfl⟩

theorem Holds.openNode? {file : Handle} {content : Bytes} (h : fs.Holds file content) :
    ∃ data, fs.openNode? file = some (.file data) ∧ data.content = content := by
  obtain ⟨data, hnode, hs, hc⟩ := h
  exact ⟨data, openNode?_eq.mpr ⟨hnode, hs⟩, hc⟩

theorem Holds.of_same {file : Handle} {content : Bytes} (h : fs.Holds file content)
    (hsame : fs'.node? file.place = fs.node? file.place) : fs'.Holds file content := by
  obtain ⟨data, hnode, hdata⟩ := h
  exact ⟨data, hsame.trans hnode, hdata⟩

theorem Holds.not_fixed {file : Handle} {content : Bytes} (h : fs.Holds file content) :
    ¬ Fixed file.place := by
  obtain ⟨data, hnode, -⟩ := h
  exact not_fixed_of_ne_directory hnode (by simp)

theorem Holds.not_leads {file : Handle} {content : Bytes} (h : fs.Holds file content) :
    ∀ node, fs.node? file.place = some node → ¬ node.leads := by
  obtain ⟨data, hnode, -⟩ := h
  intro node hn
  rw [hnode, Option.some.injEq] at hn
  subst hn
  exact id

/-- What changed is at the place, and is no directory and no link. -/
structure Touches (place : Location) (fs fs' : FileSystem) : Prop where
  sameOff : SameOff place fs fs'
  keeps : Keeps fs fs'

theorem Touches.refl (place : Location) (fs : FileSystem) : Touches place fs fs :=
  ⟨SameOff.refl _ _, Keeps.refl _⟩

theorem Touches.trans {fs'' : FileSystem} (h : Touches place fs fs')
    (h' : Touches place fs' fs'') : Touches place fs fs'' :=
  ⟨h.sameOff.trans h'.sameOff, h.keeps.trans h'.keeps⟩

theorem SameOff.touches {file : Handle} {content : Bytes} (h : SameOff place fs fs')
    (hh : fs.Holds file content) (hp : file.place = place) : Touches place fs fs' :=
  ⟨h, h.keeps (hp ▸ hh.not_leads)⟩

/-! ## Opening for writing -/

/-- A file was opened for writing at the place: it is empty now, and nothing else changed. -/
structure Opens (fs : FileSystem) (place : Location) (fs' : FileSystem) (file : Handle) : Prop where
  place_eq : file.place = place
  holds : fs'.Holds file []
  sameOff : SameOff place fs fs'

theorem opens_createFile {mode : Nat} (h : ¬ Fixed place) :
    Opens fs place (fs.createFile place mode now).1 (fs.createFile place mode now).2 where
  place_eq := rfl
  holds := ⟨_, node?_createFile_self h, rfl, rfl⟩
  sameOff := fun _ hq => node?_createFile_of_ne hq

theorem createAt_ok {mode : Nat} {file : Handle} (h : fs.createAt place mode now = .ok (fs', file)) :
    (fs', file) = fs.createFile place mode now ∧
      ∃ m, fs.node? place.dropLast = some (.directory m) ∧ ownerWrites m = true := by
  unfold createAt at h
  split at h
  · rename_i m hdir
    split_ifs at h with hgone hwrites
    exact ⟨(Except.ok.inj h).symm, m, hdir, hwrites⟩
  · simp at h

theorem lookup_ok {last : LastName} {found : Option Node}
    (h : last.lookup fs name = .ok found) :
    name.utf8ByteSize ≤ maxNameBytes ∧ isGone last.parent = false ∧
      found = fs.node? (last.parent ++ [name]) := by
  unfold LastName.lookup at h
  split_ifs at h with hsize hgone
  exact ⟨Nat.le_of_not_lt hsize, by simpa using hgone, (Except.ok.inj h).symm⟩

/-- Names can be added to the directory and taken from it. -/
def Changeable (fs : FileSystem) (place : Location) : Prop :=
  isGone place = false ∧ ∃ mode, fs.node? place = some (.directory mode) ∧ ownerWrites mode = true

theorem Changeable.keeps (h : fs.Changeable place) (hk : Keeps fs fs') : fs'.Changeable place := by
  obtain ⟨hgone, mode, hdir, hwrites⟩ := h
  exact ⟨hgone, mode, hk _ _ trivial hdir, hwrites⟩

theorem Reaches.makeDirectory {mode : Nat} (h : fs.Reaches here dir place) (hn : IsName name)
    (hr : refuse? (dir.join name) = none) (hsize : name.utf8ByteSize ≤ maxNameBytes)
    (hgone : isGone place = false) (hmode : fs.node? place = some (.directory mode)) :
    fs.makeDirectory here (dir.join name) =
      if (fs.node? (place ++ [name])).isSome then .error .alreadyThere
      else if ownerWrites mode then
        .ok (fs.put (place ++ [name]) (.directory newDirectoryMode))
      else .error .noAccess := by
  obtain ⟨mode', hmode', hlast⟩ := h.findLast hn hr
  obtain ⟨mode'', hmode'', hexec⟩ := h.enterable
  rw [hmode, Option.some.injEq, Node.directory.injEq] at hmode' hmode''
  subst hmode' hmode''
  simp only [FileSystem.makeDirectory, hlast, LastName.lookup, if_neg (Nat.not_lt.mpr hsize),
    hgone, Bool.false_eq_true, if_false, LastName.mayChange, hexec, Bool.and_true]
  cases fs.node? (place ++ [name]) with
  | some node => rfl
  | none => cases ownerWrites mode <;> rfl

theorem Reaches.satisfies {t : Node → Bool} (h : fs.Reaches here dir place) (hn : IsName name)
    (hr : refuse? (dir.join name) = none) (hsize : name.utf8ByteSize ≤ maxNameBytes)
    (hlink : ∀ target, fs.node? (place ++ [name]) ≠ some (.link target)) :
    fs.satisfies here (dir.join name) t = (fs.node? (place ++ [name])).any t := by
  simp only [FileSystem.satisfies, findNode, h.find hn hr hsize hlink]
  cases fs.node? (place ++ [name]) <;> rfl

theorem openFresh_join {file : Handle} (hn : IsName name)
    (h : fs.openFresh here (dir.join name) now = .ok (fs', file)) :
    refuse? (dir.join name) = none ∧ name.utf8ByteSize ≤ maxNameBytes ∧
      ∃ place, fs.Reaches here dir place ∧ fs.Changeable place ∧
        fs.node? (place ++ [name]) = none ∧ Opens fs (place ++ [name]) fs' file := by
  unfold openFresh at h
  cases hlast : fs.findLast here (dir.join name) with
  | error e => simp [hlast] at h
  | ok last =>
    obtain ⟨hr, place, mode, hreach, hdir, rfl⟩ := findLast_join hn hlast
    simp only [hlast, Bool.false_eq_true, if_false] at h
    split at h
    · simp at h
    · simp at h
    · rename_i hlook
      obtain ⟨hsize, hgone, hnode⟩ := lookup_ok hlook
      obtain ⟨hfile, m, hm, hw⟩ := createAt_ok h
      rw [List.dropLast_concat, hdir] at hm
      obtain rfl : mode = m := by simpa using hm
      refine ⟨hr, hsize, place, hreach, ⟨hgone, mode, hdir, hw⟩, hnode.symm, ?_⟩
      obtain ⟨rfl, rfl⟩ := Prod.mk.inj hfile
      exact opens_createFile (not_fixed_of_none hnode.symm)

/-- What is at a place can be opened as a file or not at all. -/
def Ordinary (fs : FileSystem) (place : Location) : Prop :=
  (∀ target, fs.node? place ≠ some (.link target)) ∧ ∀ d, fs.node? place ≠ some (.device d)

theorem ordinary_of_none (h : fs.node? place = none) : fs.Ordinary place :=
  ⟨fun _ => by simp [h], fun _ => by simp [h]⟩

theorem ordinary_of_directory {mode : Nat} (h : fs.node? place = some (.directory mode)) :
    fs.Ordinary place :=
  ⟨fun _ => by simp [h], fun _ => by simp [h]⟩

theorem Ordinary.of_same (h : fs.Ordinary place) (hsame : fs'.node? place = fs.node? place) :
    fs'.Ordinary place := by
  unfold Ordinary
  rwa [hsame]

theorem ordinary_of_entries (h : ∀ entry ∈ fs.entries, entry.2.isDirectory ∨ entry.2.isRegular)
    (place : Location) : fs.Ordinary place := by
  by_cases hplace : Fixed place
  · exact ⟨fun target => by simp [node?_of_fixed hplace],
      fun d => by simp [node?_of_fixed hplace]⟩
  · unfold Ordinary
    rw [node?_of_not_fixed hplace]
    refine ⟨fun target hlook => ?_, fun d hlook => ?_⟩ <;>
    · have hnode := h _ (mem_of_lookup hlook)
      simp [Node.isDirectory, Node.isRegular] at hnode

theorem opens_openExisting {node : Node} {file : Handle} (ho : fs.Ordinary place)
    (hnode : fs.node? place = some node)
    (h : fs.openExisting place node now true = .ok (fs', file)) :
    (∃ data, node = .file data) ∧ Opens fs place fs' file := by
  unfold openExisting at h
  cases node with
  | file data =>
    simp only [Bool.not_eq_eq_eq_not, Bool.not_true, if_true] at h
    split_ifs at h
    obtain ⟨rfl, rfl⟩ := Prod.mk.inj (Except.ok.inj h)
    refine ⟨⟨data, rfl⟩, rfl, ?_, fun _ hq => node?_put_of_ne hq⟩
    exact ⟨_, node?_put_self (not_fixed_of_ne_directory hnode (by simp)), rfl, rfl⟩
  | device d => exact absurd hnode (ho.2 d)
  | _ => simp at h

theorem openAny_join {file : Handle} (hn : IsName name)
    (ho : ∀ place, fs.Reaches here dir place → fs.Ordinary (place ++ [name]))
    (h : fs.openAny here (dir.join name) now true = .ok (fs', file)) :
    refuse? (dir.join name) = none ∧ name.utf8ByteSize ≤ maxNameBytes ∧
      ∃ place, fs.Reaches here dir place ∧
        (fs.node? (place ++ [name]) = none ∨ ∃ data, fs.node? (place ++ [name]) = some (.file data)) ∧
        Opens fs (place ++ [name]) fs' file := by
  unfold openAny at h
  rw [hn.endsInSeparator_join] at h
  simp only [Bool.false_eq_true, if_false] at h
  cases hfind : fs.find here (dir.join name) with
  | error e => simp [hfind] at h
  | ok spot =>
    obtain ⟨hr, hsize, place, hreach, hspot⟩ := find_join hn hfind
    obtain rfl := hspot (ho place hreach).1
    refine ⟨hr, hsize, place, hreach, ?_⟩
    rw [hfind] at h
    cases hnode : fs.node? (place ++ [name]) with
    | none =>
      simp only [hnode] at h
      obtain ⟨hfile, -⟩ := createAt_ok h
      obtain ⟨rfl, rfl⟩ := Prod.mk.inj hfile
      exact ⟨Or.inl rfl, opens_createFile (not_fixed_append hn.ne_empty)⟩
    | some node =>
      simp only [hnode] at h
      obtain ⟨⟨data, rfl⟩, hopens⟩ := opens_openExisting (ho place hreach) hnode h
      exact ⟨Or.inr ⟨data, rfl⟩, hopens⟩

/-! ## Writing -/

theorem write_sameOff {file : Handle} {offset : Nat} {bytes : Bytes}
    (h : fs.write file offset bytes now = .ok fs') : SameOff file.place fs fs' := by
  unfold write at h
  split at h
  · split_ifs at h
    obtain rfl := Except.ok.inj h
    exact SameOff.refl _ _
  · obtain rfl := Except.ok.inj h
    exact fun q hq => node?_updateOpen_of_ne hq
  · obtain rfl := Except.ok.inj h
    exact SameOff.refl _ _

theorem overwriteAt_end (content bytes : Bytes) :
    overwriteAt content content.length bytes = content ++ bytes := by
  simp [overwriteAt]

theorem Holds.write {file : Handle} {content bytes : Bytes} {offset : Nat}
    (hh : fs.Holds file content) (h : fs.write file offset bytes now = .ok fs') :
    fs'.Holds file (overwriteAt content offset bytes) := by
  obtain ⟨data, hopen, rfl⟩ := hh.openNode?
  unfold FileSystem.write at h
  rw [hopen] at h
  obtain rfl := Except.ok.inj h
  obtain ⟨hnode, hs⟩ := openNode?_eq.mp hopen
  exact ⟨_, node?_updateOpen_self hnode hs, hs, rfl⟩

theorem write_at_end {file : Handle} {content bytes : Bytes} (hh : fs.Holds file content)
    (h : fs.write file content.length bytes now = .ok fs') :
    fs'.Holds file (content ++ bytes) :=
  overwriteAt_end content bytes ▸ hh.write h

/-! ## Removing -/

theorem remove_join (hn : IsName name) (h : fs.remove here (dir.join name) = .ok fs') :
    ∃ place, fs.Reaches here dir place ∧ fs'.node? (place ++ [name]) = none ∧
      SameOff (place ++ [name]) fs fs' := by
  unfold remove at h
  cases hlast : fs.findLast here (dir.join name) with
  | error e => simp [hlast] at h
  | ok last =>
    obtain ⟨hr, place, mode, hreach, hdir, rfl⟩ := findLast_join hn hlast
    simp only [hlast, Bool.false_eq_true, if_false] at h
    split at h
    · simp at h
    · simp at h
    · split_ifs at h
      obtain rfl := Except.ok.inj h
      exact ⟨place, hreach, node?_erase_self (not_fixed_append hn.ne_empty),
        fun _ hq => node?_erase_of_ne hq⟩

theorem remove_of_reaches {node : Node} (hn : IsName name)
    (hreach : fs.Reaches here dir place) (hr : refuse? (dir.join name) = none)
    (hsize : name.utf8ByteSize ≤ maxNameBytes) (hchange : fs.Changeable place)
    (hnode : fs.node? (place ++ [name]) = some node) (hfile : node.isDirectory = false) :
    fs.remove here (dir.join name) = .ok (fs.erase (place ++ [name])) := by
  obtain ⟨hgone, mode, hdir, hwrites⟩ := hchange
  obtain ⟨mode', hdir', hlast⟩ := hreach.findLast hn hr
  obtain ⟨mode'', hdir'', hexec⟩ := hreach.enterable
  rw [hdir, Option.some.injEq, Node.directory.injEq] at hdir' hdir''
  subst hdir' hdir''
  unfold remove
  rw [hlast]
  simp [LastName.lookup, Nat.not_lt.mpr hsize, hgone, hnode, LastName.mayChange, hwrites, hexec,
    hfile]

/-! ## Directories -/

/-- A directory is created at the last name of its path, where nothing was. -/
theorem makeDirectory_last {path : Path} (h : fs.makeDirectory here path = .ok fs') :
    ∃ last name, fs.findLast here path = .ok last ∧ last.name = some name ∧
      isGone last.parent = false ∧ name.utf8ByteSize ≤ maxNameBytes ∧
      fs.node? (last.parent ++ [name]) = none ∧
      fs'.node? (last.parent ++ [name]) = some (.directory newDirectoryMode) ∧
      SameOff (last.parent ++ [name]) fs fs' := by
  unfold makeDirectory at h
  cases hlast : fs.findLast here path with
  | error e => simp [hlast] at h
  | ok last =>
    simp only [hlast] at h
    cases hname : last.name with
    | none => simp [hname] at h
    | some name =>
      simp only [hname] at h
      split at h
      · simp at h
      · simp at h
      · rename_i hlook
        obtain ⟨hsize, hgone, hnone⟩ := lookup_ok hlook
        split_ifs at h
        obtain rfl := Except.ok.inj h
        exact ⟨last, name, rfl, hname, hgone, hsize, hnone.symm,
          node?_put_self (not_fixed_of_none hnone.symm), fun _ hq => node?_put_of_ne hq⟩

theorem makeDirectory_ok {path : Path} (h : fs.makeDirectory here path = .ok fs') :
    ∃ place, fs.node? place = none ∧
      fs'.node? place = some (.directory newDirectoryMode) ∧ SameOff place fs fs' := by
  obtain ⟨last, name, -, -, -, -, hnone, hdir, hsame⟩ := makeDirectory_last h
  exact ⟨_, hnone, hdir, hsame⟩

/-! ## Renaming -/

theorem renameNode_ok {origin destination : LastName} {name newName : String} {node : Node}
    {replaced : Option Node}
    (h : fs.renameNode origin destination name newName node replaced = .ok fs') :
    fs' = fs ∧ origin.parent ++ [name] = destination.parent ++ [newName] ∨
      fs' = fs.moveTree (origin.parent ++ [name]) (destination.parent ++ [newName]) ∧
        ∀ mode, replaced = some (.directory mode) → node.isDirectory = true := by
  unfold renameNode at h
  simp only at h
  split_ifs at h with _ _ _ hsame
  · exact Or.inl ⟨(Except.ok.inj h).symm, hsame⟩
  · split at h
    · simp at h
    · rename_i hmay
      refine Or.inr ⟨(Except.ok.inj h).symm, ?_⟩
      rintro mode rfl
      by_contra hfile
      have hdir : (Node.directory mode).isDirectory = true := rfl
      simp [mayReplace, hfile, hdir] at hmay

theorem map_eq_ok {ε α β : Type} {f : α → β} {x : Except ε α} {b : β} (h : x.map f = .ok b) :
    ∃ a, x = .ok a ∧ b = f a := by
  cases x with
  | error e => simp [Except.map] at h
  | ok a => exact ⟨a, rfl, (Except.ok.inj h).symm⟩

/-- A rename within a directory concerns two names in it. -/
theorem renameWith_join {newName : String} {moved : FileSystem × Location × Location}
    (hn : IsName name) (hn' : IsName newName)
    (h : fs.renameWith here (dir.join name) (dir.join newName) = .ok moved) :
    ∃ place, fs.Reaches here dir place ∧ moved.2 = (place ++ [name], place ++ [newName]) ∧
      ∃ node, fs.node? (place ++ [name]) = some node ∧
        (moved.1 = fs ∧ place ++ [name] = place ++ [newName] ∨
          moved.1 = fs.moveTree (place ++ [name]) (place ++ [newName]) ∧
            ∀ mode, fs.node? (place ++ [newName]) = some (.directory mode) →
              node.isDirectory = true) := by
  unfold renameWith at h
  cases hold : fs.findLast here (dir.join name) with
  | error e => simp [hold] at h
  | ok old =>
    cases hnew : fs.findLast here (dir.join newName) with
    | error e => simp [hold, hnew] at h
    | ok new =>
      obtain ⟨-, place, mode, hreach, -, rfl⟩ := findLast_join hn hold
      obtain ⟨-, place', mode', hreach', -, rfl⟩ := findLast_join hn' hnew
      obtain rfl := hreach.unique hreach'
      simp only [hold, hnew] at h
      refine ⟨place, hreach, ?_⟩
      split at h
      · simp at h
      · simp at h
      · rename_i node hlook
        obtain ⟨-, -, hnode⟩ := lookup_ok hlook
        split at h
        · simp at h
        · rename_i replaced hlook'
          obtain ⟨-, -, rfl⟩ := lookup_ok hlook'
          obtain ⟨after, hafter, rfl⟩ := map_eq_ok h
          exact ⟨rfl, node, hnode.symm, renameNode_ok hafter⟩

/-- A file can be given another name in its directory, unless that is the name of a directory. -/
theorem renameWith_of_reaches {newName : String} {node : Node} (hn : IsName name)
    (hn' : IsName newName) (hne : name ≠ newName) (hreach : fs.Reaches here dir place)
    (hr : refuse? (dir.join name) = none) (hr' : refuse? (dir.join newName) = none)
    (hsize : name.utf8ByteSize ≤ maxNameBytes) (hsize' : newName.utf8ByteSize ≤ maxNameBytes)
    (hchange : fs.Changeable place) (hnode : fs.node? (place ++ [name]) = some node)
    (hfile : node.isDirectory = false)
    (hfree : ∀ mode, fs.node? (place ++ [newName]) ≠ some (.directory mode)) :
    ∃ moved, fs.renameWith here (dir.join name) (dir.join newName) = .ok moved := by
  obtain ⟨hgone, mode, hdir, hwrites⟩ := hchange
  obtain ⟨mode', hdir', hexec⟩ := hreach.enterable
  rw [hdir, Option.some.injEq, Node.directory.injEq] at hdir'
  subst hdir'
  obtain ⟨mode', hdir', hlast⟩ := hreach.findLast hn hr
  obtain ⟨mode'', hdir'', hlast'⟩ := hreach.findLast hn' hr'
  rw [hdir, Option.some.injEq, Node.directory.injEq] at hdir' hdir''
  subst hdir' hdir''
  have hdiffer : place ++ [name] ≠ place ++ [newName] := by simpa using hne
  have habove : (place ++ [newName]).isPrefixOf place = false := by
    rw [Bool.eq_false_iff]
    intro hpre
    have hlen := (List.isPrefixOf_iff_prefix.mp hpre).length_le
    rw [List.length_append, List.length_singleton] at hlen
    omega
  have hreplace : (fs.node? (place ++ [newName])).bind
      (fs.mayReplace node (place ++ [newName])) = none := by
    cases hnew : fs.node? (place ++ [newName]) with
    | none => rfl
    | some other =>
      have hother : other.isDirectory = false := by
        cases other with
        | directory mode => exact absurd hnew (hfree mode)
        | _ => rfl
      simp [mayReplace, hfile, hother]
  refine ⟨(fs.moveTree (place ++ [name]) (place ++ [newName]), place ++ [name],
    place ++ [newName]), ?_⟩
  unfold renameWith
  simp [hlast, hlast', LastName.lookup, Nat.not_lt.mpr hsize, Nat.not_lt.mpr hsize', hgone, hnode,
    renameNode, hfile, habove, hne, LastName.mayChange, hwrites, hexec, hreplace, Except.map]

/-! ## Looking -/

theorem exists?_join (hn : IsName name)
    (h : ∀ place, fs.Reaches here dir place → fs.node? (place ++ [name]) = none) :
    fs.exists? here (dir.join name) = false := by
  unfold FileSystem.exists?
  cases hfind : fs.findNode here (dir.join name) with
  | error e => rfl
  | ok found =>
    obtain ⟨at', node⟩ := found
    obtain ⟨-, -, place, hreach, hspot⟩ := find_join hn (findNode_eq_ok.mp hfind)
    have hnone := h place hreach
    have hspot := hspot (by simp [hnone])
    rw [hnone] at hspot
    simp at hspot

end Slipway.FileSystem
