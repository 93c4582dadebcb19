import Slipway.Proofs.Layout

/-!
# Files that look alike

Two file systems in which a path has the same directories before it, and like nodes at its end,
answer alike when they are asked about it, and stay alike there when it is opened, written or
removed.
-/

namespace Slipway

open FileSystem World

/-! ## Like nodes -/

/-- Nothing tells the nodes apart but their numbers and times. -/
inductive Like : Option Node → Option Node → Prop
  | same (node : Option Node) : Like node node
  | file {data data' : FileData} (content : data'.content = data.content)
    (mode : data'.mode = data.mode) : Like (some (.file data)) (some (.file data'))

namespace Like

variable {a b c : Option Node}

theorem symm (h : Like a b) : Like b a := by
  cases h with
  | same => exact .same _
  | file content mode => exact .file content.symm mode.symm

theorem of_eq (h : b = a) : Like a b := h ▸ .same _

theorem no_link (h : Like a b) (hlink : ∀ target, a ≠ some (.link target)) (target : String) :
    b ≠ some (.link target) := by
  cases h with
  | same => exact hlink target
  | file => simp

end Like

/-! ## The directory of a name -/

namespace FileSystem

variable {fs fs' : FileSystem} {here D : Location} {name n : String} {path : Path}

/-- An absolute path that spells out a name in a directory. -/
structure Spells (path : Path) (D : Location) (name : String) : Prop where
  absolute : path.isAbsolute = true
  steps : stepsOf path = D ++ [name]
  ends : path.endsInSeparator = false
  plain : Plain D
  named : IsName name

theorem Spells.walkSteps (h : Spells path D name) : walkSteps path = D ++ [name] := by
  rw [Slipway.walkSteps, h.ends, h.steps]
  rfl

theorem Spells.startOf (h : Spells path D name) (here : Location) : startOf here path = [] := by
  rw [FileSystem.startOf, if_pos h.absolute]

theorem spells_join {dir : Path} (habs : dir.isAbsolute = true) (hsteps : stepsOf dir = D)
    (hD : Plain D) (hn : IsName name) : Spells (dir.join name) D name where
  absolute := by rw [Path.isAbsolute_join hn.not_absolute, habs]
  steps := by rw [hn.stepsOf_join, hsteps]
  ends := hn.endsInSeparator_join dir
  plain := hD
  named := hn

theorem spells_pathOf (hD : Plain D) (hn : IsName name) : Spells (pathOf (D ++ [name])) D name :=
  hn.join_pathOf hD ▸ spells_join (isAbsolute_pathOf D) (stepsOf_pathOf hD) hD hn

theorem prefix_of_mem_trail {names : List String} {q : Location} (hp : Plain names)
    (hq : q ∈ here :: trail here (names ++ ["."])) : q <+: here ++ names := by
  induction names generalizing here with
  | nil =>
    have hdot : stepped here "." = here := by simp [stepped]
    rw [List.nil_append, trail, trail, hdot] at hq
    rw [List.append_nil]
    rcases List.mem_cons.mp hq with rfl | hq
    · exact List.prefix_refl _
    · exact List.mem_singleton.mp hq ▸ List.prefix_refl _
  | cons name rest ih =>
    have hn := hp name List.mem_cons_self
    have hstep : stepped here name = here ++ [name] := by
      simp [stepped, hn.ne_empty, hn.ne_dot, hn.ne_dots]
    rcases List.mem_cons.mp hq with rfl | hq
    · exact List.prefix_append _ _
    · rw [List.cons_append, trail, hstep] at hq
      have hbelow := ih (fun n hn => hp n (List.mem_cons_of_mem _ hn)) hq
      rwa [List.append_assoc] at hbelow

/-- A walk to a name is a walk to its directory, and a look at the name. -/
theorem walk_to_name {links : Nat} {names : List String} (hp : Plain names) (hn : IsName n)
    (hlinks : ∀ q, here <+: q → q <+: here ++ names ++ [n] →
      ∀ target, fs.node? q ≠ some (.link target)) :
    fs.walk true links here (names ++ [n]) =
      match fs.walk true links here (names ++ ["."]) with
      | .error e => .error e
      | .ok spot => if maxNameBytes < n.utf8ByteSize then .error .nameTooLong
        else .ok ⟨spot.place ++ [n], fs.node? (spot.place ++ [n])⟩ := by
  induction names generalizing here with
  | nil =>
    have hlink := hlinks (here ++ [n]) (List.prefix_append _ _) (by simp)
    simp only [List.nil_append, walk_eq, takeSteps]
    cases hnode : fs.node? here with
    | none => rfl
    | some node =>
      cases node with
      | directory mode =>
        simp only [hn.ne_empty, hn.ne_dot, hn.ne_dots, if_false]
        by_cases hexec : ownerExecutes mode = true
        · simp only [hexec, Bool.not_true, Bool.false_eq_true, if_false]
          cases hnext : fs.node? (here ++ [n]) with
          | none => simp [hnext]
          | some next => cases next <;> simp_all
        · simp [hexec]
      | _ => rfl
  | cons name rest ih =>
    have happend : here ++ [name] ++ rest = here ++ name :: rest := by simp
    have hnext : here ++ [name] <+: here ++ name :: rest ++ [n] := ⟨rest ++ [n], by simp⟩
    rw [List.cons_append, List.cons_append, walk_cons (by simp), walk_cons (by simp)]
    cases hmove : fs.move here name with
    | error e => rfl
    | ok next =>
      rw [move_plain (hp name List.mem_cons_self)
        (hlinks _ (List.prefix_append _ _) hnext) hmove]
      exact ih (fun n hn => hp n (List.mem_cons_of_mem _ hn))
        (fun q hq hq' => hlinks q ((List.prefix_append _ _).trans hq) (happend ▸ hq'))

theorem walk_from_root {links : Nat} {spot : Spot} (hD : Plain D) (hd : fs.Direct D)
    (h : fs.walk true links [] (D ++ ["."]) = .ok spot) :
    fs.Enterable D ∧ spot = ⟨D, fs.node? D⟩ := by
  obtain ⟨-, -, hdot⟩ := walk_down hD (fun q _ hq => hd q (by simpa using hq)) (by simp) h
  exact walk_dot.mp (by simpa using hdot)

theorem Spells.findLast_congr (h : Spells path D name) (hd : fs.Direct D)
    (hsame : ∀ q, q <+: D → fs'.node? q = fs.node? q) (here' : Location) :
    fs'.findLast here' path = fs.findLast here path := by
  unfold findLast
  simp only [h.steps, h.startOf, List.dropLast_concat]
  have hwalk : fs'.walk true maxLinks [] (D ++ ["."]) = fs.walk true maxLinks [] (D ++ ["."]) :=
    AgreeAlong.walk fun q hq =>
      have hup := prefix_of_mem_trail h.plain hq
      ⟨hsame q hup, hd q hup⟩
  rw [hwalk]

theorem Spells.findLast_ok {last : LastName} (h : Spells path D name) (hd : fs.Direct D)
    (hlast : fs.findLast here path = .ok last) :
    ∃ mode, fs.node? D = some (.directory mode) ∧ last = ⟨D, mode, some name, false⟩ := by
  unfold findLast at hlast
  split at hlast
  · simp at hlast
  · simp only [h.steps, h.startOf, List.dropLast_concat, List.getLast?_concat, h.ends] at hlast
    split at hlast
    · simp at hlast
    · rename_i parent mode hspot
      obtain ⟨-, heq⟩ := walk_from_root h.plain hd hspot
      obtain ⟨rfl, hnode⟩ := Spot.mk.inj heq
      refine ⟨mode, hnode.symm, ?_⟩
      simpa [Option.filter, h.named.ne_dot, h.named.ne_dots] using (Except.ok.inj hlast).symm
    · simp at hlast
    · simp at hlast

theorem Spells.find_eq (h : Spells path D name) (hd : fs.Direct (D ++ [name])) :
    fs.find here path =
      match fs.findLast here path with
      | .error e => .error e
      | .ok _ => if maxNameBytes < name.utf8ByteSize then .error .nameTooLong
        else .ok ⟨D ++ [name], fs.node? (D ++ [name])⟩ := by
  unfold find findLast
  split
  · rfl
  · simp only [h.steps, h.startOf, h.walkSteps, List.dropLast_concat]
    rw [walk_to_name h.plain h.named (fun q _ hq => hd q (by simpa using hq))]
    cases hspot : fs.walk true maxLinks [] (D ++ ["."]) with
    | error e => rfl
    | ok spot =>
      have hdir : fs.Direct D := fun q hq => hd q (hq.trans (List.prefix_append _ _))
      obtain ⟨⟨mode, hnode, -⟩, rfl⟩ := walk_from_root h.plain hdir hspot
      simp only [hnode]

theorem Spells.not_exists (h : Spells path D name) (hd : fs.Direct (D ++ [name]))
    (hnone : fs.node? (D ++ [name]) = none) : fs.exists? here path = false := by
  unfold FileSystem.exists? findNode
  rw [h.find_eq hd, hnone]
  cases fs.findLast here path with
  | error e => rfl
  | ok last =>
    dsimp only
    split_ifs <;> rfl

theorem Spells.directory_of_satisfies {kind : Node → Bool} (h : Spells path D name)
    (hd : fs.Direct (D ++ [name])) (hyes : fs.satisfies here path kind = true) :
    ∃ mode, fs.node? D = some (.directory mode) := by
  unfold FileSystem.satisfies findNode at hyes
  rw [h.find_eq hd] at hyes
  cases hlast : fs.findLast here path with
  | error e => simp [hlast] at hyes
  | ok last =>
    obtain ⟨mode, hmode, -⟩ :=
      h.findLast_ok (fun q hq => hd q (hq.trans (List.prefix_append _ _))) hlast
    exact ⟨mode, hmode⟩

/-! ## Two file systems -/

/-- The same directories are on the way to a name, and like nodes are there. No link is. -/
structure Facing (fs fs' : FileSystem) (D : Location) (name : String) : Prop where
  way : ∀ q, q <+: D → fs'.node? q = fs.node? q
  direct : fs.Direct (D ++ [name])
  like : Like (fs.node? (D ++ [name])) (fs'.node? (D ++ [name]))

variable {here' : Location}

theorem Facing.direct' (h : Facing fs fs' D name) : fs'.Direct (D ++ [name]) := by
  intro q hq target
  rcases List.prefix_concat_iff.mp hq with rfl | hq
  · exact h.like.no_link (h.direct _ (List.prefix_refl _)) target
  · rw [h.way q hq]
    exact h.direct q (hq.trans (List.prefix_append _ _)) target

theorem Facing.findLast (h : Facing fs fs' D name) (hs : Spells path D name) :
    fs'.findLast here' path = fs.findLast here path :=
  hs.findLast_congr (fun q hq => h.direct q (hq.trans (List.prefix_append _ _))) h.way here'

theorem Facing.findLast_ok {last : LastName} (h : Facing fs fs' D name) (hs : Spells path D name)
    (hlast : fs.findLast here path = .ok last) :
    ∃ mode, fs.node? D = some (.directory mode) ∧ last = ⟨D, mode, some name, false⟩ :=
  hs.findLast_ok (fun q hq => h.direct q (hq.trans (List.prefix_append _ _))) hlast

theorem Facing.find (h : Facing fs fs' D name) (hs : Spells path D name) (here here' : Location) :
    (∃ e, fs.find here path = .error e ∧ fs'.find here' path = .error e) ∨
      fs.find here path = .ok ⟨D ++ [name], fs.node? (D ++ [name])⟩ ∧
        fs'.find here' path = .ok ⟨D ++ [name], fs'.node? (D ++ [name])⟩ := by
  have hlast : fs'.findLast here' path = fs.findLast here path := h.findLast hs
  rw [hs.find_eq h.direct, hs.find_eq h.direct', hlast]
  cases fs.findLast here path with
  | error e => exact Or.inl ⟨e, rfl, rfl⟩
  | ok last =>
    dsimp only
    split
    · exact Or.inl ⟨_, rfl, rfl⟩
    · exact Or.inr ⟨rfl, rfl⟩

theorem Facing.findNode (h : Facing fs fs' D name) (hs : Spells path D name)
    (here here' : Location) :
    (∃ e, fs.findNode here path = .error e ∧ fs'.findNode here' path = .error e) ∨
      ∃ node node', fs.findNode here path = .ok (D ++ [name], node) ∧
        fs'.findNode here' path = .ok (D ++ [name], node') ∧
        Like (some node) (some node') := by
  have hlike := h.like
  unfold FileSystem.findNode
  rcases h.find hs here here' with ⟨e, he, he'⟩ | ⟨hfind, hfind'⟩
  · exact Or.inl ⟨e, by rw [he], by rw [he']⟩
  · rw [hfind, hfind']
    generalize fs.node? (D ++ [name]) = a at hlike ⊢
    generalize fs'.node? (D ++ [name]) = b at hlike ⊢
    cases hlike with
    | same =>
      cases a with
      | none => exact Or.inl ⟨_, rfl, rfl⟩
      | some node => exact Or.inr ⟨node, node, rfl, rfl, .same _⟩
    | file content mode => exact Or.inr ⟨_, _, rfl, rfl, .file content mode⟩

theorem Facing.exists? (h : Facing fs fs' D name) (hs : Spells path D name)
    (here here' : Location) :
    fs'.exists? here' path = fs.exists? here path := by
  unfold FileSystem.exists?
  rcases h.findNode hs here here' with ⟨e, he, he'⟩ | ⟨_, _, hn, hn', -⟩
  · rw [he, he']
  · rw [hn, hn']
    rfl

theorem Facing.satisfies {kind : Node → Bool} (h : Facing fs fs' D name)
    (hs : Spells path D name) (here here' : Location)
    (hkind : ∀ data, kind (.file data) = kind (.file ⟨0, data.content, data.mode, 0⟩)) :
    fs'.satisfies here' path kind = fs.satisfies here path kind := by
  unfold FileSystem.satisfies
  rcases h.findNode hs here here' with
    ⟨e, he, he'⟩ | ⟨node, node', hn, hn', hlike⟩
  · rw [he, he']
  · rw [hn, hn']
    cases hlike with
    | same => rfl
    | file content mode =>
      dsimp only
      rw [hkind, content, mode, ← hkind]

theorem Facing.describe (h : Facing fs fs' D name) (hs : Spells path D name)
    (here here' : Location) (now now' : Int) :
    (∃ e, fs.describe here path now = .error e ∧ fs'.describe here' path now' = .error e) ∨
      ∃ status status', fs.describe here path now = .ok status ∧
        fs'.describe here' path now' = .ok status' ∧ status'.size = status.size := by
  unfold FileSystem.describe
  rcases h.findNode hs here here' with
    ⟨e, he, he'⟩ | ⟨node, node', hn, hn', hlike⟩
  · exact Or.inl ⟨e, by rw [he]; rfl, by rw [he']; rfl⟩
  · refine Or.inr ⟨statusOf now node, statusOf now' node', by rw [hn]; rfl, by rw [hn']; rfl, ?_⟩
    cases hlike with
    | same => rfl
    | file content mode => simp only [statusOf, Node.size, content]

/-! ## Open files -/

/-- Two handles of like files. -/
structure Twin (fs fs' : FileSystem) (file file' : Handle) : Prop where
  place : file'.place = file.place
  like : Like (fs.openNode? file) (fs'.openNode? file')

variable {file file' : Handle}

theorem twin_of_nodes {node node' : Node} {t : Location} (hnode : fs.node? t = some node)
    (hnode' : fs'.node? t = some node') (hlike : Like (some node) (some node')) :
    Twin fs fs' ⟨t, serialOf node⟩ ⟨t, serialOf node'⟩ := by
  refine ⟨rfl, ?_⟩
  simpa [openNode?, hnode, hnode', Option.filter] using hlike

theorem Facing.openRead (h : Facing fs fs' D name) (hs : Spells path D name)
    (here here' : Location) :
    (∃ e, fs.openRead here path = .error e ∧ fs'.openRead here' path = .error e) ∨
      ∃ file file', fs.openRead here path = .ok file ∧ fs'.openRead here' path = .ok file' ∧
        file.place = D ++ [name] ∧ Twin fs fs' file file' := by
  unfold FileSystem.openRead
  rcases h.findNode hs here here' with
    ⟨e, he, he'⟩ | ⟨node, node', hn, hn', hlike⟩
  · exact Or.inl ⟨e, by rw [he], by rw [he']⟩
  · have htwin := twin_of_nodes (node?_of_findNode hn) (node?_of_findNode hn') hlike
    have hmode : node'.mode = node.mode := by
      cases hlike with
      | same => rfl
      | file content mode => exact mode
    have hterminal : node' = .device .terminal ↔ node = .device .terminal := by
      cases hlike <;> simp
    rw [hn, hn']
    dsimp only
    simp only [hterminal, hmode]
    split_ifs
    · exact Or.inl ⟨_, rfl, rfl⟩
    · exact Or.inr ⟨_, _, rfl, rfl, rfl, htwin⟩
    · exact Or.inl ⟨_, rfl, rfl⟩

theorem Facing.openRead_file {data data' : FileData} (h : Facing fs fs' D name)
    (hs : Spells path D name) (here here' : Location)
    (hnode : fs.node? (D ++ [name]) = some (.file data))
    (hnode' : fs'.node? (D ++ [name]) = some (.file data')) :
    (∃ e, fs.openRead here path = .error e ∧ fs'.openRead here' path = .error e) ∨
      fs.openRead here path = .ok ⟨D ++ [name], data.serial⟩ ∧
        fs'.openRead here' path = .ok ⟨D ++ [name], data'.serial⟩ := by
  have hmode : (Node.file data').mode = (Node.file data).mode := by
    have hlike := h.like
    rw [hnode, hnode'] at hlike
    cases hlike with
    | same => rfl
    | file content mode => exact mode
  unfold FileSystem.openRead
  rcases h.findNode hs here here' with ⟨e, he, he'⟩ | ⟨node, node', hn, hn', -⟩
  · exact Or.inl ⟨e, by rw [he], by rw [he']⟩
  · obtain rfl := Option.some.inj ((node?_of_findNode hn).symm.trans hnode)
    obtain rfl := Option.some.inj ((node?_of_findNode hn').symm.trans hnode')
    rw [hn, hn']
    simp only [hmode, reduceCtorEq, if_false, serialOf]
    split_ifs
    · exact Or.inr ⟨rfl, rfl⟩
    · exact Or.inl ⟨_, rfl, rfl⟩

theorem Twin.read {offset count : Nat} (h : Twin fs fs' file file') :
    fs'.read file' offset count = fs.read file offset count := by
  have hlike := h.like
  unfold FileSystem.read
  generalize fs.openNode? file = a at hlike ⊢
  generalize fs'.openNode? file' = b at hlike ⊢
  cases hlike with
  | same => rfl
  | file content mode => simp only [content]

theorem Twin.describeOpen (h : Twin fs fs' file file') (now now' : Int) :
    ∃ status status', fs.describeOpen file now = .ok status ∧
      fs'.describeOpen file' now' = .ok status' ∧ status'.size = status.size := by
  have hlike := h.like
  unfold FileSystem.describeOpen
  generalize fs.openNode? file = a at hlike ⊢
  generalize fs'.openNode? file' = b at hlike ⊢
  cases hlike with
  | same =>
    cases a with
    | none => exact ⟨_, _, rfl, rfl, rfl⟩
    | some node => exact ⟨_, _, rfl, rfl, rfl⟩
  | file content mode => exact ⟨_, _, rfl, rfl, by simp only [statusOf, Node.size, content]⟩

/-! ## Changes -/

/-- Both file systems changed at the place only, where like nodes are now. -/
structure Altered (t : Location) (fs fs' fs₁ fs₁' : FileSystem) : Prop where
  off : SameOff t fs fs₁
  off' : SameOff t fs' fs₁'
  like : Like (fs₁.node? t) (fs₁'.node? t)
  plain : ∀ target, fs₁.node? t ≠ some (.link target)

theorem createAt_altered {now now' : Int} (hn : IsName name)
    (hdir : fs'.node? D = fs.node? D) :
    (∃ e, fs.createAt (D ++ [name]) newFileMode now = .error e ∧
        fs'.createAt (D ++ [name]) newFileMode now' = .error e) ∨
      ∃ fs₁ file fs₁' file', fs.createAt (D ++ [name]) newFileMode now = .ok (fs₁, file) ∧
        fs'.createAt (D ++ [name]) newFileMode now' = .ok (fs₁', file') ∧
        file.place = D ++ [name] ∧ Altered (D ++ [name]) fs fs' fs₁ fs₁' ∧
        Twin fs₁ fs₁' file file' := by
  have hplace : ¬ Fixed (D ++ [name]) := not_fixed_append hn.ne_empty
  have hself : ∀ (fs : FileSystem) (now : Int),
      (fs.createFile (D ++ [name]) newFileMode now).1.node? (D ++ [name])
        = some (.file ⟨fs.nextSerial, [], newFileMode, now⟩) :=
    fun _ _ => node?_createFile_self hplace
  unfold createAt
  rw [List.dropLast_concat, hdir]
  split
  · split_ifs
    · exact Or.inl ⟨_, rfl, rfl⟩
    · refine Or.inr ⟨(fs.createFile (D ++ [name]) newFileMode now).1, _,
        (fs'.createFile (D ++ [name]) newFileMode now').1, _, rfl, rfl, rfl,
        ⟨fun _ hq => node?_createFile_of_ne hq, fun _ hq => node?_createFile_of_ne hq, ?_, ?_⟩,
        twin_of_nodes (hself fs now) (hself fs' now') (.file rfl rfl)⟩
      · rw [hself fs now, hself fs' now']
        exact .file rfl rfl
      · simp [hself fs now]
    · exact Or.inl ⟨_, rfl, rfl⟩
  · exact Or.inl ⟨_, rfl, rfl⟩

theorem openExisting_altered {node node' : Node} {t : Location} {now now' : Int}
    (hnode : fs.node? t = some node) (hnode' : fs'.node? t = some node')
    (hlike : Like (some node) (some node')) (hplain : ∀ target, node ≠ .link target) :
    (∃ e, fs.openExisting t node now true = .error e ∧
        fs'.openExisting t node' now' true = .error e) ∨
      ∃ fs₁ file fs₁' file', fs.openExisting t node now true = .ok (fs₁, file) ∧
        fs'.openExisting t node' now' true = .ok (fs₁', file') ∧
        file.place = t ∧ Altered t fs fs' fs₁ fs₁' ∧ Twin fs₁ fs₁' file file' := by
  have hfile : ∀ {data data' : FileData}, node = .file data → node' = .file data' →
      data'.mode = data.mode → (∃ e, fs.openExisting t node now true = .error e ∧
        fs'.openExisting t node' now' true = .error e) ∨
      ∃ fs₁ file fs₁' file', fs.openExisting t node now true = .ok (fs₁, file) ∧
        fs'.openExisting t node' now' true = .ok (fs₁', file') ∧
        file.place = t ∧ Altered t fs fs' fs₁ fs₁' ∧ Twin fs₁ fs₁' file file' := by
    rintro ⟨serial, content, mode, modified⟩ ⟨serial', content', mode', modified'⟩ rfl rfl hmode
    obtain rfl : mode' = mode := hmode
    have hplace : ¬ Fixed t := not_fixed_of_ne_directory hnode (by simp)
    have hself : ∀ (fs : FileSystem) (data : FileData),
        (fs.put t (.file data)).node? t = some (.file data) := fun _ _ => node?_put_self hplace
    have hnew : Like (some (.file ⟨serial, [], mode', now⟩))
        (some (.file ⟨serial', [], mode', now'⟩)) := .file rfl rfl
    simp only [openExisting, if_true]
    split_ifs
    · exact Or.inl ⟨_, rfl, rfl⟩
    · refine Or.inr ⟨_, _, _, _, rfl, rfl, rfl, ⟨fun _ hq => node?_put_of_ne hq,
        fun _ hq => node?_put_of_ne hq, ?_, ?_⟩, twin_of_nodes (hself _ _) (hself _ _) hnew⟩
      · rw [hself, hself]
        exact hnew
      · simp [hself]
  cases hlike with
  | file content mode => exact hfile rfl rfl mode
  | same =>
    cases node with
    | directory mode => exact Or.inl ⟨_, rfl, rfl⟩
    | file data => exact hfile rfl rfl rfl
    | link target => exact absurd rfl (hplain target)
    | tool tool => exact Or.inl ⟨_, rfl, rfl⟩
    | device d =>
      have hopen : Twin fs fs' ⟨t, 0⟩ ⟨t, 0⟩ := twin_of_nodes hnode hnode' (.same _)
      have hsame : Altered t fs fs' fs fs' :=
        ⟨SameOff.refl _ _, SameOff.refl _ _, by rw [hnode, hnode']; exact .same _, by simp [hnode]⟩
      cases d with
      | terminal => exact Or.inl ⟨_, rfl, rfl⟩
      | _ => exact Or.inr ⟨_, _, _, _, rfl, rfl, rfl, hsame, hopen⟩

theorem Facing.openWrite {c : Creation} (h : Facing fs fs' D name)
    (hs : Spells path D name) (here here' : Location) (now now' : Int) :
    (∃ e, fs.openWrite here c path now = .error e ∧
        fs'.openWrite here' c path now' = .error e) ∨
      ∃ fs₁ file fs₁' file', fs.openWrite here c path now = .ok (fs₁, file) ∧
        fs'.openWrite here' c path now' = .ok (fs₁', file') ∧ file.place = D ++ [name] ∧
        Altered (D ++ [name]) fs fs' fs₁ fs₁' ∧ Twin fs₁ fs₁' file file' := by
  have hdir := h.way D (List.prefix_refl _)
  have hlike := h.like
  have hplain := h.direct _ (List.prefix_refl _)
  cases c with
  | fresh =>
    have hlast : fs'.findLast here' path = fs.findLast here path := h.findLast hs
    simp only [FileSystem.openWrite, openFresh, hlast]
    cases hl : fs.findLast here path with
    | error e => exact Or.inl ⟨e, rfl, rfl⟩
    | ok last =>
      obtain ⟨mode, -, rfl⟩ := h.findLast_ok hs hl
      simp only [LastName.lookup, Bool.false_eq_true, if_false]
      split_ifs
      · exact Or.inl ⟨_, rfl, rfl⟩
      · exact Or.inl ⟨_, rfl, rfl⟩
      · cases hnode : fs.node? (D ++ [name]) with
        | none =>
          rw [hnode] at hlike
          cases hlike'' : fs'.node? (D ++ [name]) with
          | none => exact createAt_altered hs.named hdir
          | some node' => rw [hlike''] at hlike; cases hlike
        | some node =>
          rw [hnode] at hlike
          cases hlike'' : fs'.node? (D ++ [name]) with
          | none => rw [hlike''] at hlike; cases hlike
          | some node' => exact Or.inl ⟨_, rfl, rfl⟩
  | emptied =>
    simp only [FileSystem.openWrite, openAny, hs.ends, Bool.false_eq_true, if_false]
    rcases h.find hs here here' with ⟨e, he, he'⟩ | ⟨hfind, hfind'⟩
    · exact Or.inl ⟨e, by rw [he], by rw [he']⟩
    · rw [hfind, hfind']
      cases hnode : fs.node? (D ++ [name]) with
      | none =>
        rw [hnode] at hlike
        cases hnode' : fs'.node? (D ++ [name]) with
        | none => exact createAt_altered hs.named hdir
        | some node' => rw [hnode'] at hlike; cases hlike
      | some node =>
        rw [hnode] at hlike hplain
        cases hnode' : fs'.node? (D ++ [name]) with
        | none => rw [hnode'] at hlike; cases hlike
        | some node' =>
          exact openExisting_altered hnode hnode' (hnode' ▸ hlike)
            (fun target heq => hplain target (heq ▸ rfl))

theorem Twin.altered {t : Location} (htwin : Twin fs fs' file file')
    (hlike : Like (fs.node? t) (fs'.node? t)) (hplain : ∀ target, fs.node? t ≠ some (.link target)) :
    Altered t fs fs' fs fs' ∧ Twin fs fs' file file' :=
  ⟨⟨SameOff.refl _ _, SameOff.refl _ _, hlike, hplain⟩, htwin⟩

theorem updateOpen_altered {data data' : FileData} {f f' : FileData → FileData}
    (hplace : file'.place = file.place) (hopen : fs.openNode? file = some (.file data))
    (hopen' : fs'.openNode? file' = some (.file data')) (hcontent : (f' data').content = (f data).content)
    (hmode : (f' data').mode = (f data).mode) (hserial : (f data).serial = data.serial)
    (hserial' : (f' data').serial = data'.serial) :
    Altered file.place fs fs' (fs.updateOpen file f) (fs'.updateOpen file' f') ∧
      Twin (fs.updateOpen file f) (fs'.updateOpen file' f') file file' := by
  obtain ⟨hnode, hfile⟩ := openNode?_eq.mp hopen
  obtain ⟨hnode', hfile'⟩ := openNode?_eq.mp hopen'
  have hself := node?_updateOpen_self (f := f) hnode hfile
  have hself' := node?_updateOpen_self (f := f') hnode' hfile'
  have hlike : Like (some (.file (f data))) (some (.file (f' data'))) := .file hcontent hmode
  rw [hplace] at hself'
  refine ⟨⟨fun q hq => node?_updateOpen_of_ne hq, fun q hq => node?_updateOpen_of_ne (hplace ▸ hq),
    by rw [hself, hself']; exact hlike, by simp [hself]⟩, hplace, ?_⟩
  have hafter : (fs.updateOpen file f).openNode? file = some (.file (f data)) :=
    openNode?_eq.mpr ⟨hself, hserial.trans hfile⟩
  have hafter' : (fs'.updateOpen file' f').openNode? file' = some (.file (f' data')) :=
    openNode?_eq.mpr ⟨by rw [hplace]; exact hself', hserial'.trans hfile'⟩
  rw [hafter, hafter']
  exact hlike

theorem Twin.write (h : Twin fs fs' file file') (offset : Nat) (bytes : Bytes) (now now' : Int)
    (hlike : Like (fs.node? file.place) (fs'.node? file.place))
    (hplain : ∀ target, fs.node? file.place ≠ some (.link target)) :
    (∃ e, fs.write file offset bytes now = .error e ∧
        fs'.write file' offset bytes now' = .error e) ∨
      ∃ fs₁ fs₁', fs.write file offset bytes now = .ok fs₁ ∧
        fs'.write file' offset bytes now' = .ok fs₁' ∧ Altered file.place fs fs' fs₁ fs₁' ∧
        Twin fs₁ fs₁' file file' := by
  have hsame := h.altered hlike hplain
  have hopened := h.like
  have hfile : ∀ {data data' : FileData}, fs.openNode? file = some (.file data) →
      fs'.openNode? file' = some (.file data') → data'.content = data.content →
      data'.mode = data.mode →
      ∃ fs₁ fs₁', fs.write file offset bytes now = .ok fs₁ ∧
        fs'.write file' offset bytes now' = .ok fs₁' ∧ Altered file.place fs fs' fs₁ fs₁' ∧
        Twin fs₁ fs₁' file file' := by
    intro data data' hopen hopen' hcontent hmode
    unfold FileSystem.write
    rw [hopen, hopen']
    exact ⟨_, _, rfl, rfl, updateOpen_altered h.place hopen hopen' (by simp only [hcontent]) hmode
      rfl rfl⟩
  -- A write looks at the node that is open and at nothing else, and the two are alike.
  cases hopen : fs.openNode? file with
  | none =>
    cases hopen' : fs'.openNode? file' with
    | none =>
      unfold FileSystem.write
      rw [hopen, hopen']
      exact Or.inr ⟨_, _, rfl, rfl, hsame⟩
    | some node' =>
      rw [hopen, hopen'] at hopened
      cases hopened
  | some node =>
    cases hopen' : fs'.openNode? file' with
    | none =>
      rw [hopen, hopen'] at hopened
      cases hopened
    | some node' =>
      rw [hopen, hopen'] at hopened
      cases hopened with
      | file content mode => exact Or.inr (hfile hopen hopen' content mode)
      | same =>
        cases node with
        | file data => exact Or.inr (hfile hopen hopen' rfl rfl)
        | device d =>
          unfold FileSystem.write
          rw [hopen, hopen']
          cases d with
          | full =>
            dsimp only
            split_ifs
            · exact Or.inr ⟨_, _, rfl, rfl, hsame⟩
            · exact Or.inl ⟨_, rfl, rfl⟩
          | _ => exact Or.inr ⟨_, _, rfl, rfl, hsame⟩
        | _ =>
          unfold FileSystem.write
          rw [hopen, hopen']
          exact Or.inr ⟨_, _, rfl, rfl, hsame⟩

theorem Facing.remove (h : Facing fs fs' D name) (hs : Spells path D name)
    (here here' : Location) :
    (∃ e, fs.remove here path = .error e ∧ fs'.remove here' path = .error e) ∨
      ∃ fs₁ fs₁', fs.remove here path = .ok fs₁ ∧ fs'.remove here' path = .ok fs₁' ∧
        Altered (D ++ [name]) fs fs' fs₁ fs₁' := by
  have hlast : fs'.findLast here' path = fs.findLast here path := h.findLast hs
  have hlike := h.like
  have hplace : ¬ Fixed (D ++ [name]) := not_fixed_append hs.named.ne_empty
  unfold FileSystem.remove
  rw [hlast]
  cases hl : fs.findLast here path with
  | error e => exact Or.inl ⟨e, rfl, rfl⟩
  | ok last =>
    obtain ⟨mode, -, rfl⟩ := h.findLast_ok hs hl
    have herased : Altered (D ++ [name]) fs fs' (fs.erase (D ++ [name]))
        (fs'.erase (D ++ [name])) :=
      ⟨fun q hq => node?_erase_of_ne hq, fun q hq => node?_erase_of_ne hq,
        .of_eq (by rw [node?_erase_self hplace, node?_erase_self hplace]),
        by simp [node?_erase_self hplace]⟩
    dsimp only [LastName.lookup]
    by_cases hsize : maxNameBytes < name.utf8ByteSize
    · rw [if_pos hsize, if_pos hsize]
      exact Or.inl ⟨_, rfl, rfl⟩
    · rw [if_neg hsize, if_neg hsize]
      by_cases hgone : isGone D = true
      · rw [if_pos hgone, if_pos hgone]
        exact Or.inl ⟨_, rfl, rfl⟩
      · rw [if_neg hgone, if_neg hgone]
        -- What is asked of the node does not tell like nodes apart.
        generalize fs.node? (D ++ [name]) = a at hlike ⊢
        generalize fs'.node? (D ++ [name]) = b at hlike ⊢
        cases hlike with
        | same =>
          cases a with
          | none => exact Or.inl ⟨_, rfl, rfl⟩
          | some node =>
            simp only [Bool.false_eq_true, if_false]
            split_ifs
            · exact Or.inl ⟨_, rfl, rfl⟩
            · exact Or.inl ⟨_, rfl, rfl⟩
            · exact Or.inr ⟨_, _, rfl, rfl, herased⟩
        | file =>
          simp only [Node.isDirectory, Bool.false_eq_true, if_false]
          split_ifs
          · exact Or.inl ⟨_, rfl, rfl⟩
          · exact Or.inr ⟨_, _, rfl, rfl, herased⟩

theorem renameNode_file {newName : String} {mode : Nat} {data : FileData} {replaced : Option Node}
    (hne : name ≠ newName) :
    fs.renameNode ⟨D, mode, some name, false⟩ ⟨D, mode, some newName, false⟩ name newName
        (.file data) replaced =
      if ownerWrites mode && ownerExecutes mode then
        if replaced.any Node.isDirectory then .error .isDirectory
        else .ok (fs.moveTree (D ++ [name]) (D ++ [newName]))
      else .error .noAccess := by
  have hup : (D ++ [newName]).isPrefixOf D = false := by
    rw [Bool.eq_false_iff, Ne, List.isPrefixOf_iff_prefix]
    intro hup
    have hlen := hup.length_le
    rw [List.length_append, List.length_singleton] at hlen
    omega
  have hdiffer : D ++ [name] ≠ D ++ [newName] := by simpa using hne
  simp only [renameNode, Node.isDirectory, hup, hdiffer, LastName.mayChange, Bool.or_self,
    Bool.and_false, Bool.false_and, Bool.false_eq_true, if_false]
  cases ownerWrites mode && ownerExecutes mode with
  | false => simp
  | true => cases replaced with
    | none => simp
    | some node => cases node <;> simp [mayReplace, Node.isDirectory]

/-- Whether a file can be moved to another name does not depend on what is in the files. -/
theorem renameWith_alike (here here' : Location) {origin destination : Path} {newName : String} {data data' : FileData}
    (hs : Spells origin D name) (hs' : Spells destination D newName) (hne : name ≠ newName)
    (hd : fs.Direct D) (hway : ∀ q, q <+: D → fs'.node? q = fs.node? q)
    (hnode : fs.node? (D ++ [name]) = some (.file data))
    (hnode' : fs'.node? (D ++ [name]) = some (.file data'))
    (hold : (fs'.node? (D ++ [newName])).any Node.isDirectory
      = (fs.node? (D ++ [newName])).any Node.isDirectory) :
    (∃ e, fs.renameWith here origin destination = .error e ∧
        fs'.renameWith here' origin destination = .error e) ∨
      ∃ moved moved', (fs.node? (D ++ [newName])).any Node.isDirectory = false ∧
        fs.renameWith here origin destination = .ok moved ∧
        fs'.renameWith here' origin destination = .ok moved' := by
  have horigin : fs'.findLast here' origin = fs.findLast here origin :=
    hs.findLast_congr hd hway here'
  have hdestination : fs'.findLast here' destination = fs.findLast here destination :=
    hs'.findLast_congr hd hway here'
  unfold renameWith
  rw [horigin, hdestination]
  cases hl : fs.findLast here origin with
  | error e => exact Or.inl ⟨e, rfl, rfl⟩
  | ok old =>
    obtain ⟨mode, hmode, rfl⟩ := hs.findLast_ok hd hl
    cases hl' : fs.findLast here destination with
    | error e => exact Or.inl ⟨e, rfl, rfl⟩
    | ok new =>
      obtain ⟨mode', hmode', rfl⟩ := hs'.findLast_ok hd hl'
      obtain rfl : mode' = mode := by simpa [hmode] using hmode'.symm
      dsimp only [LastName.lookup]
      by_cases hsize : maxNameBytes < name.utf8ByteSize
      · rw [if_pos hsize, if_pos hsize]
        exact Or.inl ⟨_, rfl, rfl⟩
      · by_cases hgone : isGone D = true
        · simp only [if_neg hsize, if_pos hgone]
          exact Or.inl ⟨_, rfl, rfl⟩
        · by_cases hsize' : maxNameBytes < newName.utf8ByteSize
          · simp only [if_neg hsize, if_neg hgone, if_pos hsize', hnode, hnode']
            exact Or.inl ⟨_, rfl, rfl⟩
          · simp only [if_neg hsize, if_neg hgone, if_neg hsize', hnode, hnode',
              renameNode_file hne, hold]
            split_ifs with hmay hdir
            · exact Or.inl ⟨_, rfl, rfl⟩
            · exact Or.inr ⟨_, _, Bool.eq_false_iff.mpr hdir, rfl, rfl⟩
            · exact Or.inl ⟨_, rfl, rfl⟩

end FileSystem

end Slipway
