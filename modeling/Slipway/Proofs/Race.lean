import Slipway.Proofs.Crowd
import Slipway.Proofs.Delivery

/-!
# Packagings at the same time

Under the policy to fail, whoever creates the package is alone with it and its checksum file until
it has removed both or is done, so it runs as if nobody else were there.
-/

namespace Slipway

open FileSystem World

variable {σ : Type} {runner : Runner σ} {may : Refusals} {w w' : World σ}
  {fs fs' fs'' : FileSystem} {here place : Location} {dir : Path} {tops : List Path}
  {name : String} {file : Handle}

/-! ## Directories that are made -/

/-- Where a way leads somewhere, no directory is made on it. -/
theorem FileSystem.Reaches.not_made {path : Path} (h : fs.Reaches here dir place)
    (habs : path.isAbsolute = dir.isAbsolute) (hpre : stepsOf path <+: stepsOf dir) :
    fs.makeDirectory here path ≠ .ok fs' := by
  intro hmade
  obtain ⟨last, name, hlast, hname, -, -, hnone, -⟩ := makeDirectory_last hmade
  obtain ⟨hdot, hdots, front, hsteps, hwalk⟩ := findLast_name hlast hname
  have hn : IsName name := isName_of_mem_stepsOf (p := path) (by simp [hsteps]) hdot hdots
  obtain ⟨more, hmore⟩ := hpre
  obtain ⟨links, at', hon⟩ := walk_append hwalk (List.cons_ne_nil _ _)
  have hparent := hon _ (List.cons_ne_nil "." [])
  rw [hwalk] at hparent
  obtain ⟨hent, hspot⟩ := walk_dot.mp hparent.symm
  obtain rfl := (Spot.mk.inj hspot).1
  have hstart : startOf here path = startOf here dir := by unfold startOf; rw [habs]
  have hall : stepsOf dir ++ ["."] = front ++ name :: (more ++ ["."]) := by
    simp [← hmore, hsteps]
  unfold Reaches at h
  -- The walk comes through the parent, and finds nothing under the name.
  rw [hall, ← hstart, hon _ (List.cons_ne_nil _ _), walk_cons (by simp)] at h
  cases hmove : fs.move last.parent name with
  | error e => simp [hmove] at h
  | ok next =>
    rw [move_name hn hent (size_of_move hn hmove).2, hnone] at hmove
    simp at hmove

theorem above_package {settings : Settings} {request : BuildRequest} (hn : IsName name)
    (hproduct : ¬ Path.isAbsolute ⟨settings.product⟩)
    (hpath : packagePath settings request = dir.join name) :
    settings.packagesDir.isAbsolute = dir.isAbsolute ∧
      stepsOf settings.packagesDir <+: stepsOf dir := by
  obtain ⟨up, last, hlast, hjoin⟩ := exists_packageName_join settings.product request.platform
  have hrel : ¬ Path.isAbsolute ⟨request.platform.packageName settings.product⟩ := by
    unfold Path.isAbsolute at hproduct ⊢
    unfold Platform.packageName
    simp only [String.append_assoc, String.toList_append] at hproduct ⊢
    cases hchars : settings.product.toList with
    | nil => simp [Path.separator]
    | cons c rest => simpa [hchars] using hproduct
  unfold packagePath at hpath
  have hsteps : (stepsOf settings.packagesDir ++ stepsOf up) ++ [last] = stepsOf dir ++ [name] := by
    rw [← hn.stepsOf_join, ← hpath, stepsOf_join hrel, hjoin, hlast.stepsOf_join,
      List.append_assoc]
  refine ⟨?_, ⟨stepsOf up, List.append_inj_left' hsteps rfl⟩⟩
  rw [← Path.isAbsolute_join hrel, hpath, Path.isAbsolute_join hn.not_absolute]

/-- Directories of the paths were made, and nothing else has changed for good. -/
inductive Paved (here : Location) (tops : List Path) (fs : FileSystem) : FileSystem → Prop
  | start : Paved here tops fs fs
  | made {top path : Path} {fs' fs'' : FileSystem} (paved : Paved here tops fs fs')
    (listed : top ∈ tops) (above : path ∈ lineage top)
    (made : fs'.makeDirectory here path = .ok fs'') : Paved here tops fs fs''
  | same {fs' fs'' : FileSystem} (paved : Paved here tops fs fs')
    (same : ∀ q, fs''.node? q = fs'.node? q) : Paved here tops fs fs''

theorem Paved.grows (h : Paved here tops fs fs') : Grows fs fs' := by
  induction h with
  | start => exact .refl _
  | made _ _ _ made ih => exact ih.trans (grows_of_makeDirectory made)
  | same _ same ih => exact ih.trans fun q => Or.inl (same q)

/-- Making directories on a way that never goes up brings nothing into sight below it. -/
theorem Paved.exists? (hn : IsName name) (ht : fs.Tree) (hup : ".." ∉ stepsOf dir)
    (habove : ∀ top ∈ tops, top.isAbsolute = dir.isAbsolute ∧ stepsOf top <+: stepsOf dir)
    (h : Paved here tops fs fs') :
    fs'.exists? here (dir.join name) = fs.exists? here (dir.join name) := by
  have hp := descends_stepsOf hup
  have halong : GrowsAlong (wayOf here dir) fs fs' := by
    induction h with
    | start => exact .refl _ _
    | made _ listed above made ih =>
      obtain ⟨habs, hsteps⟩ := stepsOf_lineage above
      obtain ⟨habs', hsteps'⟩ := habove _ listed
      have hpre := hsteps.trans hsteps'
      exact ih.trans (makeDirectory_along (fun n hn => hp n (hpre.subset hn))
        (wayOf_mono (habs.trans habs') hpre) (ih.grows.direct (ht.links.direct _)) made)
    | same _ same ih => exact ih.trans fun q => Or.inl (same q)
  exact halong.exists? hn ht hp

/-! ## Before the package is open -/

/-- The open binary is what stood at its path in the beginning. -/
def HandleOf (start : FileSystem) (here : Location) (artifact : Path) (binary : Handle) : Prop :=
  ∀ origin node, start.findNode here artifact = .ok (origin, node) →
    binary = ⟨origin, serialOf node⟩

/-- What a packaging has found out before it opens its package. -/
def Stand.Knows (start : FileSystem) (here : Location) (artifact : Path) : Stand → Prop
  | .preparing => True
  | .ready binary => HandleOf start here artifact binary
  | .opened _ _ => False

theorem Stand.Ends.fails {s : Stand} {start : FileSystem} {artifact : Path}
    {r : Except PackagingError (Bool × Handle × Handle)} (h : s.Ends r)
    (hk : s.Knows start here artifact) : ∃ e, r = .error e := by
  cases s with
  | opened binary file => exact hk.elim
  | _ => exact h

/-- A packaging that has not opened its package changes nothing, makes a directory or opens it. -/
inductive Stand.Performs (start : FileSystem) (top artifact package : Path) (m m' : Machine) :
    Stand → Prop
  | looks {s : Stand} (same : m' = m) (knows : s.Knows start m.directory artifact) :
    Performs start top artifact package m m' s
  | makes {s : Stand} {path : Path} {files : FileSystem} (above : path ∈ lineage top)
    (made : m.files.makeDirectory m.directory path = .ok files) (machine : m' = { m with files })
    (knows : s.Knows start m.directory artifact) : Performs start top artifact package m m' s
  | opens {binary file : Handle} {files : FileSystem}
    (tracks : HandleOf start m.directory artifact binary)
    (opened : m.files.openFresh m.directory package m.now = .ok (files, file))
    (machine : m' = { m with files }) :
    Performs start top artifact package m m' (.opened binary file)

theorem Stand.Takes.performs {s s' : Stand} {start : FileSystem} {artifact package : Path}
    {a : Action} {r : a.Reply} (h : s.Takes top artifact package a r s')
    (hk : s.Knows start w.machine.directory artifact)
    (hstart : ∀ q node, start.node? q = some node → w.machine.files.node? q = some node)
    (hw : w.Answers runner may a r w') :
    s'.Performs start top artifact package w.machine w'.machine := by
  cases h with
  | asks asks closed => exact .looks (hw.untouched asks).1 hk
  | makes above =>
    obtain ⟨m, hm, rfl⟩ := hw
    rcases Machine.performs_makeDirectory hm with ⟨-, rfl⟩ | ⟨-, files, hmade, rfl⟩
    · exact .looks rfl trivial
    · exact .makes above hmade rfl trivial
  | reads =>
    obtain ⟨m, hm, rfl⟩ := hw
    obtain ⟨rfl, place, node, hfind, rfl⟩ := performs_openRead hm
    refine .looks rfl fun origin node' hthere => ?_
    have hsame := findNode_keeps (fun q node _ => hstart q node) hthere
      (hstart _ _ (node?_of_findNode hthere))
    rw [hfind] at hsame
    obtain ⟨rfl, rfl⟩ := Prod.mk.inj (Except.ok.inj hsame)
    rfl
  | collides =>
    obtain ⟨m, hm, rfl⟩ := hw
    rcases Machine.performs_openWrite hm with ⟨-, rfl⟩ | ⟨files, file, hok, -⟩
    · exact .looks rfl hk
    · simp at hok
  | opens =>
    obtain ⟨m, hm, rfl⟩ := hw
    rcases Machine.performs_openWrite hm with ⟨⟨e, he⟩, -⟩ | ⟨files, file, hok, hfs, rfl⟩
    · simp at he
    · obtain rfl := Except.ok.inj hok
      exact .opens hk hfs rfl

/-! ## While the package is open -/

/-- The places of the package and of its checksum file, if that one is open. -/
def Clasped (place : Location) (name : String) (line : Option Handle) (q : Location) : Prop :=
  q = place ++ [name] ∨ line.isSome ∧ q = place ++ [checksumName name]

theorem Clasped.elim_none {q : Location} (h : Clasped place name none q) : q = place ++ [name] :=
  h.resolve_right (by simp)

/-- The open package and its open checksum file are new, and nothing else has changed. -/
structure Grasp (dir : Path) (name : String) (place : Location) (base fs : FileSystem)
    (file : Handle) (line : Option Handle) : Prop where
  package : file.place = place ++ [name] ∧ ∃ content, fs.Holds file content
  sidecar : ∀ h, line = some h → h.place = place ++ [checksumName name] ∧
    (∃ content, fs.Holds h content) ∧ refuse? (checksumPath (dir.join name)) = none ∧
      (checksumName name).utf8ByteSize ≤ maxNameBytes
  fresh : ∀ q, Clasped place name line q → base.node? q = none
  others : ∀ q, ¬ Clasped place name line q → fs.node? q = base.node? q

section Grasp

variable {base : FileSystem} {line : Option Handle} {settings : Settings}

theorem Grasp.keeps (h : Grasp dir name place base fs file line) : Keeps base fs := by
  intro q node _ hnode
  rw [h.others q fun hq => ?_, hnode]
  simp [h.fresh q hq] at hnode

theorem Grasp.there {q : Location} (h : Grasp dir name place base fs file line)
    (hq : Clasped place name line q) : ∃ data, fs.node? q = some (.file data) := by
  rcases hq with rfl | ⟨hline, rfl⟩
  · obtain ⟨hplace, content, data, hnode, -⟩ := h.package
    exact ⟨data, hplace ▸ hnode⟩
  · obtain ⟨line, rfl⟩ := Option.isSome_iff_exists.mp hline
    obtain ⟨hplace, ⟨content, data, hnode, -⟩, -⟩ := h.sidecar line rfl
    exact ⟨data, hplace ▸ hnode⟩

theorem Grasp.of_created (hc : settings.collision = .fail)
    (h : Created settings base here dir name place fs file) :
    Grasp dir name place base fs file none where
  package := ⟨h.opens.place_eq, [], h.opens.holds⟩
  sidecar := by simp
  fresh := fun q hq => hq.elim_none ▸ h.fresh hc
  others := fun q hq => h.opens.sameOff q fun heq => hq (Or.inl heq)

theorem Grasp.write {other : Handle} {offset : Nat} {bytes : Bytes} {now : Int}
    (h : Grasp dir name place base fs file line) (hother : other = file ∨ line = some other)
    (hfs : fs.write other offset bytes now = .ok fs') :
    Grasp dir name place base fs' file line := by
  have hsame := write_sameOff hfs
  have holds : ∀ {handle : Handle}, (∃ content, fs.Holds handle content) →
      handle = other ∨ handle.place ≠ other.place → ∃ content, fs'.Holds handle content := by
    rintro handle ⟨content, hcontent⟩ (rfl | hne)
    · exact ⟨_, hcontent.write hfs⟩
    · obtain ⟨data, hnode, hrest⟩ := hcontent
      exact ⟨content, data, by rw [hsame _ hne, hnode], hrest⟩
  have hclasped : Clasped place name line other.place := by
    rcases hother with rfl | rfl
    · exact Or.inl h.package.1
    · exact Or.inr ⟨rfl, (h.sidecar other rfl).1⟩
  refine ⟨⟨h.package.1, holds h.package.2 ?_⟩, fun line' hline => ?_, h.fresh, fun q hq => ?_⟩
  · rcases hother with rfl | hline
    · exact Or.inl rfl
    · rw [h.package.1, (h.sidecar other hline).1]
      exact Or.inr sidecar_ne_package.symm
  · obtain ⟨hplace, hholds, hrest⟩ := h.sidecar line' hline
    refine ⟨hplace, holds hholds ?_, hrest⟩
    rcases hother with rfl | hother
    · rw [hplace, h.package.1]
      exact Or.inr sidecar_ne_package
    · exact Or.inl (Option.some.inj (hline.symm.trans hother))
  · rw [hsame q (by rintro rfl; exact hq hclasped), h.others q hq]

theorem Grasp.opened {h : Handle} (hgrasp : Grasp dir name place base fs file none)
    (hr : refuse? (checksumPath (dir.join name)) = none)
    (hsize : (checksumName name).utf8ByteSize ≤ maxNameBytes)
    (hnone : fs.node? (place ++ [checksumName name]) = none)
    (hopens : Opens fs (place ++ [checksumName name]) fs' h) :
    Grasp dir name place base fs' file (some h) := by
  have hbase := hgrasp.others (place ++ [checksumName name]) fun hq =>
    sidecar_ne_package hq.elim_none
  obtain ⟨hplace, content, data, hnode, hrest⟩ := hgrasp.package
  refine ⟨⟨hplace, content, data, ?_, hrest⟩, ?_, ?_, fun q hq => ?_⟩
  · rw [hplace] at hnode ⊢
    rw [hopens.sameOff _ sidecar_ne_package.symm, hnode]
  · rintro h' ⟨⟩
    exact ⟨hopens.place_eq, ⟨[], hopens.holds⟩, hr, hsize⟩
  · rintro q (hq | ⟨-, rfl⟩)
    · exact hgrasp.fresh q (Or.inl hq)
    · rw [← hbase, hnone]
  · rw [hopens.sameOff q fun heq => hq (Or.inr ⟨rfl, heq⟩),
      hgrasp.others q fun hclasped => hq (Or.inl hclasped.elim_none)]

theorem Grasp.withdrawn {h : Handle} (hgrasp : Grasp dir name place base fs file (some h))
    (hsame : SameOff (place ++ [checksumName name]) fs fs')
    (hgone : fs'.node? (place ++ [checksumName name]) = none) :
    Grasp dir name place base fs' file none := by
  obtain ⟨hplace, content, data, hnode, hrest⟩ := hgrasp.package
  refine ⟨⟨hplace, content, data, ?_, hrest⟩, by simp, ?_, fun q hq => ?_⟩
  · rw [hplace] at hnode ⊢
    rw [hsame _ sidecar_ne_package.symm, hnode]
  · exact fun q hq => hgrasp.fresh q (Or.inl hq.elim_none)
  · by_cases hside : q = place ++ [checksumName name]
    · rw [hside, hgone, hgrasp.fresh _ (Or.inr ⟨rfl, rfl⟩)]
    · rw [hsame q hside, hgrasp.others q fun hclasped => ?_]
      rcases hclasped with hpack | ⟨-, hclasped⟩
      · exact hq (Or.inl hpack)
      · exact hside hclasped

/-- What can become of the files and of what is open. -/
inductive Grip.Performs (dir : Path) (name : String) (place : Location) (base : FileSystem)
    (file : Handle) (fs : FileSystem) : Grip → Prop
  | held {line : Option Handle} (grasp : Grasp dir name place base fs file line) :
    Performs dir name place base file fs (.held line)
  | ended (same : ∀ q, fs.node? q = base.node? q) : Performs dir name place base file fs .ended

theorem Grip.Takes.performs {g : Grip} {a : Action} {r : a.Reply} (hn : IsName name)
    (hmay : ∀ path, ¬ may (.remove path)) (hc : settings.collision = .fail)
    (hcreated : Created settings base w.machine.directory dir name place fs file)
    (hgrasp : Grasp dir name place base w.machine.files file line)
    (h : Grip.Takes (dir.join name) (checksumPath (dir.join name)) file (.held line) a r g)
    (hw : w.Answers runner may a r w') :
    w'.machine.directory = w.machine.directory ∧
      g.Performs dir name place base file w'.machine.files := by
  obtain ⟨up, hup, hside⟩ := checksumPath_join hn dir
  have hs := isName_checksumName hn
  have hreach := hcreated.reaches.keeps hgrasp.keeps
  have hchange := (hcreated.changeable hc).keeps hgrasp.keeps
  have hreliable : Reliable may w.machine.files place := ⟨hmay, hchange⟩
  -- One case for each action that the packaging can take with the package open.
  cases h with
  | asks asks =>
    rw [(hw.untouched asks).1]
    exact ⟨rfl, .held hgrasp⟩
  | fills =>
    obtain ⟨m, hm, rfl⟩ := hw
    rcases Machine.performs_write hm with ⟨-, rfl⟩ | ⟨kept, files, -, -, hfs, rfl⟩
    · exact ⟨rfl, .held hgrasp⟩
    · exact ⟨rfl, .held (hgrasp.write (Or.inl rfl) hfs)⟩
  | records =>
    obtain ⟨m, hm, rfl⟩ := hw
    rcases Machine.performs_write hm with ⟨-, rfl⟩ | ⟨kept, files, -, -, hfs, rfl⟩
    · exact ⟨rfl, .held hgrasp⟩
    · exact ⟨rfl, .held (hgrasp.write (Or.inr rfl) hfs)⟩
  | collides =>
    obtain ⟨m, hm, rfl⟩ := hw
    rcases Machine.performs_openWrite hm with ⟨-, rfl⟩ | ⟨files, line, hok, -⟩
    · exact ⟨rfl, .held hgrasp⟩
    · simp at hok
  | opens =>
    obtain ⟨m, hm, rfl⟩ := hw
    rcases Machine.performs_openWrite hm with ⟨⟨e, he⟩, -⟩ | ⟨files, line, hok, hfs, rfl⟩
    · simp at he
    · obtain rfl := Except.ok.inj hok
      rw [hside] at hfs
      obtain ⟨hr, hsize, other, hother, -, hnone, hopens⟩ := openFresh_join hs hfs
      obtain rfl := ((reaches_sameWay hup).mp hother).unique hreach
      exact ⟨rfl, .held (hgrasp.opened (hside ▸ hr) hsize hnone hopens)⟩
  | withdraws =>
    obtain ⟨m, hm, rfl⟩ := hw
    rw [hside] at hm
    obtain ⟨hplace, ⟨content, hholds⟩, hr, hsize⟩ := hgrasp.sidecar _ rfl
    obtain ⟨htouches, hgone⟩ := performs_remove_holds hs ((reaches_sameWay hup).mpr hreach)
      (hside ▸ hr) hsize hholds hplace hm
    exact ⟨(Machine.performs_stays hm trivial).directory,
      .held (hgrasp.withdrawn htouches.sameOff (hgone hreliable))⟩
  | drops =>
    obtain ⟨m, hm, rfl⟩ := hw
    obtain ⟨hplace, content, hholds⟩ := hgrasp.package
    obtain ⟨htouches, hgone⟩ := performs_remove_holds hn hreach hcreated.refused hcreated.size
      hholds hplace hm
    refine ⟨(Machine.performs_stays hm trivial).directory, .ended fun q => ?_⟩
    by_cases hq : q = place ++ [name]
    · subst hq
      rw [hgone hreliable, hcreated.fresh hc]
    · rw [htouches.sameOff q hq, hgrasp.others q fun hclasped => hq hclasped.elim_none]

end Grasp

/-! ## Who made what -/

section Makers

variable {base : FileSystem} {line line' : Option Handle} {who : Nat} {deeds : List Deed}

/-- What is clasped was made by `who`. -/
def MadeBy (place : Location) (name : String) (line : Option Handle) (deeds : List Deed)
    (who : Nat) : Prop :=
  ∀ q, Clasped place name line q → makerOf deeds q = some who

theorem MadeBy.unchanged {other : Nat} (h : MadeBy place name line deeds who) :
    MadeBy place name line (⟨other, fs, fs⟩ :: deeds) who :=
  fun q hq => makerOf_unchanged.trans (h q hq)

theorem Grasp.owns (h : Grasp dir name place base fs file line)
    (hmade : MadeBy place name line deeds who)
    (hbase : ∀ q node, base.node? q = some node → fs'.node? q = some node) :
    Deed.Owns ⟨who, fs, fs'⟩ deeds := by
  intro q node hbefore hafter
  by_cases hq : Clasped place name line q
  · exact hmade q hq
  · exact absurd (hbase q node (h.others q hq ▸ hbefore)) hafter

theorem Grasp.madeBy (h : Grasp dir name place base fs file line)
    (h' : Grasp dir name place base fs' file line') (hmade : MadeBy place name line deeds who) :
    MadeBy place name line' (⟨who, fs, fs'⟩ :: deeds) who := by
  intro q hq'
  obtain ⟨data', hafter⟩ := h'.there hq'
  by_cases hq : Clasped place name line q
  · obtain ⟨data, hbefore⟩ := h.there hq
    rw [makerOf_of_some (by simp [hbefore])]
    exact hmade q hq
  · exact makerOf_of_new ((h.others q hq).trans (h'.fresh q hq')) (by simp [hafter])

theorem Grasp.kept {q : Location} {node : Node} (h : Grasp dir name place base fs file line)
    (hq : base.node? q = some node) : fs.node? q = some node := by
  rw [h.others q fun hclasped => ?_, hq]
  simp [h.fresh q hclasped] at hq

end Makers

/-! ## Packagings of one package -/

/-- A call that packages a binary of its own. -/
structure Job where
  settings : Settings
  verified : VerifiedArtifact

namespace Job

def program (job : Job) : Program (Except PackagingError Package) :=
  (package job.settings job.verified).run

/-- The call writes this package under the policy to fail. Its product's name is not an absolute
path. -/
structure Targets (job : Job) (package : Path) : Prop where
  policy : job.settings.collision = .fail
  path : packagePath job.settings job.verified.artifact.request = package
  relative : ¬ Path.isAbsolute ⟨job.settings.product⟩

/-- How a packaging goes on once its package was opened or could not be. -/
def resume (job : Job) : Except PackagingError (Bool × Handle × Handle) →
    Program (Except PackagingError Package)
  | .ok opened => (finishPackage job.settings job.verified opened).run
  | .error e => pure (.error e)

theorem program_eq (job : Job) :
    job.program = (openPackage job.settings job.verified).run.bind job.resume := by
  unfold program
  rw [package_opened, ExceptT.run_bind]
  refine congrArg (Program.bind _) (funext fun r => ?_)
  cases r <;> rfl

/-- The call has nothing open: it has not opened its package, or has removed it again. -/
inductive Bides (job : Job) (start : FileSystem) (here : Location) (package : Path) :
    Program (Except PackagingError Package) → Prop
  | waits {s : Stand} {q : Program (Except PackagingError (Bool × Handle × Handle))}
    {p : Program (Except PackagingError Package)} (program : p = q.bind job.resume)
    (follows : q.Follows
      (Stand.Takes job.settings.packagesDir job.verified.artifact.path package) Stand.Ends s)
    (knows : s.Knows start here job.verified.artifact.path) : Bides job start here package p
  | ended {file : Handle} {p : Program (Except PackagingError Package)}
    (follows : p.Follows (Grip.Takes package (checksumPath package) file) Grip.Ends .ended) :
    Bides job start here package p

variable {job : Job} {start : FileSystem} {package : Path}
  {p : Program (Except PackagingError Package)}

theorem Bides.fails {r : Except PackagingError Package}
    (h : job.Bides start here package (.done r)) : ∃ e, r = .error e := by
  cases h with
  | @waits s q _ program follows knows =>
    cases q with
    | ask action next => simp [Program.bind] at program
    | done x =>
      obtain ⟨e, rfl⟩ := Stand.Ends.fails follows knows
      exact ⟨e, Program.done.inj program⟩
  | ended follows => exact follows

/-- A call that had nothing open changes nothing, makes a directory, or opens its package. -/
inductive Moves (job : Job) (start : FileSystem) (package : Path) (m m' : Machine) :
    Program (Except PackagingError Package) → Prop
  | looks {p : Program (Except PackagingError Package)} (same : m' = m)
    (bides : job.Bides start m.directory package p) : Moves job start package m m' p
  | makes {path : Path} {files : FileSystem} {p : Program (Except PackagingError Package)}
    (above : path ∈ lineage job.settings.packagesDir)
    (made : m.files.makeDirectory m.directory path = .ok files) (machine : m' = { m with files })
    (bides : job.Bides start m.directory package p) : Moves job start package m m' p
  | opens {replaced : Bool} {binary file : Handle} {files : FileSystem}
    (tracks : HandleOf start m.directory job.verified.artifact.path binary)
    (opened : m.files.openFresh m.directory package m.now = .ok (files, file))
    (machine : m' = { m with files }) {p : Program (Except PackagingError Package)}
    (program : p = (finishPackage job.settings job.verified (replaced, binary, file)).run) :
    Moves job start package m m' p

theorem Bides.moves {action : Action} {reply : action.Reply}
    {next : action.Reply → Program (Except PackagingError Package)}
    (h : job.Bides start w.machine.directory package (.ask action next))
    (hstart : ∀ q node, start.node? q = some node → w.machine.files.node? q = some node)
    (hw : w.Answers runner may action reply w') :
    job.Moves start package w.machine w'.machine (next reply) := by
  cases h with
  | ended follows =>
    obtain ⟨g, htakes, hnext⟩ := follows reply
    cases htakes with
    | asks asks => exact .looks (hw.untouched asks).1 (.ended hnext)
  | @waits s q _ program follows knows =>
    cases q with
    | done x =>
      obtain ⟨e, rfl⟩ := Stand.Ends.fails follows knows
      simp [Program.bind, resume] at program
    | ask action' next' =>
      obtain ⟨rfl, hnext⟩ := Program.ask.inj program
      obtain rfl := eq_of_heq hnext
      obtain ⟨s', htakes, hfollows⟩ := follows reply
      cases htakes.performs knows hstart hw with
      | looks same knows' => exact .looks same (.waits rfl hfollows knows')
      | makes above made machine knows' =>
        exact .makes above made machine (.waits rfl hfollows knows')
      | @opens binary file files tracks opened machine =>
        cases hq : next' reply with
        | ask other _ =>
          -- Nothing more is asked for.
          rw [hq] at hfollows
          obtain ⟨s'', hmore, -⟩ := hfollows (w.reply runner other).1
          cases hmore with
          | asks _ closed => exact absurd rfl (closed _ _)
        | done x =>
          rw [hq] at hfollows
          obtain ⟨replaced, rfl⟩ := hfollows
          exact .opens tracks opened machine (congrArg (Program.bind · job.resume) hq)

end Job

/-! ## One at a time -/

/-- The directories for the packages of the calls. -/
def packagesDirs (jobs : List Job) : List Path := jobs.map (·.settings.packagesDir)

section Guarded

variable (runner : Runner σ) (may : Refusals) (jobs : List Job) (start : FileSystem)
  (here : Location) (dir : Path) (name : String)

/-- Job `who` has its package open, and has come to the program `p` as if it were alone since it
opened it in the world `v`. -/
inductive Held (deeds : List Deed) (m : Machine) (who : Nat)
    (p : Program (Except PackagingError Package)) : Prop
  | intro {job : Job} {place : Location} {base : FileSystem} {opened : Bool × Handle × Handle}
    {line : Option Handle} {v v' : World σ} (listed : jobs[who]? = some job)
    (paved : Paved here (packagesDirs jobs) start base)
    (tracks : HandleOf start here job.verified.artifact.path opened.2.1)
    (created : Created job.settings base here dir name place v.machine.files opened.2.2)
    (directory : v.machine.directory = here)
    (grasp : Grasp dir name place base m.files opened.2.2 line)
    (made : MadeBy place name line deeds who)
    (follows : p.Follows
      (Grip.Takes (dir.join name) (checksumPath (dir.join name)) opened.2.2) Grip.Ends (.held line))
    (machine : v'.machine = m)
    (runs : ∀ r v'', v'.Runs runner may p r v'' →
      v.Runs runner may (finishPackage job.settings job.verified opened).run r v'')

/-- At most one of the calls has its package open. The others have nothing open. -/
structure Guarded (deeds : List Deed) (c : Crowd σ (Except PackagingError Package))
    (holder : Option Nat) : Prop where
  directory : c.world.machine.directory = here
  others : ∀ i p, holder ≠ some i → c.calls[i]? = some p → ∃ job, jobs[i]? = some job ∧
    job.Bides start here (dir.join name) p
  free : holder = none → Paved here (packagesDirs jobs) start c.files
  held : ∀ i, holder = some i → ∃ p, c.calls[i]? = some p ∧
    Held runner may jobs start here dir name deeds c.world.machine i p

end Guarded

section Turns

variable {jobs : List Job} {start : FileSystem} {deeds : List Deed}
  {c c' : Crowd σ (Except PackagingError Package)} {holder : Option Nat} {who : Nat}

theorem mem_packagesDirs {job : Job} (h : jobs[who]? = some job) :
    job.settings.packagesDir ∈ packagesDirs jobs :=
  List.mem_map.mpr ⟨job, List.mem_of_getElem? h, rfl⟩

theorem Guarded.kept (h : Guarded runner may jobs start here dir name deeds c holder) :
    ∀ q node, start.node? q = some node → c.files.node? q = some node := by
  intro q node hq
  cases holder with
  | none => exact (h.free rfl).grows.keep hq
  | some i =>
    obtain ⟨p, -, hheld⟩ := h.held i rfl
    cases hheld with
    | intro listed paved tracks created directory grasp made follows machine runs =>
      exact grasp.kept (paved.grows.keep hq)

/-- Who has nothing open still has nothing open when another one took a turn. -/
theorem Guarded.rest (h : Guarded runner may jobs start here dir name deeds c holder) {i : Nat}
    {p p' : Program (Except PackagingError Package)} (hi : i ≠ who) (hholder : holder ≠ some i)
    (hp : (c.calls.set who p')[i]? = some p) :
    ∃ job, jobs[i]? = some job ∧ job.Bides start here (dir.join name) p :=
  h.others i p hholder (by rwa [List.getElem?_set_ne hi.symm] at hp)

theorem Guarded.rest_set (h : Guarded runner may jobs start here dir name deeds c holder) {i : Nat}
    {job : Job} {p p' : Program (Except PackagingError Package)} (hlt : who < c.calls.length)
    (listed : jobs[who]? = some job) (bides : job.Bides start here (dir.join name) p')
    (hholder : i ≠ who → holder ≠ some i) (hp : (c.calls.set who p')[i]? = some p) :
    ∃ job, jobs[i]? = some job ∧ job.Bides start here (dir.join name) p := by
  by_cases hi : i = who
  · subst hi
    rw [List.getElem?_set_self hlt] at hp
    obtain rfl := Option.some.inj hp
    exact ⟨job, listed, bides⟩
  · exact h.rest hi (hholder hi) hp

theorem Guarded.holder_turn (hn : IsName name) (hmay : ∀ path, ¬ may (.remove path))
    (hjobs : ∀ job ∈ jobs, job.Targets (dir.join name))
    (h : Guarded runner may jobs start here dir name deeds c (some who))
    (hs : c.Steps runner may who c') :
    Deed.Owns ⟨who, c.files, c'.files⟩ deeds ∧ ∃ holder,
      Guarded runner may jobs start here dir name (⟨who, c.files, c'.files⟩ :: deeds) c'
        holder := by
  obtain ⟨p, hp, hheld⟩ := h.held who rfl
  obtain rfl := h.directory
  cases hs with
  | @step action next reply world turn answers =>
    obtain rfl := Option.some.inj (hp.symm.trans turn)
    obtain ⟨hlt, -⟩ := List.getElem?_eq_some_iff.mp hp
    cases hheld with
    | @intro job place base opened line v v' listed paved tracks created directory grasp made
        follows machine runs =>
      have hc := (hjobs job (List.mem_of_getElem? listed)).policy
      obtain ⟨g, htakes, hnext⟩ := follows reply
      obtain ⟨hdir, hperforms⟩ := htakes.performs hn hmay hc created grasp answers
      have hbase : ∀ q node, base.node? q = some node →
          world.machine.files.node? q = some node := by
        intro q node hq
        cases hperforms with
        | held grasp' => exact grasp'.kept hq
        | ended same => rw [same, hq]
      refine ⟨grasp.owns made hbase, ?_⟩
      cases hperforms with
      | held grasp' =>
        obtain ⟨v₁, hanswers, hmachine⟩ := answers.elsewhere htakes.startsNothing machine
        refine ⟨some who, hdir, fun i p hi hp => ?_, by simp, ?_⟩
        · exact h.rest (by rintro rfl; exact hi rfl) hi hp
        · rintro i ⟨⟩
          exact ⟨next reply, List.getElem?_set_self hlt, .intro listed paved tracks created
            directory grasp' (grasp.madeBy grasp' made) hnext hmachine
            fun r v₂ hrun => runs r v₂ ⟨reply, v₁, hanswers, hrun⟩⟩
      | ended same =>
        refine ⟨none, hdir, fun i p _ hp => ?_, fun _ => .same paved same, by simp⟩
        exact h.rest_set hlt listed (.ended hnext) (fun hi => by simpa using hi.symm) hp

theorem Held.stands {m : Machine} {p : Program (Except PackagingError Package)}
    (h : Held runner may jobs start here dir name deeds m who p) :
    ∃ place, m.files.Reaches here dir place ∧ m.files.node? (place ++ [name]) ≠ none := by
  cases h with
  | @intro job place base opened line v v' listed paved tracks created directory grasp made follows
      machine runs =>
    obtain ⟨data, hdata⟩ := grasp.there (Or.inl rfl)
    exact ⟨place, created.reaches.keeps grasp.keeps, by simp [hdata]⟩

theorem Held.unchanged {m : Machine} {p : Program (Except PackagingError Package)} {other : Nat}
    (h : Held runner may jobs start here dir name deeds m who p) :
    Held runner may jobs start here dir name (⟨other, fs, fs⟩ :: deeds) m who p := by
  cases h with
  | intro listed paved tracks created directory grasp made follows machine runs =>
    exact .intro listed paved tracks created directory grasp made.unchanged follows machine
      runs

theorem Guarded.opens {job : Job} (v : World σ) (opened : Bool × Handle × Handle)
    (hn : IsName name) (h : Guarded runner may jobs start here dir name deeds c none)
    (hlt : who < c.calls.length) (listed : jobs[who]? = some job)
    (targets : job.Targets (dir.join name))
    (tracks : HandleOf start here job.verified.artifact.path opened.2.1)
    (hdir : v.machine.directory = here)
    (hopen : c.files.openFresh here (dir.join name) c.world.machine.now =
      .ok (v.machine.files, opened.2.2)) :
    Deed.Owns ⟨who, c.files, v.machine.files⟩ deeds ∧
      Guarded runner may jobs start here dir name (⟨who, c.files, v.machine.files⟩ :: deeds)
        ⟨v, c.calls.set who (finishPackage job.settings job.verified opened).run⟩ (some who) := by
  obtain ⟨hr, hsize, place, hreach, hchange, hnone, hopens⟩ := openFresh_join hn hopen
  obtain ⟨hc, hpath, -⟩ := targets
  have hcreated : Created job.settings c.files here dir name place v.machine.files opened.2.2 :=
    ⟨hreach, hr, hsize, Or.inl hnone, fun _ => hnone, fun _ => hchange, hopens⟩
  have hgrasp := Grasp.of_created hc hcreated
  refine ⟨Deed.owns_of_kept fun q node => hgrasp.kept, hdir, fun i p hi hp => ?_, by simp, ?_⟩
  · exact h.rest (by rintro rfl; exact hi rfl) (by simp) hp
  · rintro i ⟨⟩
    refine ⟨_, List.getElem?_set_self hlt, .intro listed (h.free rfl) tracks hcreated hdir
      hgrasp (fun q hq => ?_) (finishPackage_follows hc hpath opened.1) rfl fun r v₁ hrun => hrun⟩
    obtain rfl := hq.elim_none
    obtain ⟨data, hdata⟩ := hgrasp.there hq
    exact makerOf_of_new hnone (by simp [hdata])

theorem Guarded.other_turn (hn : IsName name)
    (hjobs : ∀ job ∈ jobs, job.Targets (dir.join name)) (hother : holder ≠ some who)
    (h : Guarded runner may jobs start here dir name deeds c holder)
    (hs : c.Steps runner may who c') :
    Deed.Owns ⟨who, c.files, c'.files⟩ deeds ∧ ∃ holder',
      Guarded runner may jobs start here dir name (⟨who, c.files, c'.files⟩ :: deeds) c'
        holder' := by
  obtain rfl := h.directory
  cases hs with
  | @step action next reply world turn answers =>
    obtain ⟨hlt, -⟩ := List.getElem?_eq_some_iff.mp turn
    obtain ⟨job, listed, hbides⟩ := h.others who _ hother turn
    have htargets := hjobs job (List.mem_of_getElem? listed)
    have hmoves := hbides.moves h.kept answers
    obtain ⟨machine, left, started, messages, lines⟩ := world
    cases hmoves with
    | looks same bides =>
      subst same
      refine ⟨Deed.owns_of_kept fun _ _ => id, holder, rfl, fun i p hi hp => ?_, h.free,
        fun i hi => ?_⟩
      · exact h.rest_set hlt listed bides (fun _ => hi) hp
      · obtain ⟨p, hp, hheld⟩ := h.held i hi
        refine ⟨p, ?_, hheld.unchanged⟩
        rwa [List.getElem?_set_ne (by rintro rfl; exact hother hi)]
    | makes above made machine bides =>
      subst machine
      cases holder with
      | some i =>
        -- The way to the open package is there, and the directory would be on it.
        obtain ⟨p, -, hheld⟩ := h.held i rfl
        obtain ⟨place, hreach, -⟩ := hheld.stands
        obtain ⟨habs, hsteps⟩ := stepsOf_lineage above
        obtain ⟨habs', hsteps'⟩ := above_package hn htargets.relative htargets.path
        exact absurd made (hreach.not_made (habs.trans habs') (hsteps.trans hsteps'))
      | none =>
        have hgrows := grows_of_makeDirectory made
        refine ⟨Deed.owns_of_kept fun q node => hgrows.keep, none, rfl, fun i p hi hp => ?_,
          fun _ => (h.free rfl).made (mem_packagesDirs listed) above made, by simp⟩
        exact h.rest_set hlt listed bides (fun _ => hi) hp
    | @opens replaced binary file files tracks hopen machine _ program =>
      subst machine
      rw [program]
      cases holder with
      | some i =>
        obtain ⟨p, -, hheld⟩ := h.held i rfl
        obtain ⟨place, hreach, hthere⟩ := hheld.stands
        obtain ⟨-, -, other, hother, -, hnone, -⟩ := openFresh_join hn hopen
        exact absurd (hother.unique hreach ▸ hnone) hthere
      | none =>
        obtain ⟨howns, hguarded⟩ := Guarded.opens
          ⟨{ c.world.machine with files }, left, started, messages, lines⟩ (replaced, binary, file)
          hn h hlt listed htargets tracks rfl hopen
        exact ⟨howns, _, hguarded⟩

theorem Crowd.Goes.guarded (hn : IsName name) (hmay : ∀ path, ¬ may (.remove path))
    (hjobs : ∀ job ∈ jobs, job.Targets (dir.join name))
    (hstart : Guarded runner may jobs start here dir name [] c none)
    (h : c.Goes runner may deeds c') :
    Owned deeds ∧ ∃ holder, Guarded runner may jobs start here dir name deeds c' holder := by
  induction h with
  | start => exact ⟨trivial, none, hstart⟩
  | @turn who deeds c' c'' _ steps ih =>
    obtain ⟨howned, holder, hguarded⟩ := ih
    by_cases hwho : holder = some who
    · subst hwho
      obtain ⟨howns, hnext⟩ := hguarded.holder_turn hn hmay hjobs steps
      exact ⟨⟨howns, howned⟩, hnext⟩
    · obtain ⟨howns, hnext⟩ := hguarded.other_turn hn hjobs hwho steps
      exact ⟨⟨howns, howned⟩, hnext⟩

/-- The calls, none of which has begun. -/
def Crowd.ofJobs (w : World σ) (jobs : List Job) : Crowd σ (Except PackagingError Package) :=
  ⟨w, jobs.map Job.program⟩

theorem guarded_ofJobs (hjobs : ∀ job ∈ jobs, job.Targets (dir.join name)) :
    Guarded runner may jobs w.machine.files w.machine.directory dir name [] (.ofJobs w jobs)
      none := by
  refine ⟨rfl, fun i p _ hp => ?_, fun _ => .start, by simp⟩
  unfold Crowd.ofJobs at hp
  rw [List.getElem?_map, Option.map_eq_some_iff] at hp
  obtain ⟨job, listed, rfl⟩ := hp
  obtain ⟨hc, hpath, -⟩ := hjobs job (List.mem_of_getElem? listed)
  exact ⟨job, listed, .waits job.program_eq (openPackage_follows hc hpath) trivial⟩

/-- What a call has reported of its package is true. -/
structure Stored (job : Job) (start : FileSystem) (m : Machine) (made : Package) : Prop where
  path : made.path = packagePath job.settings job.verified.artifact.request
  name : made.name = job.verified.artifact.request.platform.packageName job.settings.product
  package : ∃ place data, m.files.findNode m.directory made.path = .ok (place, .file data) ∧
    (∀ origin node, start.findNode m.directory job.verified.artifact.path = .ok (origin, node) →
      ArchivedFrom (job.verified.artifact.request.os.executable job.settings.product) (some node)
        data.content) ∧
    made.size = data.content.length ∧
    made.sha256 =
      (if job.settings.checksum then some (ContentHash.ofBytes data.content) else none) ∧
    made.checksumPath = (if job.settings.checksum then some (checksumPath made.path) else none) ∧
    (job.settings.checksum = true → ∃ place line,
      m.files.findNode m.directory (checksumPath made.path) = .ok (place, .file line) ∧
        line.content = Utf8.encode ((ContentHash.ofBytes data.content).checksumLine made.name))

theorem Held.stored {m : Machine} {made : Package} (hn : IsName name) (hdir : m.directory = here)
    (hjobs : ∀ job ∈ jobs, job.Targets (dir.join name))
    (h : Held runner may jobs start here dir name deeds m who (.done (.ok made))) :
    ∃ job, jobs[who]? = some job ∧ Stored job start m made := by
  subst hdir
  cases h with
  | @intro job place base opened line v v' listed paved tracks created directory grasp _
      follows machine runs =>
    refine ⟨job, listed, ?_⟩
    obtain ⟨hc, hpath, -⟩ := hjobs job (List.mem_of_getElem? listed)
    cases runs_finishPackage_cases (runs _ _ ⟨rfl, rfl⟩) with
    | @made size written w₁ _ hfill hmachine =>
      rw [hpath] at hfill
      have hreach := created.reaches.keeps created.touches.keeps
      rw [← directory] at hreach
      obtain ⟨content, hholds, harchived, hkeeps, hreported⟩ :=
        runs_fillPackage_reported hn hreach created.refused created.size created.opens.holds
          created.opens.place_eq (fun _ hover => by simp [hc] at hover) hfill
      have hreach' := hreach.keeps hkeeps
      rw [← hreported.directory] at hreach'
      obtain ⟨data, hfind, -, rfl⟩ := findNode_of_holds hn hreach' created.refused created.size hholds
        created.opens.place_eq
      rw [← hmachine, machine] at hfind hreported
      refine ⟨rfl, rfl, _, data, by rw [hpath]; exact hfind, fun origin node hthere => ?_,
        hreported.size_eq, ?_, ?_, fun hsum => ?_⟩
      · have hbase := paved.grows.keep (node?_of_findNode hthere)
        have horigin : origin ≠ place ++ [name] := by
          rintro rfl
          simp [created.fresh hc] at hbase
        have hopen : v.machine.files.openNode? opened.2.1 = some node := by
          rw [tracks origin node hthere]
          unfold openNode?
          rw [created.opens.sameOff _ horigin, hbase]
          simp
        exact hopen ▸ harchived.archivedFrom
      · rw [hreported.written_eq]
        cases job.settings.checksum <;> rfl
      · rw [hreported.written_eq, hpath]
        cases job.settings.checksum <;> rfl
      · obtain ⟨line, hline, hcontent⟩ := hreported.recorded hsum
        exact ⟨_, line, by rw [hpath]; exact hline, hcontent⟩

/-- What holds of calls that package at the same time, whoever's turn it was. -/
structure Orderly (jobs : List Job) (target : Path) (m : Machine) (deeds : List Deed)
    (c : Crowd σ (Except PackagingError Package)) : Prop where
  owned : Owned deeds
  kept : ∀ q node, m.files.node? q = some node → c.files.node? q = some node
  once : ∀ (i j : Nat) made made', c.calls[i]? = some (.done (.ok made)) →
    c.calls[j]? = some (.done (.ok made')) → i = j
  stored : ∀ (i : Nat) made, c.calls[i]? = some (.done (.ok made)) →
    ∃ job, jobs[i]? = some job ∧ Stored job m.files c.world.machine made
  undone : (∀ p ∈ c.calls, ∃ e, p = Program.done (.error e)) →
    c.files.exists? c.world.machine.directory target = false ∧
      Paved m.directory (packagesDirs jobs) m.files c.files

/-- Packagings of one package at the same time, under the policy to fail: at most one succeeds, and
what it reports is true. When none does, only directories are left. -/
theorem packages_race_safely {target : Path} (hmay : ∀ path, ¬ may (.remove path))
    (hjobs : ∀ job ∈ jobs, job.Targets target)
    (habsent : ∀ fs, Paved w.machine.directory (packagesDirs jobs) w.machine.files fs →
      fs.exists? w.machine.directory target = false)
    (h : (Crowd.ofJobs w jobs).Goes runner may deeds c) :
    Orderly jobs target w.machine deeds c := by
  rcases jobs with _ | ⟨job, rest⟩
  · obtain ⟨rfl, rfl⟩ := h.of_nobody rfl
    exact ⟨trivial, fun _ _ => id, by simp [Crowd.ofJobs], by simp [Crowd.ofJobs],
      fun _ => ⟨habsent _ .start, .start⟩⟩
  obtain ⟨dir, name, hn, hpath⟩ :=
    exists_packagePath_join job.settings job.verified.artifact.request
  obtain rfl := hpath.symm.trans (hjobs job List.mem_cons_self).path
  obtain ⟨howned, holder, hguarded⟩ := h.guarded hn hmay hjobs (guarded_ofJobs hjobs)
  have hholder : ∀ (i : Nat) made, c.calls[i]? = some (.done (.ok made)) → holder = some i := by
    intro i made hi
    by_contra hother
    obtain ⟨job, -, hbides⟩ := hguarded.others i _ hother hi
    obtain ⟨e, he⟩ := hbides.fails
    simp at he
  refine ⟨howned, hguarded.kept, fun i j made made' hi hj => ?_, fun i made hi => ?_,
    fun hall => ?_⟩
  · exact Option.some.inj ((hholder i made hi).symm.trans (hholder j made' hj))
  · obtain ⟨p, hp, hheld⟩ := hguarded.held i (hholder i made hi)
    obtain rfl := Option.some.inj (hi.symm.trans hp)
    exact hheld.stored hn hguarded.directory hjobs
  · cases holder with
    | none =>
      have hpaved := hguarded.free rfl
      exact ⟨hguarded.directory ▸ habsent _ hpaved, hpaved⟩
    | some i =>
      obtain ⟨p, hp, hheld⟩ := hguarded.held i rfl
      obtain ⟨e, rfl⟩ := hall p (List.mem_of_getElem? hp)
      cases hheld with
      | intro listed paved tracks created directory grasp made follows machine runs =>
        obtain ⟨made, hmade⟩ := follows
        simp at hmade

end Turns

/-! ## Two calls for the packaged project -/

/-- The calls package the same binary. One of them asks for a checksum file, the other one names
the directory with a separator at its end. -/
def rivalJobs : List Job :=
  [⟨rootSettings ["work"] .fail true, unpackagedBinary⟩,
    ⟨packagedSettings "/work/packages/" false, unpackagedBinary⟩]

/-- The package of both calls. -/
def rivalTarget : Path :=
  packagePath (rootSettings ["work"] .fail true) unpackagedBinary.artifact.request

theorem rivalJobs_targets : ∀ job ∈ rivalJobs, job.Targets rivalTarget := by
  unfold rivalJobs
  simp only [List.forall_mem_cons, List.not_mem_nil, false_imp_iff, implies_true, and_true]
  exact ⟨⟨rfl, rfl, by decide⟩, rfl, by decide +kernel, by decide⟩

theorem rivalTarget_absent {fs : FileSystem} (h : Paved takenWorld.machine.directory
    (packagesDirs rivalJobs) takenWorld.machine.files fs) :
    fs.exists? takenWorld.machine.directory rivalTarget = false := by
  have habove : ∀ top ∈ packagesDirs rivalJobs,
      top.isAbsolute = (rootSettings ["work"] .fail true).packagesDir.isAbsolute ∧
        stepsOf top <+: stepsOf (rootSettings ["work"] .fail true).packagesDir := by
    decide +kernel
  have hnone : takenWorld.machine.files.exists? takenWorld.machine.directory rivalTarget
      = false := by
    decide +kernel
  unfold rivalTarget packagePath at hnone ⊢
  exact (h.exists? (isName_package _) takenWorld_tree (by decide +kernel) habove).trans hnone

/-- The first call succeeds, so the second one does not. -/
theorem rival_package_collides :
    ∃ deeds c made e, (Crowd.ofJobs takenWorld rivalJobs).Goes idleRunner Refusals.never deeds c ∧
      c.calls = [.done (.ok made), .done (.error e)] ∧
      Orderly rivalJobs rivalTarget takenWorld.machine deeds c := by
  obtain ⟨made, w₁, hfirst⟩ := unpackagedBinary_packs .fail true
  obtain ⟨r, w₂, hsecond⟩ : ∃ r w₂, w₁.Runs idleRunner Refusals.never
      (package (packagedSettings "/work/packages/" false) unpackagedBinary).run r w₂ :=
    ⟨_, _, runs_run _ _ _ _⟩
  obtain ⟨deeds, hgoes⟩ := (Crowd.ofJobs takenWorld rivalJobs).goes_of_runs
    (show _ = some (package (rootSettings ["work"] .fail true) unpackagedBinary).run from
      List.getElem?_cons_zero) hfirst
  obtain ⟨later, hmore⟩ := Crowd.goes_of_runs (c := ⟨w₁, _⟩)
    (show [Program.done (.ok made), _][1]? = some _ from rfl) hsecond
  have horderly := packages_race_safely (fun _ => id) rivalJobs_targets
    (fun _ => rivalTarget_absent) (hgoes.trans hmore)
  cases r with
  | ok made' => simpa using horderly.once 0 1 made made' rfl rfl
  | error e => exact ⟨_, _, made, e, hgoes.trans hmore, rfl, horderly⟩

/-- A directory of packages whose path leads through the package leaves a directory there, although
nothing was there and no call succeeded. -/
theorem failed_race_leaves_directory :
    let job : Job := ⟨packagedSettings "p/fxml_linux_amd64.tar.gz/.." true, packagedBinary⟩
    let target := packagePath job.settings job.verified.artifact.request
    takenWorld.machine.files.exists? takenWorld.machine.directory target = false ∧
    takenWorld.machine.files.exists? takenWorld.machine.directory (checksumPath target) = false ∧
    ∃ deeds c e, (Crowd.ofJobs takenWorld [job]).Goes idleRunner Refusals.never deeds c ∧
      c.calls = [.done (.error e)] ∧
      c.files.exists? c.world.machine.directory target = true := by
  intro job target
  refine ⟨by decide +kernel, by decide +kernel, ?_⟩
  obtain ⟨w', hrun, hthere⟩ : ∃ w', takenWorld.Runs idleRunner Refusals.never job.program
      (.error (.packageExists target)) w' ∧
        w'.machine.files.exists? w'.machine.directory target = true :=
    ⟨_, runs_of_run_eq (by decide +kernel), by decide +kernel⟩
  obtain ⟨deeds, hgoes⟩ := (Crowd.ofJobs takenWorld [job]).goes_of_runs
    (show _ = some job.program from List.getElem?_cons_zero) hrun
  exact ⟨deeds, _, _, hgoes, rfl, hthere⟩

end Slipway
