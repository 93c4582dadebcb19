import Mathlib.Data.List.Infix
import Slipway.Proofs.Lineage
import Slipway.Release.Packaging

/-!
# The files that packaging writes

The names of a package and its checksum file, and what opening one of them for writing, filling it
and removing it again do to the directory of packages. A product may be called by any text, also by
one that looks like the rest of a name: its package still tells product and platform apart, since
the platform is read off the end.
-/

namespace Slipway

open FileSystem World

/-! ## Names -/

theorem isName_append {front back : String} (hf : '/' ∉ front.toList) (hb : '/' ∉ back.toList)
    (hlen : 2 < back.toList.length) : IsName (front ++ back) := by
  have hlong : 2 < (front ++ back).toList.length := by
    rw [String.toList_append, List.length_append]
    omega
  refine ⟨?_, ?_, ?_, ?_⟩
  · intro h; rw [h] at hlong; simp at hlong
  · intro h; rw [h] at hlong; simp at hlong
  · intro h; rw [h] at hlong; simp at hlong
  · rw [String.toList_append, List.mem_append]
    exact not_or.mpr ⟨hf, hb⟩

theorem isName_packageName {product : String} (h : '/' ∉ product.toList) (p : Platform) :
    IsName (p.packageName product) := by
  unfold Platform.packageName
  rw [String.append_assoc, String.append_assoc]
  obtain ⟨os, arch⟩ := p
  refine isName_append h ?_ ?_ <;> cases os <;> cases arch <;> decide

theorem isName_checksumName {name : String} (h : IsName name) : IsName (checksumName name) :=
  isName_append h.no_separator (by decide) (by decide)

theorem isName_executable {stem : String} (h : IsName stem) (os : Os) :
    IsName (os.executable stem) := by
  unfold Os.executable
  cases os with
  | windows => exact isName_append h.no_separator (by decide) (by decide)
  | linux => simpa [Os.executableSuffix] using h
  | darwin => simpa [Os.executableSuffix] using h

theorem checksumName_ne (name : String) : checksumName name ≠ name := by
  intro h
  have hlen := congrArg (fun s => s.toList.length) h
  simp [checksumName] at hlen

theorem checksumPath_join {name : String} (hn : IsName name) (dir : Path) :
    ∃ up : Path, up.SameWay dir ∧ checksumPath (dir.join name) = up.join (checksumName name) := by
  obtain ⟨hfile, -⟩ := hn.parent?_join dir
  obtain ⟨up, hsame, hjoin⟩ := hn.withFileName_join dir
  refine ⟨up, hsame, ?_⟩
  unfold checksumPath
  rw [hfile, hjoin]
  rfl

/-! ## Opening -/

variable {σ : Type} {runner : Runner σ} {may : Refusals} {w w' : World σ} {settings : Settings}
  {fs fs' : FileSystem} {here place : Location} {dir : Path} {name : String} {file : Handle}

/-- A name in a directory was opened for writing under the policy of the settings. -/
structure Created (settings : Settings) (fs : FileSystem) (here : Location) (dir : Path)
    (name : String) (place : Location) (fs' : FileSystem) (file : Handle) : Prop where
  reaches : fs.Reaches here dir place
  refused : refuse? (dir.join name) = none
  size : name.utf8ByteSize ≤ maxNameBytes
  before : fs.node? (place ++ [name]) = none ∨
    ∃ data, fs.node? (place ++ [name]) = some (.file data)
  fresh : settings.collision = .fail → fs.node? (place ++ [name]) = none
  changeable : settings.collision = .fail → fs.Changeable place
  opens : Opens fs (place ++ [name]) fs' file

theorem Created.touches (h : Created settings fs here dir name place fs' file) :
    Touches (place ++ [name]) fs fs' := by
  refine ⟨h.opens.sameOff, h.opens.sameOff.keeps (fun node hnode => ?_)⟩
  rcases h.before with hnone | ⟨data, hdata⟩
  · simp [hnone] at hnode
  · rw [hdata, Option.some.injEq] at hnode
    subst hnode
    exact id

/-- Under the policy to replace, a name has to stand for a file if it stands for anything. -/
def Replaceable (settings : Settings) (fs : FileSystem) (place : Location) : Prop :=
  settings.collision = .overwrite → fs.Ordinary place

theorem Replaceable.of_same (h : Replaceable settings fs place)
    (hsame : fs'.node? place = fs.node? place) : Replaceable settings fs' place :=
  fun hc => (h hc).of_same hsame

theorem runs_createFile {r : Except PackagingError Handle} (hn : IsName name)
    (hs : ∀ place, w.machine.files.Reaches w.machine.directory dir place →
      Replaceable settings w.machine.files (place ++ [name]))
    (h : w.Runs runner may (createFile settings (dir.join name)).run r w') :
    (∃ e, r = .error e) ∧ w'.machine = w.machine ∨
      ∃ place file, r = .ok file ∧ w.machine.Stays w'.machine ∧
        Created settings w.machine.files w.machine.directory dir name place w'.machine.files
          file := by
  rw [createFile, runs_orElse] at h
  obtain ⟨x, hopen, rfl⟩ := h
  rw [runs_attempt, runs_file] at hopen
  obtain ⟨m, hm, rfl⟩ := hopen
  rcases Machine.performs_openWrite hm with ⟨⟨e, rfl⟩, rfl⟩ | ⟨files, file, rfl, hfs, rfl⟩
  · exact Or.inl ⟨⟨_, rfl⟩, rfl⟩
  · refine Or.inr ?_
    cases hc : settings.collision with
    | fail =>
      rw [hc] at hfs
      obtain ⟨hr, hsize, place, hreach, hchange, hnone, hopens⟩ := openFresh_join hn hfs
      exact ⟨place, file, rfl, rfl, hreach, hr, hsize, Or.inl hnone, fun _ => hnone,
        fun _ => hchange, hopens⟩
    | overwrite =>
      rw [hc] at hfs
      obtain ⟨hr, hsize, place, hreach, hbefore, hopens⟩ :=
        openAny_join hn (fun place hreach => hs place hreach hc) hfs
      exact ⟨place, file, rfl, rfl, hreach, hr, hsize, hbefore, by simp [hc], by simp [hc], hopens⟩

/-! ## Coming back to the file -/

theorem findNode_of_holds {content : Bytes} (hn : IsName name) (hreach : fs.Reaches here dir place)
    (hr : refuse? (dir.join name) = none) (hsize : name.utf8ByteSize ≤ maxNameBytes)
    (hh : fs.Holds file content) (hp : file.place = place ++ [name]) :
    ∃ data, fs.findNode here (dir.join name) = .ok (place ++ [name], .file data) ∧
      data.serial = file.serial ∧ data.content = content := by
  obtain ⟨data, hnode, hs, hc⟩ := hh
  rw [hp] at hnode
  refine ⟨data, findNode_eq_ok.mpr ?_, hs, hc⟩
  rw [hreach.find hn hr hsize (by simp [hnode]), hnode]

/-- Files in the directory can be removed whenever the release wants to. -/
def Reliable (may : Refusals) (fs : FileSystem) (place : Location) : Prop :=
  (∀ path, ¬ may (.remove path)) ∧ fs.Changeable place

theorem Reliable.keeps (h : Reliable may fs place) (hk : Keeps fs fs') :
    Reliable may fs' place :=
  ⟨h.1, h.2.keeps hk⟩

theorem performs_remove_holds {m m' : Machine} {content : Bytes} {r : Except SystemError Unit}
    (hn : IsName name) (hreach : m.files.Reaches m.directory dir place)
    (hr : refuse? (dir.join name) = none) (hsize : name.utf8ByteSize ≤ maxNameBytes)
    (hh : m.files.Holds file content) (hp : file.place = place ++ [name])
    (h : m.Performs may (.remove (dir.join name)) r m') :
    Touches (place ++ [name]) m.files m'.files ∧
      (Reliable may m.files place → m'.files.node? (place ++ [name]) = none) := by
  rcases Machine.performs_remove h with ⟨-, rfl, hwhy⟩ | ⟨-, files, hfs, rfl⟩
  · refine ⟨Touches.refl _ _, ?_⟩
    rintro ⟨hmay, hchange⟩
    exfalso
    rcases hwhy with hwhy | ⟨e, hwhy⟩
    · exact hmay _ hwhy
    · obtain ⟨data, hnode, -⟩ := hh
      rw [hp] at hnode
      rw [remove_of_reaches hn hreach hr hsize hchange hnode rfl] at hwhy
      simp at hwhy
  · obtain ⟨place', hreach', hnone, hsame⟩ := remove_join hn hfs
    obtain rfl := hreach.unique hreach'
    exact ⟨hsame.touches hh hp, fun _ => hnone⟩

/-! ## Telling names apart -/

section Names

variable {product other : String} {p q : Platform}

/-- What a package's name has behind the product. -/
def Platform.ending (p : Platform) : String := "_" ++ p.qualifier ++ ".tar.gz"

theorem toList_packageName (product : String) (p : Platform) :
    (p.packageName product).toList = product.toList ++ p.ending.toList := by
  simp [Platform.packageName, Platform.ending, String.append_assoc]

/-- The ending of one platform is no part of another one's. -/
theorem Platform.eq_of_ending (h : p.ending.toList <:+ q.ending.toList) : p = q := by
  obtain ⟨os, arch⟩ := p
  obtain ⟨os', arch'⟩ := q
  revert h
  cases os <;> cases arch <;> cases os' <;> cases arch' <;> decide

theorem packageName_injective (h : p.packageName product = q.packageName other) :
    product = other ∧ p = q := by
  have hchars := congrArg String.toList h
  rw [toList_packageName, toList_packageName] at hchars
  have hp : p.ending.toList <:+ other.toList ++ q.ending.toList := ⟨_, hchars⟩
  have hq : q.ending.toList <:+ other.toList ++ q.ending.toList := List.suffix_append _ _
  have hplatform : p = q := by
    rcases List.suffix_or_suffix_of_suffix hp hq with hends | hends
    · exact Platform.eq_of_ending hends
    · exact (Platform.eq_of_ending hends).symm
  subst hplatform
  exact ⟨String.toList_injective (List.append_cancel_right hchars), rfl⟩

theorem checksumName_injective : Function.Injective checksumName := by
  intro name name' h
  simpa [checksumName] using h

theorem getLast?_packageName (product : String) (p : Platform) :
    (p.packageName product).toList.getLast? = some 'z' := by
  rw [Platform.packageName, String.toList_append, List.getLast?_append_of_ne_nil _ (by decide)]
  rfl

theorem getLast?_checksumName (name : String) : (checksumName name).toList.getLast? = some '6' := by
  simp [checksumName]

theorem checksumName_ne_packageName (name : String) :
    checksumName name ≠ p.packageName product := by
  intro h
  have hlast := getLast?_checksumName name
  rw [h, getLast?_packageName] at hlast
  simp at hlast

/-- The names of a release's package and checksum file. -/
def releaseNames (product : String) (p : Platform) : List String :=
  [p.packageName product, checksumName (p.packageName product)]

theorem nodup_releaseNames (h : (product, p) ≠ (other, q)) :
    (releaseNames product p ++ releaseNames other q).Nodup := by
  have hname : p.packageName product ≠ q.packageName other := by
    intro hname
    obtain ⟨rfl, rfl⟩ := packageName_injective hname
    exact h rfl
  simp [releaseNames, hname, checksumName_ne_packageName, (checksumName_ne_packageName _).symm,
    checksumName_injective.ne hname]

theorem fileNames_packageTargets {settings : Settings} {request : BuildRequest}
    (hproduct : '/' ∉ settings.product.toList) (hchecksum : settings.checksum = true) :
    (packageTargets settings request).map Path.fileName? =
      (releaseNames settings.product request.platform).map some := by
  have hname := isName_packageName hproduct request.platform
  obtain ⟨hpackage, -⟩ := hname.parent?_join settings.packagesDir
  obtain ⟨up, -, hsidecar⟩ := checksumPath_join hname settings.packagesDir
  obtain ⟨hchecksumFile, -⟩ := (isName_checksumName hname).parent?_join up
  simp [packageTargets, packagePath, releaseNames, hchecksum, hpackage, hsidecar, hchecksumFile]

end Names

/-- No two releases share the name of a file. The name of a package tells its product and its
platform, that of a checksum file tells its package, and neither is ever taken for the other. -/
theorem releases_share_no_name :
    (∀ (product other : String) (p q : Platform),
        p.packageName product = q.packageName other → product = other ∧ p = q) ∧
      Function.Injective checksumName ∧
      (∀ (product other : String) (p q : Platform),
        checksumName (p.packageName product) ≠ q.packageName other) ∧
      (∀ (product other : String) (p q : Platform), (product, p) ≠ (other, q) →
        (releaseNames product p ++ releaseNames other q).Nodup) ∧
      ∀ (settings : Settings) (request : BuildRequest), '/' ∉ settings.product.toList →
        settings.checksum = true → (packageTargets settings request).map Path.fileName? =
          (releaseNames settings.product request.platform).map some :=
  ⟨fun _ _ _ _ => packageName_injective, checksumName_injective,
    fun _ _ _ _ => checksumName_ne_packageName _, fun _ _ _ _ => nodup_releaseNames,
    fun _ _ => fileNames_packageTargets⟩

end Slipway
