import Slipway.Proofs.History

/-!
# Packages are written once

Under the policy to fail, what is below the directory of packages stays as it is in every history.
A platform gets one package at most, and the releases behind it collide.
-/

namespace Slipway

open FileSystem World

variable {may : Refusals} {R : Location} {fs fs' : FileSystem} {p : Platform}

/-- Everything at the place and below it that was there is still there, as it was. -/
def Kept (P : Location) (fs fs' : FileSystem) : Prop :=
  ∀ q node, P <+: q → fs.node? q = some node → fs'.node? q = some node

theorem Kept.trans {P : Location} {fs'' : FileSystem} (h : Kept P fs fs') (h' : Kept P fs' fs'') :
    Kept P fs fs'' :=
  fun q node hq hnode => h' q node hq (h q node hq hnode)

theorem SameBelow.kept {P : Location} (h : SameBelow P fs fs') : Kept P fs fs' :=
  fun q node hq hnode => by rw [h q hq, hnode]

theorem Opened.kept {P : Location} (h : Opened P fs fs') : Kept P fs fs' := by
  intro q node hq hnode
  rcases h q hq with hsame | ⟨-, hnone, -⟩
  · rw [hsame, hnode]
  · rw [hnone] at hnode
    simp at hnode

theorem Packaged.keptBelow {P : Location} {settings : Settings} {verified : VerifiedArtifact}
    {here : Location} {r : Except PackagingError Package} (hc : settings.collision = .fail)
    (h : Packaged settings verified may here fs fs' r) : Kept P fs fs' :=
  fun _ _ _ hnode => h.kept hc hnode

/-! ## One release -/

theorem Leaves.kept {checksum : Bool} {host : Host} {arch : Arch}
    {r : Except ReleaseError Report} (h : Leaves R may .fail checksum host arch fs fs' r) :
    Kept (packagesPlace R) fs fs' := by
  cases h with
  | early same => exact same.kept
  | dropped os cpu opened direct packaged => exact opened.kept.trans (packaged.keptBelow rfl)
  | made os cpu opened direct packaged reported => exact opened.kept.trans (packaged.keptBelow rfl)

/-- The package for a platform is there, and paths lead to it. -/
structure Stands (R : Location) (p : Platform) (fs : FileSystem) : Prop where
  file : ∃ data, fs.node? (packagePlace R p) = some (.file data)
  enterable : fs.Enterable (packagesPlace R)
  refused : refuse? (((pathOf R).join packagesDirName).join (p.packageName productName)) = none

theorem Stands.kept (h : Stands R p fs) (hk : Kept (packagesPlace R) fs fs') : Stands R p fs' := by
  obtain ⟨⟨data, hdata⟩, ⟨mode, hdir, hexec⟩, hrefused⟩ := h
  exact ⟨⟨data, hk _ _ (List.prefix_append _ _) hdata⟩,
    ⟨mode, hk _ _ (List.prefix_refl _) hdir, hexec⟩, hrefused⟩

theorem Leaves.stands {checksum : Bool} {host : Host} {arch : Arch} {report : Report}
    (hR : Plain R) (h : Leaves R may .fail checksum host arch fs fs' (.ok report))
    (hp : report.platform = p.os ∧ report.arch = p.arch) :
    fs.node? (packagePlace R p) = none ∧ Stands R p fs' := by
  cases h with
  | @made verified here fs₁ package report os cpu opened direct packaged reported =>
    have hkept : Kept (packagesPlace R) fs₁ fs' := packaged.keptBelow rfl
    have hplatform : verified.artifact.request.platform = p := by
      obtain ⟨-, hos, harch⟩ := reported
      unfold BuildRequest.platform
      rw [← hos, ← harch, hp.1, hp.2]
    cases packaged with
    | @made _ place origin name content node written named reaches refused fresh same stands found
        archived finished reported' =>
      obtain rfl := place_of_packagesDir hR direct reaches
      rw [hplatform] at named
      subst named
      obtain ⟨data, hdata, -⟩ := stands
      obtain ⟨mode, hdir, hexec⟩ := reaches.enterable
      refine ⟨?_, ⟨data, hdata⟩, ⟨mode, hkept _ _ (List.prefix_refl _) hdir, hexec⟩, refused⟩
      have hnone := fresh rfl
      rcases opened (packagePlace R p) (List.prefix_append _ _) with hsame | ⟨heq, -, -⟩
      · rw [← hsame]
        exact hnone
      · have hlen := congrArg List.length heq
        simp [packagePlace] at hlen

/-! ## A version that resolves shows the way -/

/-- Who can read the version file can also get to the package that stands. -/
theorem exists_of_stands {m : Machine} {place : Location} {node : Node} (hR : Plain R)
    (hclear : Clear R m) (hs : Stands R p m.files)
    (hversion : m.files.findNode m.directory ((pathOf R).join versionFileName)
      = .ok (place, node)) :
    m.files.exists? m.directory
      (((pathOf R).join packagesDirName).join (p.packageName productName)) = true := by
  obtain ⟨⟨data, hdata⟩, hent, hrefused⟩ := hs
  have hname : IsName (p.packageName productName) := isName_packageName (by decide) p
  have habs : ∀ {right : String}, ¬ Path.isAbsolute ⟨right⟩ →
      startOf m.directory ((pathOf R).join right) = [] := fun h =>
    if_pos (isAbsolute_root_join h)
  -- The way of the version file leads through all of the root.
  have hwalk := findNode_eq_ok.mp hversion
  unfold FileSystem.find at hwalk
  split at hwalk
  · simp at hwalk
  · rw [habs (by decide), walkSteps_join (by decide) (by decide), stepsOf_pathOf hR] at hwalk
    have hsteps : walkSteps ⟨versionFileName⟩ = ["src", "version.txt"] := by decide
    rw [hsteps] at hwalk
    obtain ⟨hway, hsizes, -⟩ := walk_down hR
      (fun q _ hq => hclear.1 q (hq.trans (by simp [packagesPlace]))) (by simp) hwalk
    have hreach : m.files.Reaches m.directory ((pathOf R).join packagesDirName)
        (packagesPlace R) := by
      unfold Reaches
      rw [habs (by decide), stepsOf_root_join hR (by decide)]
      have hdir : stepsOf ⟨packagesDirName⟩ = ["packages"] := by decide
      rw [hdir]
      change m.files.walk true maxLinks [] (packagesPlace R ++ ["."]) = _
      rw [walk_of_enterable (plain_packagesPlace hR) ?_ ?_ (List.cons_ne_nil _ _)]
      · exact walk_dot.mpr ⟨hent, rfl⟩
      · intro n hn
        rcases List.mem_append.mp hn with hn | hn
        · exact hsizes n hn
        · rw [List.mem_singleton.mp hn]
          decide
      · intro q _ hq
        rcases List.prefix_concat_iff.mp hq with rfl | hq
        · exact hent
        · exact hway q List.nil_prefix hq
    have hsize : (p.packageName productName).utf8ByteSize ≤ maxNameBytes := by
      obtain ⟨os, arch⟩ := p
      cases os <;> cases arch <;> decide
    have hfind := hreach.find hname hrefused hsize (by
      intro target hlink
      rw [show packagesPlace R ++ [p.packageName productName] = packagePlace R p from rfl,
        hdata] at hlink
      simp at hlink)
    rw [show packagesPlace R ++ [p.packageName productName] = packagePlace R p from rfl,
      hdata] at hfind
    unfold FileSystem.exists?
    rw [findNode_eq_ok.mpr hfind]
    rfl

/-- The attempt started nothing and changed nothing: its version did not resolve, or the package for
the platform was in the way. -/
def Attempt.Collides (R : Location) (p : Platform) (a : Attempt) : Prop :=
  a.started = [] ∧ a.after = a.before ∧
    ((∃ e, a.result = .error (.setup e)) ∨ a.result = .error (.packaging (.packageExists
      (((pathOf R).join packagesDirName).join (p.packageName productName)))))

theorem packageTargets_eq_cons (settings : Settings) (request : BuildRequest) :
    ∃ rest, packageTargets settings request = packagePath settings request :: rest := by
  unfold packageTargets
  dsimp only
  split
  · exact ⟨_, rfl⟩
  · exact ⟨_, rfl⟩

/-- A release for a platform whose package stands gets no further than the preflight. -/
theorem Attempt.Happens.collides {a : Attempt} (h : a.Happens R may) (hR : Plain R)
    (hclear : Clear R a.before) (hc : a.collision = .fail) (hs : Stands R p a.before.files)
    (hos : a.host = .ok p.os) (harch : a.arch = p.arch)
    (hmay : ∀ path, ¬ may (.pathExists path)) : a.Collides R p := by
  obtain ⟨σ, runner, w, w', -, hbefore, hafter, hstarted, h⟩ := h
  have hidle : w.Untouched w' → a.started = [] ∧ a.after = a.before := by
    rintro ⟨hm, -, hnone⟩
    rw [hnone] at hstarted
    refine ⟨?_, by rw [← hbefore, ← hafter, hm]⟩
    exact List.self_eq_append_left.mp hstarted
  -- The package is seen by every release that has resolved its version.
  have hseen : ∀ {request : BuildRequest},
      Requested runner may (rootSettings R a.collision a.checksum) a.host a.arch w request →
        packagePath (rootSettings R a.collision a.checksum) request
            = ((pathOf R).join packagesDirName).join (p.packageName productName) ∧
          ¬ Unseen may w.machine
            (packagePath (rootSettings R a.collision a.checksum) request) := by
    rintro request ⟨hrequest, harch', w₁, hversion⟩
    obtain ⟨place, node, hfind, -⟩ := runs_resolveVersion hversion
    have hplatform : request.platform = p := by
      rw [hos, Except.ok.injEq] at hrequest
      unfold BuildRequest.platform
      rw [← hrequest, harch', harch]
    have hpath : packagePath (rootSettings R a.collision a.checksum) request
        = ((pathOf R).join packagesDirName).join (p.packageName productName) := by
      rw [← hplatform]
      rfl
    refine ⟨hpath, fun hunseen => hmay _ (hunseen ?_)⟩
    rw [hpath]
    rw [← hbefore] at hclear hs
    exact exists_of_stands hR hclear hs hfind
  have hfree : ∀ {request : BuildRequest},
      Requested runner may (rootSettings R a.collision a.checksum) a.host a.arch w request →
        ¬ ((rootSettings R a.collision a.checksum).collision = .fail → ∀ path ∈ packageTargets
          (rootSettings R a.collision a.checksum) request, Unseen may w.machine path) := by
    intro request requested free
    obtain ⟨rest, hrest⟩ := packageTargets_eq_cons (rootSettings R a.collision a.checksum) request
    exact (hseen requested).2 (free hc _ (by rw [hrest]; exact List.mem_cons_self))
  have hreleased := runs_release h
  generalize hr : a.result = r at hreleased
  cases hreleased with
  | unready same => exact ⟨(hidle same).1, (hidle same).2, Or.inl ⟨_, hr⟩⟩
  | @collided request before after path requested policy targets there unseen same =>
    refine ⟨(hidle same).1, (hidle same).2, Or.inr ?_⟩
    obtain ⟨rest, hrest⟩ := packageTargets_eq_cons (rootSettings R a.collision a.checksum) request
    obtain ⟨hpath, hsees⟩ := hseen requested
    rw [hrest] at targets
    cases before with
    | nil =>
      obtain ⟨rfl, -⟩ := List.cons.inj targets
      rw [hr, hpath]
    | cons first before =>
      obtain ⟨rfl, -⟩ := List.cons.inj targets
      exact absurd (unseen _ List.mem_cons_self) hsees
  | unbuilt requested free built => exact absurd free (hfree requested)
  | rejected requested free built tested => exact absurd free (hfree requested)
  | unpacked requested free built tested packaged => exact absurd free (hfree requested)
  | complete requested free built tested packaged same => exact absurd free (hfree requested)

/-! ## Histories -/

/-- What a history keeps to in which every release fails when its package is there. -/
structure WrittenOnce (R : Location) (may : Refusals) (m : Machine) (attempts : List Attempt) :
    Prop where
  /-- No release changes what was there. -/
  kept : ∀ a ∈ attempts, Kept (packagesPlace R) m.files a.before.files ∧
    Kept (packagesPlace R) a.before.files a.after.files
  /-- What one release leaves is there for all that follow. -/
  later : attempts.Pairwise (fun a b => Kept (packagesPlace R) a.after.files b.before.files)
  once : ∀ p, attempts.countP (·.packaged p) ≤ 1
  collides : (∀ path, ¬ may (.pathExists path)) → ∀ p, attempts.Pairwise (fun a b =>
    a.packaged p → b.host = .ok p.os → b.arch = p.arch → b.Collides R p)

/-- The attempt happened in the usual layout, under the policy to fail. -/
structure Attempt.Cautious (R : Location) (may : Refusals) (a : Attempt) : Prop where
  clear : Clear R a.before
  happens : a.Happens R may
  policy : a.collision = .fail

theorem Attempt.Cautious.leaves {a : Attempt} (h : a.Cautious R may) (hR : Plain R) :
    Leaves R may .fail a.checksum a.host a.arch a.before.files a.after.files a.result := by
  have hleaves := h.happens.leaves hR h.clear (by simp [h.policy])
  rwa [h.policy] at hleaves

theorem Attempt.Cautious.stands {a : Attempt} (h : a.Cautious R may) (hR : Plain R)
    (hp : a.packaged p) :
    a.before.files.node? (packagePlace R p) = none ∧ Stands R p a.after.files := by
  have hleaves := h.leaves hR
  obtain ⟨report, hr, hreport⟩ := Attempt.packaged_iff.mp hp
  rw [hr] at hleaves
  exact hleaves.stands hR hreport

theorem History.cautious {m : Machine} {attempts : List Attempt} (hR : Plain R)
    (h : History R may m attempts) (hc : ∀ a ∈ attempts, a.collision = .fail) :
    ∀ a ∈ attempts, a.Cautious R may ∧ Kept (packagesPlace R) m.files a.before.files := by
  induction attempts generalizing m with
  | nil => simp
  | cons a rest ih =>
    obtain ⟨hsame, hclear, hhappens, hrest⟩ := h
    have ha : a.Cautious R may := ⟨hclear, hhappens, hc a List.mem_cons_self⟩
    intro b hb
    rcases List.mem_cons.mp hb with rfl | hb
    · exact ⟨ha, hsame.kept⟩
    · obtain ⟨hcautious, hkept⟩ := ih hrest (fun c hm => hc c (List.mem_cons_of_mem _ hm)) b hb
      exact ⟨hcautious, (hsame.kept.trans (ha.leaves hR).kept).trans hkept⟩

/-- What holds of any two releases with what the first left kept until the second. -/
theorem History.pairwise {m : Machine} {attempts : List Attempt} {S : Attempt → Attempt → Prop}
    (hR : Plain R) (h : History R may m attempts) (hc : ∀ a ∈ attempts, a.collision = .fail)
    (hS : ∀ a b, a.Cautious R may → b.Cautious R may →
      Kept (packagesPlace R) a.after.files b.before.files → S a b) : attempts.Pairwise S := by
  induction attempts generalizing m with
  | nil => exact List.Pairwise.nil
  | cons a rest ih =>
    obtain ⟨-, hclear, hhappens, hrest⟩ := h
    have hc' := fun b hb => hc b (List.mem_cons_of_mem a hb)
    refine List.pairwise_cons.mpr ⟨fun b hb => ?_, ih hrest hc'⟩
    obtain ⟨hcautious, hkept⟩ := hrest.cautious hR hc' b hb
    exact hS a b ⟨hclear, hhappens, hc a List.mem_cons_self⟩ hcautious hkept

theorem countP_le_one {α : Type} {q : α → Bool} {l : List α}
    (h : l.Pairwise (fun a b => q a = true → q b = false)) : l.countP q ≤ 1 := by
  induction l with
  | nil => simp
  | cons a rest ih =>
    obtain ⟨hhead, hrest⟩ := List.pairwise_cons.mp h
    rw [List.countP_cons]
    split
    · rename_i ha
      have hnone : rest.countP q = 0 := by
        rw [List.countP_eq_zero]
        intro b hb
        simp [hhead b hb ha]
      rw [hnone]
    · exact ih hrest

/-- Packages are written once. -/
theorem packages_written_once {m : Machine} {attempts : List Attempt} (hR : Plain R)
    (h : History R may m attempts) (hc : ∀ a ∈ attempts, a.collision = .fail) :
    WrittenOnce R may m attempts where
  kept a ha := ⟨(h.cautious hR hc a ha).2, ((h.cautious hR hc a ha).1.leaves hR).kept⟩
  later := h.pairwise hR hc (fun _ _ _ _ hkept => hkept)
  once p := by
    refine countP_le_one (h.pairwise hR hc (fun a b ha hb hkept hp => ?_))
    obtain ⟨data, hdata⟩ := ((ha.stands hR hp).2.kept hkept).file
    cases hp' : b.packaged p with
    | false => rfl
    | true =>
      rw [(hb.stands hR hp').1] at hdata
      simp at hdata
  collides hmay p := h.pairwise hR hc (fun _ _ ha hb hkept hp hos harch =>
    hb.happens.collides hR hb.clear hb.policy ((ha.stands hR hp).2.kept hkept) hos harch hmay)

/-- The second release of the fresh project collides with the package of the first. -/
theorem second_release_collides : ∃ a b : Attempt,
    History ["work"] Refusals.never freshWorld.machine [a, b] ∧ a.packaged ⟨.linux, .amd64⟩ ∧
      WrittenOnce ["work"] Refusals.never freshWorld.machine [a, b] ∧
      b.Collides ["work"] ⟨.linux, .amd64⟩ := by
  obtain ⟨a, hfirst, hpackaged, hpolicy, -, hready, -⟩ := fresh_attempt ⟨.linux, .amd64⟩ true
  let w : World Unit := ⟨a.after, (), [], [], []⟩
  obtain ⟨r, w', hrun⟩ : ∃ r w', w.Runs (honestRunner ["work"] .linux [0x7f] id) Refusals.never
      (release (rootSettings ["work"] .fail false) ⟨"/opt/dotnet"⟩ (.ok .linux) .amd64).run r w' :=
    ⟨_, _, runs_run _ _ _ _⟩
  let b : Attempt := ⟨.fail, false, ⟨"/opt/dotnet"⟩, .ok .linux, .amd64, a.after, w'.machine,
    w'.started, r⟩
  have hspares : Spares (honestRunner ["work"] .linux [0x7f] id) (packagesPlace ["work"])
      (Clear ["work"]) := spares_clear (fun _ _ h => h) (SameBelow.refl _)
  have hhappens : b.Happens ["work"] Refusals.never :=
    ⟨Unit, _, w, w', hspares, rfl, rfl, (List.append_nil _).symm, hrun⟩
  obtain ⟨hsame, hclear, ha, -⟩ := hfirst
  have hhistory : History ["work"] Refusals.never freshWorld.machine [a, b] :=
    ⟨hsame, hclear, ha, SameBelow.refl _ _, hready.clear, hhappens, trivial⟩
  have honce := packages_written_once (by decide) hhistory (by simp [hpolicy, b])
  have hcollides := honce.collides (fun _ => id) ⟨.linux, .amd64⟩
  rw [List.pairwise_pair] at hcollides
  exact ⟨a, b, hhistory, hpackaged, honce, hcollides hpackaged rfl rfl⟩

/-- When the runner makes the build directory lead to the packages, a release under the policy to
fail moves away what was there. -/
theorem leading_runner_moves_packages :
    Clear ["work"] usedWorld.machine ∧
    (∀ i m s, SameBelow (packagesPlace ["work"]) m.files (leadingRunner i m s).2.1.files) ∧
    ∃ r w', usedWorld.Runs leadingRunner Refusals.never
        (release (rootSettings ["work"] .fail false) ⟨"/opt/dotnet"⟩ (.ok .linux) .amd64).run r w' ∧
      ¬ Kept (packagesPlace ["work"]) usedWorld.machine.files w'.machine.files := by
  obtain ⟨e, w', hrun, hgone⟩ := leadingRunner_moves
  refine ⟨usedProject_clear, leadingRunner_spares, _, w', hrun, fun hkept => ?_⟩
  have hthere := hkept ["work", "packages", toolchainOutputName] _ (by decide) rfl
  rw [hgone] at hthere
  exact absurd hthere (by simp)

end Slipway
