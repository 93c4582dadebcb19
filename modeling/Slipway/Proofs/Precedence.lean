import Mathlib.Data.Set.Basic
import Slipway.Proofs.Grounded
import Slipway.Proofs.Readiness
import Slipway.Proofs.Setup

/-!
# What overrides what

The root and the toolchain are each chosen by an option, else by a variable, else by where the
program is or by what the search path leads to. What is chosen by one of them does not depend on
those behind it, and nor does anything that a release does.
-/

namespace Slipway

open FileSystem World

variable {σ α β ε δ : Type} {runner : Runner σ} {may : Refusals} {w w' v : World σ}
  {env env' : Environment} {host : Host} {request : ReleaseRequest}

/-! ## Outcomes -/

/-- What can be seen of a finished run. -/
structure Observation (α : Type) where
  result : α
  started : List Invocation
  files : FileSystem
  messages : List Message
  lines : List String

namespace World

def observation (w : World σ) (result : α) : Observation α :=
  ⟨result, w.started, w.machine.files, w.messages, w.lines⟩

/-- The outcomes that a program can have. -/
def Outcomes (runner : Runner σ) (may : Refusals) (w : World σ) (p : Program α) :
    Set (Observation α) :=
  { o | ∃ r w', w.Runs runner may p r w' ∧ o = w'.observation r }

/-- Every run in `w` has its like in `v`, and `post` holds of its result. -/
def Follows (runner : Runner σ) (may : Refusals) (w v : World σ) (p : Program α)
    (post : α → Prop) : Prop :=
  ∀ r w', w.Runs runner may p r w' → post r ∧ ∃ v', v.Runs runner may p r v' ∧ w'.Alike v'

theorem Alike.observation {w' v' : World σ} (h : w'.Alike v') (r : α) :
    w'.observation r = v'.observation r := by
  simp only [World.observation, h.machine.files, h.started, h.messages, h.lines]

theorem Follows.subset {p : Program α} {post : α → Prop} (h : w.Follows runner may v p post) :
    w.Outcomes runner may p ⊆ v.Outcomes runner may p := by
  rintro o ⟨r, w', hrun, rfl⟩
  obtain ⟨-, v', hrun', halike⟩ := h r w' hrun
  exact ⟨r, v', hrun', halike.observation r⟩

end World

/-! ## Programs in step -/

section Follows

variable {p : Program α} {post : α → Prop}

theorem Program.Grounded.follows (h : p.Grounded post) (hrunner : runner.Placeless)
    (hw : w.Alike v) : w.Follows runner may v p post :=
  fun _ _ hrun => hrun.anywhere hrunner h hw

theorem follows_of_tells (h : p.Only Action.Tells) (hw : w.Alike v) :
    w.Follows runner may v p (fun _ => True) := by
  induction p generalizing w v with
  | done a => exact fun r w' hrun => ⟨trivial, v, ⟨hrun.1, rfl⟩, hrun.2 ▸ hw⟩
  | ask action next ih =>
    rintro r w' ⟨reply, w₁, ha, hrest⟩
    have hstep : ∃ v₁, v.Answers runner may action reply v₁ ∧ w₁.Alike v₁ := by
      cases action with
      | print line =>
        obtain ⟨rfl, rfl⟩ := Prod.mk.inj ha
        exact ⟨_, rfl, hw.machine, hw.runner, hw.started, hw.messages, by rw [hw.lines]⟩
      | complain line =>
        obtain ⟨rfl, rfl⟩ := Prod.mk.inj ha
        exact ⟨_, rfl, hw.machine, hw.runner, hw.started, by rw [hw.messages], hw.lines⟩
      | clock =>
        obtain ⟨rfl, rfl⟩ := Prod.mk.inj ha
        exact ⟨_, rfl, hw⟩
      | _ => exact h.1.elim
    obtain ⟨v₁, ha', halike⟩ := hstep
    obtain ⟨-, v', hrest', halike'⟩ := ih reply (h.2 reply) halike r w' hrest
    exact ⟨trivial, v', ⟨reply, v₁, ha', hrest'⟩, halike'⟩

theorem follows_bind {f : α → Program β} {after : β → Prop} (h : w.Follows runner may v p post)
    (hf : ∀ (a : α) (w₁ v₁ : World σ), post a → w₁.Alike v₁ →
      w₁.Follows runner may v₁ (f a) after) :
    w.Follows runner may v (p >>= f) after := by
  intro r w' hrun
  obtain ⟨a, w₁, hp, hrest⟩ := (runs_bind _ _ _).mp hrun
  obtain ⟨ha, v₁, hp', halike⟩ := h a w₁ hp
  obtain ⟨hr, v', hrest', halike'⟩ := hf a w₁ v₁ ha halike r w' hrest
  exact ⟨hr, v', (runs_bind _ _ _).mpr ⟨a, v₁, hp', hrest'⟩, halike'⟩

theorem follows_stage_bind {s : Stage ε α} {f : α → Stage ε β}
    (h : w.Follows runner may v s.run (fun r => ∀ a, r = .ok a → post a))
    (hf : ∀ (a : α) (w₁ v₁ : World σ), post a → w₁.Alike v₁ →
      w₁.Follows runner may v₁ (f a).run (fun _ => True)) :
    w.Follows runner may v (s >>= f).run (fun _ => True) := by
  rw [ExceptT.run_bind]
  refine follows_bind h (fun r w₁ v₁ hr halike => ?_)
  cases r with
  | ok a => exact hf a w₁ v₁ (hr a rfl) halike
  | error e => exact fun r w' hrun => ⟨trivial, v₁, ⟨hrun.1, rfl⟩, hrun.2 ▸ halike⟩

theorem follows_orElse {s : Stage ε α} (wrap : ε → δ)
    (h : w.Follows runner may v s.run (fun r => ∀ a, r = .ok a → post a)) :
    w.Follows runner may v (s.orElse wrap).run (fun r => ∀ a, r = .ok a → post a) := by
  intro r w' hrun
  rw [runs_orElse] at hrun
  obtain ⟨x, hrun, rfl⟩ := hrun
  obtain ⟨hx, v', hrun', halike⟩ := h x w' hrun
  refine ⟨?_, v', (runs_orElse _ _ _).mpr ⟨x, hrun', rfl⟩, halike⟩
  cases x with
  | error e => simp [Except.mapError]
  | ok a => simpa [Except.mapError] using hx

theorem follows_logged (filter : LogFilter) (hw : w.Alike v) (h : w.Follows runner may v p post) :
    w.Follows runner may v (p.logged filter) post := by
  intro r w' hrun
  obtain ⟨told, w₁, hp, htold, rfl⟩ := (runs_logged w.messages).mp hrun
  obtain ⟨hr, v₁, hp', halike⟩ := h r w₁ hp
  refine ⟨hr, v₁.telling (told.filterMap (Message.shown filter) ++ v.messages), ?_, ?_⟩
  · refine (runs_logged v.messages).mpr ⟨told, v₁, hp', ?_, rfl⟩
    rw [halike.messages, htold, hw.messages]
  · refine ⟨halike.machine, halike.runner, halike.started, ?_, halike.lines⟩
    simp only [World.telling, hw.messages]

end Follows

/-! ## Environments that differ in some variables -/

/-- The environments agree about all other variables. -/
def Environment.AgreesOff (names : List String) (env env' : Environment) : Prop :=
  ∀ name, name ∉ names → env'.get? name = env.get? name

theorem Environment.AgreesOff.mono {names more : List String} (h : env.AgreesOff names env')
    (hsub : names ⊆ more) : env.AgreesOff more env' :=
  fun name hname => h name (fun hmem => hname (hsub hmem))

/-- The variables that a configuration is taken from. -/
def sourceVariables : List String := [rootVariable, toolchainVariable, "PATH"]

section Agreement

variable (h : env.AgreesOff sourceVariables env')

include h

theorem palette_congr : Palette.ofEnvironment env' = Palette.ofEnvironment env := by
  have hget : ∀ name, name ∉ sourceVariables → env'.get? name = env.get? name := h
  have hservices : Environment.serviceVariables.any env'.isSet
      = Environment.serviceVariables.any env.isSet := by
    have hall : ∀ name ∈ Environment.serviceVariables, name ∉ sourceVariables := by decide
    rw [Bool.eq_iff_iff, List.any_eq_true, List.any_eq_true]
    refine exists_congr (fun name => and_congr_right (fun hname => ?_))
    simp only [Environment.isSet, hget name (hall name hname)]
  simp (disch := decide) only [Palette.ofEnvironment, Environment.forcesColours,
    Environment.forbidsColours, Environment.tellsColours, Environment.isOfService,
    Environment.isOn, Environment.isSet, hget] at hservices ⊢
  rw [hservices]

theorem logFilter_congr (verbose : Bool) :
    LogFilter.choose env' verbose = LogFilter.choose env verbose := by
  simp only [LogFilter.choose, h "RUST_LOG" (by decide)]

theorem expandHome_congr (path : Path) : expandHome env' path = expandHome env path := by
  simp only [expandHome, Environment.getNonempty?, h "HOME" (by decide)]

theorem search_congr (hpath : env'.get? "PATH" = env.get? "PATH") (program : String) :
    search env' program = search env program := by
  have hcandidates : candidates env' = candidates env := by
    funext path program
    simp only [candidates, expandHome_congr h]
  simp only [search, hpath, hcandidates]

/-- An environment matters to a command through the root and the toolchain that it asks for, and
through variables that are not about them. -/
theorem command_congr {arguments : List String}
    (hargs : ReleaseRequest.ofArguments arguments = .ok request)
    (hrelease : releaseFor env' host request = releaseFor env host request) :
    command env' host arguments = command env host arguments := by
  simp only [command, hargs, runRequest, palette_congr h, logFilter_congr h, hrelease]

end Agreement

theorem releaseFor_congr (hroot : resolveRoot env' request.root = resolveRoot env request.root)
    (htoolchain : resolveToolchain env' request.toolchain
      = resolveToolchain env request.toolchain) :
    releaseFor env' host request = releaseFor env host request := by
  simp only [releaseFor, configure, hroot, htoolchain]

/-! ## Configurations in step -/

theorem fromRoot_grounded {root : Path} (h : root.isAbsolute = true) :
    (Settings.fromRoot root).Grounded Settings.Absolute := by
  have hask := Program.grounded_perform (a := .file (.canonicalize root)) (anywhere_of_paths rfl h)
  have hfound : Stage.Grounded (Stage.attempt (Program.file (.canonicalize root)))
      (fun path => path.isAbsolute = true) := hask
  refine (hfound.orElse _).bind (fun canonical hcanonical => ?_)
  exact Stage.grounded_pure (.below hcanonical)

/-- Both programs have the same results, each in its own world. -/
def SameResults (runner : Runner σ) (may : Refusals) (w v : World σ) (p q : Program α) : Prop :=
  ∀ r, (∃ w', w.Runs runner may p r w') ↔ ∃ v', v.Runs runner may q r v'

theorem configure_follows {root : Path} (hrunner : runner.Placeless) (hw : w.Alike v)
    (hroot : resolveRoot env request.root = pure root) (habs : root.isAbsolute = true)
    (htoolchain : SameResults runner may w v (resolveToolchain env request.toolchain).run
      (resolveToolchain env request.toolchain).run) :
    w.Follows runner may v (configure env request).run
      (fun r => ∀ found, r = .ok found → found.1.Absolute) := by
  have hrest : ∀ settings toolchain, Settings.Absolute settings →
      Stage.Grounded (Stage.note (.resolvedConfiguration settings.root toolchain) >>= fun _ =>
        pure (settings.requested request, toolchain) : Stage SetupError (Settings × Path))
        (fun found => found.1.Absolute) := fun settings toolchain h =>
    (Stage.grounded_note _).bind (fun _ _ => Stage.grounded_pure ⟨h.version, h.build, h.packages⟩)
  intro r w' hrun
  rw [configure_eq, hroot] at hrun ⊢
  change w.Runs runner may (Settings.fromRoot root >>= _).run r w' at hrun
  change _ ∧ ∃ v', v.Runs runner may (Settings.fromRoot root >>= _).run r v' ∧ _
  rw [runs_stage_bind] at hrun
  rcases hrun with ⟨settings, w₁, hfound, hrun⟩ | ⟨e, hfound, rfl⟩
  · obtain ⟨hsettings, v₁, hfound', -⟩ := hfound.anywhere hrunner (fromRoot_grounded habs) hw
    -- Finding the settings changes nothing, so the search starts in the same two worlds.
    obtain rfl := hfound.still (fromRoot_only _)
    obtain rfl := hfound'.still (fromRoot_only _)
    have hsettings := hsettings settings rfl
    rw [runs_stage_bind] at hrun
    rcases hrun with ⟨toolchain, w₂, hsearch, hrun⟩ | ⟨e, hsearch, rfl⟩
    · obtain ⟨v₂, hsearch'⟩ := (htoolchain _).mp ⟨w₂, hsearch⟩
      obtain rfl := hsearch.still (resolveToolchain_only _ _)
      obtain rfl := hsearch'.still (resolveToolchain_only _ _)
      obtain ⟨hr, v', hrun', halike⟩ := hrun.anywhere hrunner (hrest settings toolchain hsettings) hw
      exact ⟨hr, v', (runs_stage_bind _ _ _).mpr (Or.inl ⟨settings, v₂, hfound',
        (runs_stage_bind _ _ _).mpr (Or.inl ⟨toolchain, v₂, hsearch', hrun'⟩)⟩), halike⟩
    · obtain ⟨v₂, hsearch'⟩ := (htoolchain _).mp ⟨w', hsearch⟩
      obtain rfl := hsearch.still (resolveToolchain_only _ _)
      obtain rfl := hsearch'.still (resolveToolchain_only _ _)
      refine ⟨by simp, v₂, (runs_stage_bind _ _ _).mpr (Or.inl ⟨settings, v₂, hfound', ?_⟩), hw⟩
      exact (runs_stage_bind _ _ _).mpr (Or.inr ⟨e, hsearch', rfl⟩)
  · obtain ⟨-, v', hfound', halike⟩ := hfound.anywhere hrunner (fromRoot_grounded habs) hw
    exact ⟨by simp, v', (runs_stage_bind _ _ _).mpr (Or.inr ⟨e, hfound', rfl⟩), halike⟩

theorem releaseFor_follows {root : Path} (hrunner : runner.Placeless) (hw : w.Alike v)
    (hroot : resolveRoot env request.root = pure root) (habs : root.isAbsolute = true)
    (htoolchain : SameResults runner may w v (resolveToolchain env request.toolchain).run
      (resolveToolchain env request.toolchain).run) :
    w.Follows runner may v (releaseFor env host request).run (fun _ => True) := by
  have hconfigure := configure_follows hrunner hw hroot habs htoolchain
  unfold releaseFor
  cases selectArch request.arch with
  | error e => exact fun r w' hrun => ⟨trivial, v, ⟨hrun.1, rfl⟩, hrun.2 ▸ hw⟩
  | ok arch =>
    change w.Follows runner may v
      (Stage.orElse (configure env request) RunError.setup >>= _).run (fun _ => True)
    refine follows_stage_bind (follows_orElse _ hconfigure) (fun found w₁ v₁ hfound halike => ?_)
    have hrelease := release_grounded found.2 host arch hfound
    exact ((hrelease.orElse _).mono fun _ _ => trivial).follows hrunner halike

theorem command_follows {root : Path} {arguments : List String} (hrunner : runner.Placeless)
    (hw : w.Alike v) (hargs : ReleaseRequest.ofArguments arguments = .ok request)
    (hroot : resolveRoot env request.root = pure root) (habs : root.isAbsolute = true)
    (htoolchain : SameResults runner may w v (resolveToolchain env request.toolchain).run
      (resolveToolchain env request.toolchain).run) :
    w.Follows runner may v (command env host arguments) (fun _ => True) := by
  have hrelease : w.Follows runner may v (releaseFor env host request).run (fun _ => True) :=
    releaseFor_follows hrunner hw hroot habs htoolchain
  have hrest := follows_bind hrelease
    (fun result w₁ v₁ _ halike => follows_of_tells (tellResult_only (Palette.ofEnvironment env)
      request.output 0 result) halike)
  rw [command_of_request hargs, runRequest_eq]
  refine follows_logged _ hw ?_
  -- Reading the clock changes nothing.
  rintro r w' ⟨began, w₁, hclock, hrun⟩
  obtain ⟨rfl, rfl⟩ := Prod.mk.inj hclock
  obtain ⟨-, v', hrun', halike⟩ := hrest r w' hrun
  exact ⟨trivial, v', ⟨0, v, rfl, hrun'⟩, halike⟩

/-! ## What is overridden -/

/-- Two starts of a command that differ only in what something above it decides. -/
inductive Overridden (runner : Runner σ) (may : Refusals) (request : ReleaseRequest) :
    (env env' : Environment) → (w v : World σ) → Prop
  /-- An absolute root is asked for: neither its variable nor the current directory matters. -/
  | rootOption {env env' : Environment} {w v : World σ} {root : Path}
    (asked : request.root = some root) (absolute : root.isAbsolute = true)
    (agree : env.AgreesOff [rootVariable] env')
    (toolchain : SameResults runner may w v (resolveToolchain env request.toolchain).run
      (resolveToolchain env' request.toolchain).run) :
    Overridden runner may request env env' w v
  /-- The variable holds an absolute root: the current directory does not matter. -/
  | rootFromVariable {env env' : Environment} {w v : World σ} {text : String}
    (unasked : request.root = none) (set : env.getNonempty? rootVariable = some text)
    (absolute : Path.isAbsolute ⟨text⟩ = true) (agree : env.AgreesOff [] env')
    (toolchain : SameResults runner may w v (resolveToolchain env request.toolchain).run
      (resolveToolchain env' request.toolchain).run) :
    Overridden runner may request env env' w v
  /-- A toolchain is asked for: neither its variable nor the search path matters. -/
  | toolchainOption {env env' : Environment} {w : World σ} {toolchain : Path}
    (asked : request.toolchain = some toolchain) (absolute : toolchain.isAbsolute = true)
    (agree : env.AgreesOff [toolchainVariable, "PATH"] env') :
    Overridden runner may request env env' w w
  /-- The variable holds a toolchain: the search path does not matter. -/
  | toolchainFromVariable {env env' : Environment} {w : World σ} {text : String}
    (unasked : request.toolchain = none) (set : env.getNonempty? toolchainVariable = some text)
    (absolute : Path.isAbsolute ⟨text⟩ = true) (agree : env.AgreesOff ["PATH"] env') :
    Overridden runner may request env env' w w
  /-- An empty variable is like one that is not set. -/
  | emptyVariable {env env' : Environment} {w : World σ} {name : String}
    (known : name = rootVariable ∨ name = toolchainVariable)
    (empty : env.get? name = some "") (unset : env'.get? name = none)
    (agree : env.AgreesOff [name] env') :
    Overridden runner may request env env' w w

theorem getNonempty?_congr {name : String} (h : env'.get? name = env.get? name) :
    env'.getNonempty? name = env.getNonempty? name := by
  simp only [Environment.getNonempty?, h]

theorem resolveRoot_congr (choice : Option Path)
    (h : choice = none → env'.getNonempty? rootVariable = env.getNonempty? rootVariable) :
    resolveRoot env' choice = resolveRoot env choice := by
  cases choice with
  | some path => rfl
  | none => simp only [resolveRoot, h rfl]

theorem resolveToolchain_congr (choice : Option Path)
    (hset : choice = none →
      env'.getNonempty? toolchainVariable = env.getNonempty? toolchainVariable)
    (hsearch : choice = none → env.getNonempty? toolchainVariable = none →
      search env' toolchainProgram = search env toolchainProgram) :
    resolveToolchain env' choice = resolveToolchain env choice := by
  cases choice with
  | some path => rfl
  | none =>
    simp only [resolveToolchain, hset rfl]
    cases htext : env.getNonempty? toolchainVariable with
    | some text => rfl
    | none => exact hsearch rfl htext

theorem Overridden.same (h : Overridden runner may request env env' w v) :
    env.AgreesOff sourceVariables env' ∧
      resolveRoot env' request.root = resolveRoot env request.root ∧
      resolveToolchain env' request.toolchain = resolveToolchain env request.toolchain := by
  cases h with
  | rootOption asked _ agree _ =>
    have hall : env.AgreesOff sourceVariables env' := agree.mono (by simp [sourceVariables])
    refine ⟨hall, resolveRoot_congr _ (by simp [asked]), resolveToolchain_congr _ (fun _ => ?_)
      (fun _ _ => search_congr hall (agree _ (by decide)) _)⟩
    exact getNonempty?_congr (agree _ (by decide))
  | rootFromVariable _ _ _ agree _ =>
    have hall : env.AgreesOff sourceVariables env' := agree.mono (by simp)
    refine ⟨hall, resolveRoot_congr _ (fun _ => ?_), resolveToolchain_congr _ (fun _ => ?_)
      (fun _ _ => search_congr hall (agree _ (by simp)) _)⟩ <;>
    exact getNonempty?_congr (agree _ (by simp))
  | toolchainOption asked _ agree =>
    refine ⟨agree.mono (by simp [sourceVariables]), resolveRoot_congr _ (fun _ => ?_),
      resolveToolchain_congr _ (by simp [asked]) (by simp [asked])⟩
    exact getNonempty?_congr (agree _ (by decide))
  | toolchainFromVariable _ set _ agree =>
    refine ⟨agree.mono (by simp [sourceVariables]), resolveRoot_congr _ (fun _ => ?_),
      resolveToolchain_congr _ (fun _ => ?_) (by simp [set])⟩ <;>
    exact getNonempty?_congr (agree _ (by decide))
  | @emptyVariable name known empty unset agree =>
    have hnames : ∀ other, env'.getNonempty? other = env.getNonempty? other := by
      intro other
      by_cases hname : other = name
      · subst hname
        rw [Environment.getNonempty?, Environment.getNonempty?, empty, unset]
        rfl
      · exact getNonempty?_congr (agree other (by simpa using hname))
    have hall : env.AgreesOff sourceVariables env' :=
      agree.mono (by rcases known with rfl | rfl <;> simp [sourceVariables])
    have hpath : env'.get? "PATH" = env.get? "PATH" :=
      agree _ (by rcases known with rfl | rfl <;> decide)
    exact ⟨hall, resolveRoot_congr _ (fun _ => hnames _), resolveToolchain_congr _
      (fun _ => hnames _) (fun _ _ => search_congr hall hpath _)⟩

theorem Overridden.starts (h : Overridden runner may request env env' w v) :
    w = v ∨ ∃ root, resolveRoot env request.root = pure root ∧ root.isAbsolute = true ∧
      SameResults runner may w v (resolveToolchain env request.toolchain).run
        (resolveToolchain env request.toolchain).run := by
  obtain ⟨-, -, htoolchain⟩ := h.same
  cases h with
  | rootOption asked absolute _ same =>
    rw [htoolchain] at same
    exact Or.inr ⟨_, by rw [asked, resolveRoot], absolute, same⟩
  | rootFromVariable unasked set absolute _ same =>
    rw [htoolchain] at same
    exact Or.inr ⟨_, by simp only [unasked, resolveRoot, set], absolute, same⟩
  | toolchainOption | toolchainFromVariable | emptyVariable => exact Or.inl rfl

/-- Whatever something above it decides makes no difference to a release: it starts the same
processes, leaves the same files, and ends and tells the same. -/
theorem overridden_never_matters (hrunner : runner.Placeless) (hw : w.Alike v)
    (h : Overridden runner may request env env' w v) :
    w.Outcomes runner may (releaseFor env host request).run
        = v.Outcomes runner may (releaseFor env' host request).run ∧
      ∀ arguments, ReleaseRequest.ofArguments arguments = .ok request →
        w.Outcomes runner may (command env host arguments)
          = v.Outcomes runner may (command env' host arguments) := by
  obtain ⟨hagree, hroot, htoolchain⟩ := h.same
  have hrelease : releaseFor env' host request = releaseFor env host request :=
    releaseFor_congr hroot htoolchain
  rw [hrelease]
  rcases h.starts with rfl | ⟨root, hroot, habs, hsame⟩
  · exact ⟨rfl, fun arguments hargs => by rw [command_congr hagree hargs hrelease]⟩
  · have hback : SameResults runner may v w (resolveToolchain env request.toolchain).run
        (resolveToolchain env request.toolchain).run := fun r => (hsame r).symm
    refine ⟨Set.Subset.antisymm ?_ ?_, fun arguments hargs => ?_⟩
    · exact (releaseFor_follows hrunner hw hroot habs hsame).subset
    · exact (releaseFor_follows hrunner hw.symm hroot habs hback).subset
    · rw [command_congr hagree hargs hrelease]
      exact Set.Subset.antisymm (command_follows hrunner hw hargs hroot habs hsame).subset
        (command_follows hrunner hw.symm hargs hroot habs hback).subset

theorem honestRunner_placeless (R : Location) (os : Os) (content : Bytes) :
    (honestRunner R os content id).Placeless := by
  intro i m n s hm
  unfold honestRunner
  split
  · exact ⟨rfl, ⟨by rw [hm.files], hm.now⟩, rfl⟩
  · split
    · exact ⟨rfl, hm, rfl⟩
    · exact ⟨rfl, hm, rfl⟩

/-- The fresh project, with the program started somewhere else. -/
def strayWorld : World Unit :=
  { freshWorld with machine := { freshWorld.machine with directory := ["work", "src"] } }

/-- With both options given, a release of the fresh project is the same from its sources and with
another root in the environment. -/
theorem fresh_release_same_elsewhere :
    (freshWorld.Outcomes (honestRunner ["work"] .linux [] id) Refusals.never
        (command [(rootVariable, "elsewhere")] (.ok .linux)
          ["--root", "/work", "--toolchain", "/opt/dotnet"])
      = strayWorld.Outcomes (honestRunner ["work"] .linux [] id) Refusals.never
        (command [] (.ok .linux) ["--root", "/work", "--toolchain", "/opt/dotnet"])) := by
  let request : ReleaseRequest := { root := some ⟨"/work"⟩, toolchain := some ⟨"/opt/dotnet"⟩ }
  have hsame : SameResults (honestRunner ["work"] .linux [] id) Refusals.never freshWorld strayWorld
      (resolveToolchain [(rootVariable, "elsewhere")] request.toolchain).run
      (resolveToolchain [] request.toolchain).run :=
    fun r => ⟨fun ⟨_, h⟩ => ⟨strayWorld, h.1, rfl⟩, fun ⟨_, h⟩ => ⟨freshWorld, h.1, rfl⟩⟩
  have hagree : Environment.AgreesOff [rootVariable] [(rootVariable, "elsewhere")] [] := by
    intro name hname
    have hne : (name == rootVariable) = false := by simpa using hname
    simp [Environment.get?, List.lookup_cons, hne]
  have hargs : ReleaseRequest.ofArguments ["--root", "/work", "--toolchain", "/opt/dotnet"]
      = .ok request := by rfl
  have halike : freshWorld.Alike strayWorld := ⟨⟨rfl, rfl⟩, rfl, rfl, rfl, rfl⟩
  have hover : Overridden (honestRunner ["work"] .linux [] id) Refusals.never request
      [(rootVariable, "elsewhere")] [] freshWorld strayWorld :=
    .rootOption rfl (by decide) hagree hsame
  exact (overridden_never_matters (honestRunner_placeless _ _ _) halike hover).2 _ hargs

end Slipway
