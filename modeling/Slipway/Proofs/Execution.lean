import Mathlib.Tactic.Common
import Slipway.Console.Log
import Slipway.Machine.World

/-!
# Runs of programs

`Runs` relates a program to its results and the worlds that it can leave. Each action either does
what the machine does, or is refused, if the system may refuse it: then it changes nothing, but a
refused write may have written some of its bytes. When nothing may be refused, there is one run.
What holds of every action of a program and can be put end to end holds of its runs. A log changes
nothing but what is told.
-/

namespace Slipway

/-- The file actions that the system may refuse although the files would allow them. -/
abbrev Refusals := FileAction → Prop

/-- A system that refuses nothing on its own account. -/
def Refusals.never : Refusals := fun _ => False

/-- The reply of a refused action. A question is answered with no. -/
def FileAction.failure (e : SystemError) : (a : FileAction) → a.Reply
  | .currentDirectory => .error e
  | .canonicalize _ => .error e
  | .pathExists _ => false
  | .isRegularFile _ => false
  | .isDirectory _ => false
  | .isExecutable _ => false
  | .makeDirectory _ => .error e
  | .openRead _ => .error e
  | .openWrite _ _ => .error e
  | .read _ _ _ => .error e
  | .write _ _ _ => .error e
  | .describeOpen _ => .error e
  | .describe _ => .error e
  | .remove _ => .error e
  | .rename _ _ => .error e

/-- A write that stops after the bytes `kept`. -/
inductive Machine.CutShort (m : Machine) : FileAction → Machine → Prop
  | write {file : Handle} {offset : Nat} {bytes kept : Bytes} {files : FileSystem}
    (part : kept <+: bytes) (wrote : m.files.write file offset kept m.now = .ok files) :
    CutShort m (.write file offset bytes) { m with files }

/-- A reply to a file action, and the machine it leaves. -/
def Machine.Performs (may : Refusals) (m : Machine) (a : FileAction) (r : a.Reply)
    (m' : Machine) : Prop :=
  (r, m') = m.reply a ∨ may a ∧ (∃ e, r = a.failure e) ∧ (m' = m ∨ m.CutShort a m')

namespace World

variable {σ α β ε δ : Type} {runner : Runner σ} {may : Refusals} {w w' : World σ}

/-- A reply to an action, and the world it leaves. -/
def Answers (runner : Runner σ) (may : Refusals) (w : World σ) :
    (a : Action) → a.Reply → World σ → Prop
  | .file a, r, w' => ∃ m, w.machine.Performs may a r m ∧ w' = { w with machine := m }
  | .start invocation, r, w' => (r, w') = w.reply runner (.start invocation)
  | .note event, r, w' => (r, w') = w.reply runner (.note event)
  | .print line, r, w' => (r, w') = w.reply runner (.print line)
  | .complain line, r, w' => (r, w') = w.reply runner (.complain line)
  | .clock, r, w' => (r, w') = w.reply runner .clock

/-- A result of a program, and the world it leaves. -/
def Runs (runner : Runner σ) (may : Refusals) (w : World σ) : Program α → α → World σ → Prop
  | .done a, r, w' => r = a ∧ w' = w
  | .ask action next, r, w' =>
    ∃ reply w₁, w.Answers runner may action reply w₁ ∧ w₁.Runs runner may (next reply) r w'

/-! ## Plain runs -/

theorem answers_reply (a : Action) :
    w.Answers runner may a (w.reply runner a).1 (w.reply runner a).2 := by
  cases a with
  | file a => exact ⟨_, Or.inl rfl, rfl⟩
  | _ => rfl

theorem runs_run (runner : Runner σ) (may : Refusals) (w : World σ) (p : Program α) :
    w.Runs runner may p (w.run runner p).1 (w.run runner p).2 := by
  induction p generalizing w with
  | done a => exact ⟨rfl, rfl⟩
  | ask action next ih => exact ⟨_, _, answers_reply action, ih _ _⟩

theorem runs_of_run_eq {p : Program α} {r : α} (h : (w.run runner p).1 = r) :
    w.Runs runner may p r (w.run runner p).2 :=
  h ▸ runs_run runner may w p

theorem runs_of_run {p : Program α} {r : α} (h : (w.run runner p).1 = r) :
    ∃ w', w.Runs runner may p r w' :=
  ⟨_, runs_of_run_eq h⟩

theorem Answers.eq_reply {a : Action} {r : a.Reply}
    (h : w.Answers runner Refusals.never a r w') : (r, w') = w.reply runner a := by
  cases a with
  | file a =>
    obtain ⟨m, hm | ⟨hmay, -⟩, rfl⟩ := h
    · obtain ⟨rfl, rfl⟩ := Prod.mk.inj hm
      rfl
    · exact hmay.elim
  | _ => exact h

theorem Runs.eq_run {p : Program α} {r : α} (h : w.Runs runner Refusals.never p r w') :
    w.run runner p = (r, w') := by
  induction p generalizing w with
  | done a => obtain ⟨rfl, rfl⟩ := h; rfl
  | ask action next ih =>
    obtain ⟨reply, w₁, ha, hrest⟩ := h
    have hrun : w.run runner (.ask action next)
        = (w.reply runner action).2.run runner (next (w.reply runner action).1) := rfl
    rw [hrun, ← ha.eq_reply]
    exact ih reply hrest

theorem Runs.unique {p : Program α} {r r' : α} {w'' : World σ}
    (h : w.Runs runner Refusals.never p r w') (h' : w.Runs runner Refusals.never p r' w'') :
    r = r' ∧ w' = w'' :=
  Prod.mk.inj (h.eq_run.symm.trans h'.eq_run)

theorem run_bind (w : World σ) (p : Program α) (f : α → Program β) :
    w.run runner (p >>= f) = (w.run runner p).2.run runner (f (w.run runner p).1) := by
  change w.run runner (p.bind f) = _
  induction p generalizing w with
  | done a => rfl
  | ask action next ih => exact ih _ _

theorem run_file (w : World σ) (a : FileAction) : w.run runner (Program.file a)
    = ((w.machine.reply a).1, { w with machine := (w.machine.reply a).2 }) := rfl

/-! ## Programs -/

@[simp]
theorem runs_pure (a r : α) : w.Runs runner may (pure a) r w' ↔ r = a ∧ w' = w := Iff.rfl

theorem runs_bind (p : Program α) (f : α → Program β) (r : β) :
    w.Runs runner may (p >>= f) r w' ↔
      ∃ a w₁, w.Runs runner may p a w₁ ∧ w₁.Runs runner may (f a) r w' := by
  change w.Runs runner may (p.bind f) r w' ↔ _
  induction p generalizing w with
  | done a =>
    constructor
    · intro h; exact ⟨a, w, ⟨rfl, rfl⟩, h⟩
    · rintro ⟨_, _, ⟨rfl, rfl⟩, h⟩; exact h
  | ask action next ih =>
    simp only [Program.bind, Runs, ih]
    constructor
    · rintro ⟨reply, w₁, ha, b, w₂, hb, h⟩; exact ⟨b, w₂, ⟨reply, w₁, ha, hb⟩, h⟩
    · rintro ⟨b, w₂, ⟨reply, w₁, ha, hb⟩, h⟩; exact ⟨reply, w₁, ha, b, w₂, hb, h⟩

theorem runs_perform (a : Action) (r : a.Reply) :
    w.Runs runner may (Program.perform a) r w' ↔ w.Answers runner may a r w' := by
  simp only [Program.perform, Runs]
  constructor
  · rintro ⟨_, _, h, rfl, rfl⟩; exact h
  · intro h; exact ⟨r, w', h, rfl, rfl⟩

theorem runs_file (a : FileAction) (r : a.Reply) :
    w.Runs runner may (Program.file a) r w' ↔
      ∃ m, w.machine.Performs may a r m ∧ w' = { w with machine := m } := by
  rw [Program.file, runs_perform]; rfl

/-! ## Stages -/

theorem runs_throw_bind (e : ε) (f : α → Stage ε β) (r : Except ε β) :
    w.Runs runner may (throw e >>= f : Stage ε β).run r w' ↔ r = .error e ∧ w' = w := Iff.rfl

theorem runs_ofExcept (x r : Except ε α) :
    w.Runs runner may (Stage.ofExcept x).run r w' ↔ r = x ∧ w' = w := Iff.rfl

/-- A stage that goes on after another one ends well, or ends with the other's error. -/
theorem runs_stage_bind (s : Stage ε α) (f : α → Stage ε β) (r : Except ε β) :
    w.Runs runner may (s >>= f).run r w' ↔
      (∃ a w₁, w.Runs runner may s.run (.ok a) w₁ ∧ w₁.Runs runner may (f a).run r w') ∨
      ∃ e, w.Runs runner may s.run (.error e) w' ∧ r = .error e := by
  rw [ExceptT.run_bind, runs_bind]
  constructor
  · rintro ⟨x | a, w₁, hs, h⟩
    · obtain ⟨rfl, rfl⟩ := h; exact Or.inr ⟨x, hs, rfl⟩
    · exact Or.inl ⟨a, w₁, hs, h⟩
  · rintro (⟨a, w₁, hs, h⟩ | ⟨e, hs, rfl⟩)
    · exact ⟨.ok a, w₁, hs, h⟩
    · exact ⟨.error e, w', hs, rfl, rfl⟩

theorem runs_stage_bind_ok (s : Stage ε α) (f : α → Stage ε β) (b : β) :
    w.Runs runner may (s >>= f).run (.ok b) w' ↔
      ∃ a w₁, w.Runs runner may s.run (.ok a) w₁ ∧ w₁.Runs runner may (f a).run (.ok b) w' := by
  rw [runs_stage_bind]
  constructor
  · rintro (h | ⟨e, -, he⟩)
    · exact h
    · exact absurd he (by simp)
  · exact Or.inl

theorem runs_lift (p : Program α) (r : Except ε α) :
    w.Runs runner may (ExceptT.lift p : Stage ε α).run r w' ↔
      ∃ a, r = .ok a ∧ w.Runs runner may p a w' := by
  change w.Runs runner may (p >>= fun a => pure (.ok a)) r w' ↔ _
  rw [runs_bind]
  constructor
  · rintro ⟨a, w₁, h, rfl, rfl⟩; exact ⟨a, rfl, h⟩
  · rintro ⟨a, rfl, h⟩; exact ⟨a, w', h, rfl, rfl⟩

theorem runs_lift_bind (p : Program α) (f : α → Stage ε β) (r : Except ε β) :
    w.Runs runner may (ExceptT.lift p >>= f : Stage ε β).run r w' ↔
      ∃ a w₁, w.Runs runner may p a w₁ ∧ w₁.Runs runner may (f a).run r w' := by
  rw [runs_stage_bind]
  constructor
  · rintro (⟨a, w₁, hp, h⟩ | ⟨e, hp, -⟩)
    · obtain ⟨a', ha, hp⟩ := (runs_lift _ _).mp hp
      obtain rfl := Except.ok.inj ha
      exact ⟨a, w₁, hp, h⟩
    · obtain ⟨a, ha, -⟩ := (runs_lift _ _).mp hp
      exact absurd ha (by simp)
  · rintro ⟨a, w₁, hp, h⟩
    exact Or.inl ⟨a, w₁, (runs_lift _ _).mpr ⟨a, rfl, hp⟩, h⟩

theorem runs_attempt (p : Program (Except SystemError α)) (r : Except SystemError α) :
    w.Runs runner may (Stage.attempt p).run r w' ↔ w.Runs runner may p r w' := Iff.rfl

theorem runs_orElse (s : Stage ε α) (wrap : ε → δ) (r : Except δ α) :
    w.Runs runner may (s.orElse wrap).run r w' ↔
      ∃ x, w.Runs runner may s.run x w' ∧ r = x.mapError wrap := by
  change w.Runs runner may (s.run >>= _) r w' ↔ _
  rw [runs_bind]
  constructor
  · rintro ⟨x | a, w₁, h, rfl, rfl⟩
    · exact ⟨.error x, h, rfl⟩
    · exact ⟨.ok a, h, rfl⟩
  · rintro ⟨x | a, h, rfl⟩
    · exact ⟨.error x, w', h, rfl, rfl⟩
    · exact ⟨.ok a, w', h, rfl, rfl⟩

theorem runs_orElse_ok {s : Stage ε α} {wrap : ε → δ} {a : α} :
    w.Runs runner may (s.orElse wrap).run (.ok a) w' ↔ w.Runs runner may s.run (.ok a) w' := by
  rw [runs_orElse]
  constructor
  · rintro ⟨x | b, h, hx⟩
    · exact absurd hx (by simp [Except.mapError])
    · obtain rfl := Except.ok.inj hx
      exact h
  · intro h
    exact ⟨.ok a, h, rfl⟩

theorem runs_orElse_error {s : Stage ε α} {wrap : ε → δ} {d : δ} :
    w.Runs runner may (s.orElse wrap).run (.error d) w' ↔
      ∃ e, d = wrap e ∧ w.Runs runner may s.run (.error e) w' := by
  rw [runs_orElse]
  constructor
  · rintro ⟨x | b, h, hx⟩
    · exact ⟨x, Except.error.inj hx, h⟩
    · exact absurd hx (by simp [Except.mapError])
  · rintro ⟨e, rfl, h⟩
    exact ⟨.error e, h, rfl⟩

end World

variable {σ α β ε δ : Type}

/-! ## Kinds of actions -/

/-- The file actions that change nothing. -/
def FileAction.Asks : FileAction → Prop
  | .makeDirectory _ | .openWrite _ _ | .write _ _ _ | .remove _ | .rename _ _ => False
  | _ => True

def Action.Asks : Action → Prop
  | .file action => action.Asks
  | .start _ => False
  | _ => True

def Action.StartsNothing : Action → Prop
  | .start _ => False
  | _ => True

/-- The current directories of the processes stay. -/
def Action.Stays : Action → Prop
  | .start _ => False
  | .file (.rename _ _) => False
  | _ => True

namespace Program

variable {kind : Action → Prop}

/-- All actions that the program can come to are of the kind. -/
def Only (kind : Action → Prop) : Program α → Prop
  | .done _ => True
  | .ask action next => kind action ∧ ∀ reply, (next reply).Only kind

theorem only_pure (a : α) : (pure a : Program α).Only kind := trivial

theorem only_perform {action : Action} (h : kind action) : (perform action).Only kind :=
  ⟨h, fun _ => trivial⟩

theorem only_bind {p : Program α} {f : α → Program β} (hp : p.Only kind)
    (hf : ∀ a, (f a).Only kind) : (p >>= f).Only kind := by
  change (p.bind f).Only kind
  induction p with
  | done a => exact hf a
  | ask action next ih => exact ⟨hp.1, fun reply => ih reply (hp.2 reply)⟩

theorem Only.mono {other : Action → Prop} {p : Program α} (h : p.Only kind)
    (hk : ∀ a, kind a → other a) : p.Only other := by
  induction p with
  | done a => trivial
  | ask action next ih => exact ⟨hk _ h.1, fun reply => ih reply (h.2 reply)⟩

end Program

theorem Action.Stays.startsNothing {a : Action} (h : a.Stays) : a.StartsNothing := by
  cases a <;> first | exact h | trivial

theorem Action.Asks.stays {a : Action} (h : a.Asks) : a.Stays := by
  cases a with
  | file a => cases a <;> first | exact h | trivial
  | start i => exact h
  | _ => trivial

theorem Action.Asks.startsNothing {a : Action} (h : a.Asks) : a.StartsNothing :=
  h.stays.startsNothing

/-- The actions that look at what is in one open file. -/
def Action.Reads (file : Handle) : Action → Prop
  | .file (.read other _ _) => other = file
  | .file (.describeOpen other) => other = file
  | _ => False

theorem Action.Reads.asks {file : Handle} {a : Action} (h : a.Reads file) : a.Asks := by
  cases a with
  | file a => cases a <;> first | exact h.elim | trivial
  | _ => exact h.elim

namespace Stage

variable {kind : Action → Prop}

theorem only_pure (a : α) : (pure a : Stage ε α).run.Only kind := trivial

theorem only_throw (e : ε) : (throw e : Stage ε α).run.Only kind := trivial

theorem only_ofExcept (r : Except ε α) : (ofExcept r).run.Only kind := trivial

theorem only_bind {s : Stage ε α} {f : α → Stage ε β} (hs : s.run.Only kind)
    (hf : ∀ a, (f a).run.Only kind) : (s >>= f).run.Only kind := by
  rw [ExceptT.run_bind]
  refine Program.only_bind hs (fun r => ?_)
  cases r with
  | error e => trivial
  | ok a => exact hf a

theorem only_lift {p : Program α} (hp : p.Only kind) :
    (ExceptT.lift p : Stage ε α).run.Only kind :=
  Program.only_bind hp (fun _ => trivial)

theorem only_orElse {s : Stage ε α} {wrap : ε → δ} (hs : s.run.Only kind) :
    (s.orElse wrap).run.Only kind := by
  refine Program.only_bind hs (fun r => ?_)
  cases r <;> trivial

theorem only_note {event : Event} (h : kind (.note event)) :
    (note event : Stage ε Unit).run.Only kind :=
  only_lift (Program.only_perform h)

end Stage

/-! ## Runs of one kind of actions -/

namespace World

variable {runner : Runner σ} {may : Refusals} {w w' : World σ} {p : Program α} {r : α}

/-- A preorder on worlds that each action of a kind respects holds between the ends of a run. -/
theorem Runs.only {kind : Action → Prop} {R : World σ → World σ → Prop}
    (h : w.Runs runner may p r w') (hp : p.Only kind) (refl : ∀ w, R w w)
    (trans : ∀ {w₁ w₂ w₃}, R w₁ w₂ → R w₂ w₃ → R w₁ w₃)
    (step : ∀ {a w₁ r w₂}, kind a → w₁.Answers runner may a r w₂ → R w₁ w₂) : R w w' := by
  induction p generalizing w with
  | done a => obtain ⟨-, rfl⟩ := h; exact refl w'
  | ask action next ih =>
    obtain ⟨reply, w₁, ha, hrest⟩ := h
    exact trans (step hp.1 ha) (ih reply hrest (hp.2 reply))

/-- Nothing was started. -/
def Idle (w w' : World σ) : Prop := w'.runner = w.runner ∧ w'.started = w.started

theorem Idle.refl (w : World σ) : w.Idle w := ⟨rfl, rfl⟩

theorem Idle.trans {w'' : World σ} (h : w.Idle w') (h' : w'.Idle w'') : w.Idle w'' :=
  ⟨h'.1.trans h.1, h'.2.trans h.2⟩

/-- Nothing was started and the machine is as it was. -/
def Untouched (w w' : World σ) : Prop := w'.machine = w.machine ∧ w.Idle w'

theorem Untouched.trans {w'' : World σ} (h : w.Untouched w') (h' : w'.Untouched w'') :
    w.Untouched w'' :=
  ⟨h'.1.trans h.1, h.2.trans h'.2⟩

end World

theorem Machine.performs_asks {may : Refusals} {m m' : Machine} {a : FileAction} {r : a.Reply}
    (h : m.Performs may a r m') (ha : a.Asks) : m' = m := by
  rcases h with h | ⟨-, -, rfl | hcut⟩
  · have hm : m' = (m.reply a).2 := congrArg Prod.snd h
    cases a <;> first | exact hm | exact ha.elim
  · rfl
  · cases hcut
    exact ha.elim

namespace World

variable {runner : Runner σ} {may : Refusals} {w w' : World σ} {p : Program α} {r : α}

theorem Answers.idle {a : Action} {r : a.Reply} (h : w.Answers runner may a r w')
    (ha : a.StartsNothing) : w.Idle w' := by
  cases a with
  | file a => obtain ⟨m, -, rfl⟩ := h; exact ⟨rfl, rfl⟩
  | start i => exact ha.elim
  | _ => have hw := congrArg Prod.snd h; subst hw; exact ⟨rfl, rfl⟩

theorem Answers.untouched {a : Action} {r : a.Reply} (h : w.Answers runner may a r w')
    (ha : a.Asks) : w.Untouched w' := by
  refine ⟨?_, h.idle ha.startsNothing⟩
  cases a with
  | file a =>
    obtain ⟨m, hm, rfl⟩ := h
    exact Machine.performs_asks hm ha
  | start i => exact ha.elim
  | _ => have hw := congrArg Prod.snd h; subst hw; rfl

theorem Runs.idle (h : w.Runs runner may p r w') (hp : p.Only Action.StartsNothing) : w.Idle w' :=
  h.only hp Idle.refl Idle.trans (fun ha hw => hw.idle ha)

theorem Runs.untouched (h : w.Runs runner may p r w') (hp : p.Only Action.Asks) :
    w.Untouched w' :=
  h.only hp (fun w => ⟨rfl, Idle.refl w⟩) Untouched.trans (fun ha hw => hw.untouched ha)

theorem runs_note {event : Event} {x : Except ε Unit} :
    w.Runs runner may (Stage.note event : Stage ε Unit).run x w' ↔
      x = .ok () ∧ w' = { w with messages := .event event :: w.messages } := by
  rw [Stage.note, runs_lift]
  constructor
  · rintro ⟨a, rfl, h⟩
    rw [runs_perform] at h
    exact ⟨rfl, congrArg Prod.snd h⟩
  · rintro ⟨rfl, rfl⟩
    exact ⟨(), rfl, (runs_perform _ _).mpr rfl⟩

theorem runs_note_bind {event : Event} {f : Unit → Stage ε β} {x : Except ε β} :
    w.Runs runner may (Stage.note event >>= f).run x w' ↔
      World.Runs runner may { w with messages := .event event :: w.messages } (f ()).run x w' := by
  rw [runs_stage_bind]
  constructor
  · rintro (⟨a, w₁, hn, h⟩ | ⟨e, hn, -⟩)
    · obtain ⟨-, rfl⟩ := runs_note.mp hn
      exact h
    · exact absurd (runs_note.mp hn).1 (by simp)
  · intro h
    exact Or.inl ⟨(), _, runs_note.mpr ⟨rfl, rfl⟩, h⟩

end World

/-! ## Actions on files -/

namespace Machine

variable {may : Refusals} {m m' : Machine}

theorem performs_ok {a : FileAction} {r : a.Reply} (h : m.Performs may a r m')
    (hr : ∀ e, r ≠ a.failure e) : r = (m.reply a).1 ∧ m' = (m.reply a).2 := by
  rcases h with h | ⟨-, ⟨e, he⟩, -⟩
  · exact ⟨congrArg Prod.fst h, congrArg Prod.snd h⟩
  · exact absurd he (hr e)

theorem performs_makeDirectory {path : Path} {r : Except SystemError Unit}
    (h : m.Performs may (.makeDirectory path) r m') :
    ((∃ e, r = .error e) ∧ m' = m) ∨
      r = .ok () ∧ ∃ files, m.files.makeDirectory m.directory path = .ok files ∧
        m' = { m with files } := by
  rcases h with h | ⟨-, ⟨e, rfl⟩, rfl | hcut⟩
  · cases hfs : m.files.makeDirectory m.directory path with
    | error e =>
      simp only [reply, hfs, change, Prod.mk.injEq] at h
      exact Or.inl ⟨⟨e, h.1⟩, h.2⟩
    | ok files =>
      simp only [reply, hfs, change, Prod.mk.injEq] at h
      exact Or.inr ⟨h.1, files, rfl, h.2⟩
  · exact Or.inl ⟨⟨e, rfl⟩, rfl⟩
  · cases hcut

theorem performs_remove {path : Path} {r : Except SystemError Unit}
    (h : m.Performs may (.remove path) r m') :
    ((∃ e, r = .error e) ∧ m' = m ∧
        (may (.remove path) ∨ ∃ e, m.files.remove m.directory path = .error e)) ∨
      r = .ok () ∧ ∃ files, m.files.remove m.directory path = .ok files ∧
        m' = { m with files } := by
  rcases h with h | ⟨hmay, ⟨e, rfl⟩, rfl | hcut⟩
  · cases hfs : m.files.remove m.directory path with
    | error e =>
      simp only [reply, hfs, change, Prod.mk.injEq] at h
      exact Or.inl ⟨⟨e, h.1⟩, h.2, Or.inr ⟨e, rfl⟩⟩
    | ok files =>
      simp only [reply, hfs, change, Prod.mk.injEq] at h
      exact Or.inr ⟨h.1, files, rfl, h.2⟩
  · exact Or.inl ⟨⟨e, rfl⟩, rfl, Or.inl hmay⟩
  · cases hcut

theorem performs_openWrite {creation : Creation} {path : Path} {r : Except SystemError Handle}
    (h : m.Performs may (.openWrite creation path) r m') :
    ((∃ e, r = .error e) ∧ m' = m) ∨
      ∃ files file, r = .ok file ∧
        m.files.openWrite m.directory creation path m.now = .ok (files, file) ∧
        m' = { m with files } := by
  rcases h with h | ⟨-, ⟨e, rfl⟩, rfl | hcut⟩
  · cases hfs : m.files.openWrite m.directory creation path m.now with
    | error e =>
      simp only [reply, hfs, opened, Prod.mk.injEq] at h
      exact Or.inl ⟨⟨e, h.1⟩, h.2⟩
    | ok opened' =>
      obtain ⟨files, file⟩ := opened'
      simp only [reply, hfs, opened, Prod.mk.injEq] at h
      exact Or.inr ⟨files, file, h.1, rfl, h.2⟩
  · exact Or.inl ⟨⟨e, rfl⟩, rfl⟩
  · cases hcut

/-- A write puts all of its bytes into the file, or fails and puts some of them there. -/
theorem performs_write {file : Handle} {offset : Nat} {bytes : Bytes}
    {r : Except SystemError Unit} (h : m.Performs may (.write file offset bytes) r m') :
    ((∃ e, r = .error e) ∧ m' = m) ∨
      ∃ kept files, kept <+: bytes ∧ (r = .ok () → kept = bytes) ∧
        m.files.write file offset kept m.now = .ok files ∧ m' = { m with files } := by
  rcases h with h | ⟨-, ⟨e, rfl⟩, rfl | hcut⟩
  · cases hfs : m.files.write file offset bytes m.now with
    | error e =>
      simp only [reply, hfs, change, Prod.mk.injEq] at h
      exact Or.inl ⟨⟨e, h.1⟩, h.2⟩
    | ok files =>
      simp only [reply, hfs, change, Prod.mk.injEq] at h
      exact Or.inr ⟨bytes, files, List.prefix_refl _, fun _ => rfl, hfs, h.2⟩
  · exact Or.inl ⟨⟨e, rfl⟩, rfl⟩
  · cases hcut with
    | write part wrote =>
      exact Or.inr ⟨_, _, part, fun h => by simp [FileAction.failure] at h, wrote, rfl⟩

theorem performs_rename {origin destination : Path} {r : Except SystemError Unit}
    (h : m.Performs may (.rename origin destination) r m') :
    ((∃ e, r = .error e) ∧ m' = m) ∨
      r = .ok () ∧ ∃ moved, m.files.renameWith m.directory origin destination = .ok moved ∧
        m' = (m.renamed (.ok moved)).2 := by
  rcases h with h | ⟨-, ⟨e, rfl⟩, rfl | hcut⟩
  · cases hfs : m.files.renameWith m.directory origin destination with
    | error e =>
      simp only [reply, hfs, renamed, Prod.mk.injEq] at h
      exact Or.inl ⟨⟨e, h.1⟩, h.2⟩
    | ok moved =>
      refine Or.inr ⟨?_, moved, rfl, ?_⟩
      · have hr := congrArg Prod.fst h
        simp only [reply, hfs, renamed] at hr
        split at hr <;> exact hr
      · have hm := congrArg Prod.snd h
        simpa only [reply, hfs] using hm
  · exact Or.inl ⟨⟨e, rfl⟩, rfl⟩
  · cases hcut

/-- Only the files may differ. -/
def Stays (m m' : Machine) : Prop := m' = { m with files := m'.files }

theorem Stays.trans {m'' : Machine} (h : m.Stays m') (h' : m'.Stays m'') : m.Stays m'' := by
  unfold Stays at h h' ⊢
  rw [h', h]

theorem Stays.directory (h : m.Stays m') : m'.directory = m.directory := by rw [h]

theorem Stays.now (h : m.Stays m') : m'.now = m.now := by rw [h]

theorem performs_stays {a : FileAction} {r : a.Reply} (h : m.Performs may a r m')
    (ha : Action.Stays (.file a)) : m.Stays m' := by
  cases a with
  | makeDirectory path =>
    rcases performs_makeDirectory h with ⟨-, rfl⟩ | ⟨-, files, -, rfl⟩ <;> rfl
  | openWrite creation path =>
    rcases performs_openWrite h with ⟨-, rfl⟩ | ⟨files, file, -, -, rfl⟩ <;> rfl
  | write file offset bytes =>
    rcases performs_write h with ⟨-, rfl⟩ | ⟨kept, files, -, -, -, rfl⟩ <;> rfl
  | remove path =>
    rcases performs_remove h with ⟨-, rfl, -⟩ | ⟨-, files, -, rfl⟩ <;> rfl
  | rename origin destination => exact ha.elim
  | _ => rw [performs_asks h trivial]; rfl

end Machine

theorem World.Runs.stays {runner : Runner σ} {may : Refusals} {w w' : World σ} {p : Program α}
    {r : α} (h : w.Runs runner may p r w') (hp : p.Only Action.Stays) :
    w.Idle w' ∧ w.machine.Stays w'.machine := by
  refine h.only (R := fun w w' => w.Idle w' ∧ w.machine.Stays w'.machine) hp
    (fun w => ⟨Idle.refl w, rfl⟩) (fun h h' => ⟨h.1.trans h'.1, h.2.trans h'.2⟩) ?_
  intro a w₁ r w₂ ha hw
  refine ⟨hw.idle ha.startsNothing, ?_⟩
  cases a with
  | file a =>
    obtain ⟨m, hm, rfl⟩ := hw
    exact Machine.performs_stays hm ha
  | start i => exact ha.elim
  | _ => have hw := congrArg Prod.snd hw; subst hw; rfl

/-! ## Logged programs

A logged program does what the program does without its log. Only what it tells differs: the events
that the filter shows have become lines, and the others are left out.
-/

section Logged

open World

variable {runner : Runner σ} {may : Refusals} {w w' : World σ} {filter : LogFilter}

/-- What is left of a message under a filter. -/
def Message.shown (filter : LogFilter) : Message → Option Message
  | .event e => if filter.shows e then some (.problem e.line) else none
  | .problem line => some (.problem line)

/-- The same world, had other things been told before. -/
def World.telling (w : World σ) (messages : List Message) : World σ := { w with messages }

/-- An action that is no event is answered in the same way whatever was told before, and what it
tells stays under every filter. -/
theorem World.Answers.tells {a : Action} {r : a.Reply} (h : w.Answers runner may a r w')
    (filter : LogFilter)
    (ha : ∀ event, a ≠ .note event) :
    ∃ told, w'.messages = told ++ w.messages ∧ told.filterMap (Message.shown filter) = told ∧
      ∀ base, (w.telling base).Answers runner may a r (w'.telling (told ++ base)) := by
  cases a with
  | note event => exact absurd rfl (ha event)
  | complain line =>
    obtain ⟨rfl, rfl⟩ := Prod.mk.inj h
    exact ⟨[.problem line], rfl, rfl, fun _ => rfl⟩
  | file a =>
    obtain ⟨m, hm, rfl⟩ := h
    exact ⟨[], rfl, rfl, fun _ => ⟨m, hm, rfl⟩⟩
  | start _ | print _ | clock =>
    obtain ⟨rfl, rfl⟩ := Prod.mk.inj h
    exact ⟨[], rfl, rfl, fun _ => rfl⟩

theorem World.Runs.tells {p : Program α} {r : α} (h : w.Runs runner may p r w') :
    ∃ told, w'.messages = told ++ w.messages := by
  induction p generalizing w with
  | done a =>
    obtain ⟨-, rfl⟩ := h
    exact ⟨[], rfl⟩
  | ask action next ih =>
    obtain ⟨reply, w₁, ha, hrest⟩ := h
    have hstep : ∃ told, w₁.messages = told ++ w.messages := by
      by_cases hnote : ∃ event, action = .note event
      · obtain ⟨event, rfl⟩ := hnote
        obtain ⟨-, rfl⟩ := Prod.mk.inj ha
        exact ⟨[.event event], rfl⟩
      · obtain ⟨told, htold, -⟩ := ha.tells [] (fun event h => hnote ⟨event, h⟩)
        exact ⟨told, htold⟩
    obtain ⟨first, hfirst⟩ := hstep
    obtain ⟨later, hlater⟩ := ih reply hrest
    exact ⟨later ++ first, by rw [hlater, hfirst, List.append_assoc]⟩

theorem logged_ask {action : Action} {next : action.Reply → Program α}
    (h : ∀ event, action ≠ .note event) :
    (Program.ask action next).logged filter
      = .ask action (fun reply => (next reply).logged filter) := by
  cases action with
  | note event => exact absurd rfl (h event)
  | _ => rfl

theorem runs_logged_note {event : Event} {next : Unit → Program α} {r : α} (base : List Message) :
    (w.telling base).Runs runner may ((Program.ask (.note event) next).logged filter) r w' ↔
      (w.telling ([.event event].filterMap (Message.shown filter) ++ base)).Runs runner may
        ((next ()).logged filter) r w' := by
  simp only [Program.logged, List.filterMap_cons, List.filterMap_nil, Message.shown]
  split
  case isTrue =>
    constructor
    · rintro ⟨reply, v, hv, h⟩
      obtain ⟨rfl, rfl⟩ := Prod.mk.inj hv
      exact h
    · exact fun h => ⟨(), _, rfl, h⟩
  case isFalse => exact Iff.rfl

/-- The runs of a logged program are those of the program, with other messages. -/
theorem runs_logged {p : Program α} {r : α} (base : List Message) :
    (w.telling base).Runs runner may (p.logged filter) r w' ↔
      ∃ told w₁, w.Runs runner may p r w₁ ∧ w₁.messages = told ++ w.messages ∧
        w' = w₁.telling (told.filterMap (Message.shown filter) ++ base) := by
  -- The messages of the two runs differ, so the induction is over all that `base` may be.
  induction p generalizing w base with
  | done a =>
    constructor
    · rintro ⟨rfl, rfl⟩
      exact ⟨[], w, ⟨rfl, rfl⟩, rfl, rfl⟩
    · rintro ⟨told, w₁, ⟨rfl, rfl⟩, htold, rfl⟩
      obtain rfl := List.self_eq_append_left.mp htold
      exact ⟨rfl, rfl⟩
  | ask action next ih =>
    by_cases hnote : ∃ event, action = .note event
    · obtain ⟨event, rfl⟩ := hnote
      let w₁ : World σ := { w with messages := .event event :: w.messages }
      -- The event is in `w₁` from here on, and `base` has its line if the filter shows it.
      refine (runs_logged_note base).trans ((ih () (w := w₁) _).trans ?_)
      constructor
      · rintro ⟨told, w₂, h, htold, rfl⟩
        refine ⟨told ++ [.event event], w₂, ⟨(), w₁, rfl, h⟩, ?_, ?_⟩
        · rw [htold, List.append_assoc]
          rfl
        · rw [List.filterMap_append, List.append_assoc]
      · rintro ⟨told, w₂, ⟨reply, v, hv, h⟩, htold, rfl⟩
        obtain ⟨-, rfl⟩ := Prod.mk.inj hv
        obtain ⟨later, hlater⟩ := h.tells
        obtain rfl : told = later ++ [.event event] := by
          refine (List.append_left_inj w.messages).mp ?_
          rw [← htold, hlater, List.append_assoc]
          rfl
        exact ⟨later, w₂, h, hlater, by rw [List.filterMap_append, List.append_assoc]⟩
    · have hask : ∀ event, action ≠ .note event := fun event h => hnote ⟨event, h⟩
      rw [logged_ask hask]
      constructor
      · rintro ⟨reply, v, hv, hrest⟩
        obtain ⟨first, hfirst, hshown, ha⟩ := hv.tells filter hask
        have hv' : v = (v.telling (first ++ w.messages)).telling (first ++ base) := by
          rw [World.telling, World.telling, ← show v.messages = first ++ base from hfirst]
        rw [hv'] at hrest
        obtain ⟨told, w₂, h, htold, rfl⟩ := (ih reply (first ++ base)).mp hrest
        refine ⟨told ++ first, w₂, ⟨reply, _, ha w.messages, h⟩, ?_, ?_⟩
        · rw [htold, List.append_assoc]
          rfl
        · rw [List.filterMap_append, hshown, List.append_assoc]
      · rintro ⟨told, w₂, ⟨reply, w₁, hw₁, h⟩, htold, rfl⟩
        obtain ⟨first, hfirst, hshown, ha⟩ := hw₁.tells filter hask
        obtain ⟨later, hlater⟩ := h.tells
        obtain rfl : told = later ++ first := by
          refine (List.append_left_inj w.messages).mp ?_
          rw [← htold, hlater, hfirst, List.append_assoc]
        refine ⟨reply, _, ha base, (ih reply (first ++ base)).mpr ⟨later, w₂, h, hlater, ?_⟩⟩
        rw [List.filterMap_append, hshown, List.append_assoc]

end Logged

end Slipway
