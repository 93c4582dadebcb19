import Slipway.Proofs.Atomicity

/-!
# Programs at the same time

Programs that share a world take turns in any order, one action each. What a packaging may ask for
next, whatever it was answered so far, is a protocol with few states: how far it is before its
package is open, and what it has open afterwards.
-/

namespace Slipway

open FileSystem World

variable {σ α β ε : Type} {runner : Runner σ} {may : Refusals} {w w' : World σ} {fs : FileSystem}
  {top : Path} {file binary : Handle}

/-! ## Turns -/

/-- Programs that share a world. -/
structure Crowd (σ α : Type) where
  world : World σ
  calls : List (Program α)

/-- What the files were before and after an action, and whose action it was. -/
structure Deed where
  who : Nat
  before : FileSystem
  after : FileSystem

namespace Crowd

variable {c c' c'' : Crowd σ α} {deeds : List Deed}

def files (c : Crowd σ α) : FileSystem := c.world.machine.files

/-- One of the programs performs its next action. -/
inductive Steps (runner : Runner σ) (may : Refusals) (c : Crowd σ α) (who : Nat) :
    Crowd σ α → Prop
  | step {action : Action} {next : action.Reply → Program α} {reply : action.Reply}
    {world : World σ} (turn : c.calls[who]? = some (.ask action next))
    (answers : c.world.Answers runner may action reply world) :
    Steps runner may c who ⟨world, c.calls.set who (next reply)⟩

/-- The programs took turns in some order. The latest deed comes first. -/
inductive Goes (runner : Runner σ) (may : Refusals) (c : Crowd σ α) :
    List Deed → Crowd σ α → Prop
  | start : Goes runner may c [] c
  | turn {who : Nat} {deeds : List Deed} {c' c'' : Crowd σ α} (goes : Goes runner may c deeds c')
    (steps : c'.Steps runner may who c'') :
    Goes runner may c (⟨who, c'.files, c''.files⟩ :: deeds) c''

theorem Goes.trans {later : List Deed} (h : c.Goes runner may deeds c')
    (h' : c'.Goes runner may later c'') : c.Goes runner may (later ++ deeds) c'' := by
  induction h' with
  | start => exact h
  | turn _ steps ih => exact .turn ih steps

theorem Goes.of_nobody (h : c.Goes runner may deeds c') (hc : c.calls = []) :
    deeds = [] ∧ c' = c := by
  induction h with
  | start => exact ⟨rfl, rfl⟩
  | turn _ steps ih =>
    obtain ⟨-, rfl⟩ := ih
    cases steps with
    | step turn answers => simp [hc] at turn

theorem goes_of_runs {who : Nat} {p : Program α} {r : α} (hp : c.calls[who]? = some p)
    (h : c.world.Runs runner may p r w') :
    ∃ deeds, c.Goes runner may deeds ⟨w', c.calls.set who (.done r)⟩ := by
  induction p generalizing c with
  | done a =>
    obtain ⟨rfl, rfl⟩ := h
    obtain ⟨hlt, hget⟩ := List.getElem?_eq_some_iff.mp hp
    rw [← hget, List.set_getElem_self]
    exact ⟨[], .start⟩
  | ask action next ih =>
    obtain ⟨reply, w₁, hanswers, hrest⟩ := h
    obtain ⟨hlt, -⟩ := List.getElem?_eq_some_iff.mp hp
    obtain ⟨deeds, hgoes⟩ := ih reply (c := ⟨w₁, c.calls.set who (next reply)⟩)
      (List.getElem?_set_self hlt) hrest
    rw [List.set_set] at hgoes
    exact ⟨_, (Goes.start.turn (.step hp hanswers)).trans hgoes⟩

end Crowd

theorem World.Answers.elsewhere {v : World σ} {a : Action} {r : a.Reply}
    (h : w.Answers runner may a r w') (ha : a.StartsNothing) (hv : v.machine = w.machine) :
    ∃ v', v.Answers runner may a r v' ∧ v'.machine = w'.machine := by
  cases a with
  | file a =>
    obtain ⟨m, hm, rfl⟩ := h
    exact ⟨{ v with machine := m }, ⟨m, hv ▸ hm, rfl⟩, rfl⟩
  | start i => exact ha.elim
  | _ =>
    obtain ⟨hr, hw⟩ := Prod.mk.inj h
    subst hr hw
    exact ⟨_, rfl, hv⟩

/-- Who brought about what is at the place: the last one at whose turn something came there. -/
def makerOf : List Deed → Location → Option Nat
  | [], _ => none
  | deed :: earlier, q =>
    if deed.before.node? q = none ∧ deed.after.node? q ≠ none then some deed.who
    else makerOf earlier q

/-- What a deed changed or removed had been brought about by the same program. -/
def Deed.Owns (deed : Deed) (earlier : List Deed) : Prop :=
  ∀ q node, deed.before.node? q = some node → deed.after.node? q ≠ some node →
    makerOf earlier q = some deed.who

/-- No program ever changed or removed what another one had brought about, or what was there. -/
def Owned : List Deed → Prop
  | [] => True
  | deed :: earlier => deed.Owns earlier ∧ Owned earlier

theorem makerOf_of_some {deed : Deed} {deeds : List Deed} {q : Location}
    (h : deed.before.node? q ≠ none) : makerOf (deed :: deeds) q = makerOf deeds q :=
  if_neg fun hnew => h hnew.1

theorem makerOf_of_new {deed : Deed} {deeds : List Deed} {q : Location}
    (h : deed.before.node? q = none) (h' : deed.after.node? q ≠ none) :
    makerOf (deed :: deeds) q = some deed.who :=
  if_pos ⟨h, h'⟩

@[simp]
theorem makerOf_unchanged {who : Nat} {deeds : List Deed} {q : Location} :
    makerOf (⟨who, fs, fs⟩ :: deeds) q = makerOf deeds q :=
  if_neg fun hnew => hnew.2 hnew.1

theorem Deed.owns_of_kept {deed : Deed} {deeds : List Deed}
    (h : ∀ q node, deed.before.node? q = some node → deed.after.node? q = some node) :
    deed.Owns deeds :=
  fun q node hbefore hafter => absurd (h q node hbefore) hafter

/-! ## Protocols -/

/-- Whatever the replies, the program goes on as `takes` has it, from state to state, and ends as
`ends` has it. -/
def Program.Follows {S : Type} (takes : S → (a : Action) → a.Reply → S → Prop)
    (ends : S → α → Prop) : Program α → S → Prop
  | .done a, s => ends s a
  | .ask action next, s =>
    ∀ reply, ∃ s', takes s action reply s' ∧ (next reply).Follows takes ends s'

section Follows

variable {S : Type} {takes : S → (a : Action) → a.Reply → S → Prop} {s : S}

theorem Program.follows_bind {Q : S → α → Prop} {ends : S → β → Prop} {p : Program α}
    {f : α → Program β} (hp : p.Follows takes Q s)
    (hf : ∀ s a, Q s a → (f a).Follows takes ends s) : (p >>= f).Follows takes ends s := by
  change (p.bind f).Follows takes ends s
  induction p generalizing s with
  | done a => exact hf _ _ hp
  | ask action next ih =>
    intro reply
    obtain ⟨s', htakes, hnext⟩ := hp reply
    exact ⟨s', htakes, ih reply hnext⟩

/-- Actions that a state allows without end keep the program in it. -/
theorem Program.Only.follows {kind : Action → Prop} {p : Program α} (h : p.Only kind)
    (hk : ∀ a, kind a → ∀ reply, takes s a reply s) : p.Follows takes (fun s' _ => s' = s) s := by
  induction p with
  | done a => rfl
  | ask action next ih => exact fun reply => ⟨s, hk _ h.1 reply, ih reply (h.2 reply)⟩

theorem Stage.follows_bind {Q : S → Except ε α → Prop} {ends : S → Except ε β → Prop}
    {stage : Stage ε α} {f : α → Stage ε β} (hs : stage.run.Follows takes Q s)
    (hok : ∀ s a, Q s (.ok a) → (f a).run.Follows takes ends s)
    (herror : ∀ s e, Q s (.error e) → ends s (.error e)) :
    (stage >>= f).run.Follows takes ends s := by
  rw [ExceptT.run_bind]
  refine Program.follows_bind hs (fun s r hr => ?_)
  cases r with
  | error e => exact herror s e hr
  | ok a => exact hok s a hr

theorem Stage.follows_lift_bind {Q : S → α → Prop} {ends : S → Except ε β → Prop}
    {p : Program α} {f : α → Stage ε β} (hp : p.Follows takes Q s)
    (hf : ∀ s a, Q s a → (f a).run.Follows takes ends s) :
    (ExceptT.lift p >>= f : Stage ε β).run.Follows takes ends s :=
  Program.follows_bind (Q := fun s r => ∃ a, r = .ok a ∧ Q s a)
    (Program.follows_bind hp (fun _ a ha => ⟨a, rfl, ha⟩))
    (fun s _ hr => by obtain ⟨a, rfl, ha⟩ := hr; exact hf s a ha)

theorem Stage.follows_note_bind {ends : S → Except ε β → Prop} {event : Event}
    {f : Unit → Stage ε β} (htakes : takes s (.note event) () s)
    (hf : (f ()).run.Follows takes ends s) : (Stage.note event >>= f).run.Follows takes ends s :=
  Stage.follows_lift_bind (Q := fun s' _ => s' = s) (fun _ => ⟨s, htakes, rfl⟩)
    (fun _ _ hs => hs ▸ hf)

theorem Stage.follows_orElse {δ : Type} {ends : S → Except δ α → Prop} {stage : Stage ε α}
    {wrap : ε → δ} (h : stage.run.Follows takes (fun s r => ends s (r.mapError wrap)) s) :
    (stage.orElse wrap).run.Follows takes ends s := by
  refine Program.follows_bind h (fun s r hr => ?_)
  cases r <;> exact hr

end Follows

/-! ## What a packaging may do -/

/-- How far a packaging is that has not opened its package yet. -/
inductive Stand
  | preparing
  | ready (binary : Handle)
  | opened (binary file : Handle)

/-- What a packaging does until its package is open. -/
inductive Stand.Takes (top artifact package : Path) :
    Stand → (a : Action) → a.Reply → Stand → Prop
  | asks {s : Stand} {a : Action} {r : a.Reply} (asks : a.Asks)
    (closed : ∀ binary file, s ≠ .opened binary file) : Takes top artifact package s a r s
  | makes {path : Path} {r : Except SystemError Unit} (above : path ∈ lineage top) :
    Takes top artifact package .preparing (.file (.makeDirectory path)) r .preparing
  | reads {binary : Handle} :
    Takes top artifact package .preparing (.file (.openRead artifact)) (.ok binary) (.ready binary)
  | collides {binary : Handle} {e : SystemError} :
    Takes top artifact package (.ready binary) (.file (.openWrite .fresh package)) (.error e)
      (.ready binary)
  | opens {binary file : Handle} :
    Takes top artifact package (.ready binary) (.file (.openWrite .fresh package)) (.ok file)
      (.opened binary file)

def Stand.Ends : Stand → Except PackagingError (Bool × Handle × Handle) → Prop
  | .opened binary file, r => ∃ replaced, r = .ok (replaced, binary, file)
  | _, r => ∃ e, r = .error e

/-- What a packaging has open once it has opened its package, or that it has removed it again. -/
inductive Grip
  | held (sidecar : Option Handle)
  | ended

/-- What a packaging does once its package is open. -/
inductive Grip.Takes (package sidecar : Path) (file : Handle) :
    Grip → (a : Action) → a.Reply → Grip → Prop
  | asks {g : Grip} {a : Action} {r : a.Reply} (asks : a.Asks) : Takes package sidecar file g a r g
  | fills {line : Option Handle} {offset : Nat} {bytes : Bytes} {r : Except SystemError Unit} :
    Takes package sidecar file (.held line) (.file (.write file offset bytes)) r (.held line)
  | collides {e : SystemError} :
    Takes package sidecar file (.held none) (.file (.openWrite .fresh sidecar)) (.error e)
      (.held none)
  | opens {line : Handle} :
    Takes package sidecar file (.held none) (.file (.openWrite .fresh sidecar)) (.ok line)
      (.held (some line))
  | records {line : Handle} {offset : Nat} {bytes : Bytes} {r : Except SystemError Unit} :
    Takes package sidecar file (.held (some line)) (.file (.write line offset bytes)) r
      (.held (some line))
  | withdraws {line : Handle} {r : Except SystemError Unit} :
    Takes package sidecar file (.held (some line)) (.file (.remove sidecar)) r (.held none)
  | drops {r : Except SystemError Unit} :
    Takes package sidecar file (.held none) (.file (.remove package)) r .ended

theorem Grip.Takes.startsNothing {g g' : Grip} {package sidecar : Path} {a : Action} {r : a.Reply}
    (h : g.Takes package sidecar file a r g') : a.StartsNothing := by
  cases h with
  | asks asks => exact asks.startsNothing
  | _ => trivial

def Grip.Ends : Grip → Except PackagingError Package → Prop
  | .held _, r => ∃ made, r = .ok made
  | .ended, r => ∃ e, r = .error e

/-- Nothing but the package is open when a part of packaging fails. -/
def Grip.Clean : Grip → Except ε α → Prop
  | g, .ok _ => ∃ line, g = .held line
  | g, .error _ => g = .held none

theorem createFile_follows {S : Type} {takes : S → (a : Action) → a.Reply → S → Prop} {s : S}
    {ends : S → Except PackagingError Handle → Prop} {settings : Settings} {path : Path}
    (hc : settings.collision = .fail)
    (hok : ∀ file, ∃ s', takes s (.file (.openWrite .fresh path)) (.ok file) s' ∧
      ends s' (.ok file))
    (herror : ∀ e, ∃ s', takes s (.file (.openWrite .fresh path)) (.error e) s' ∧
      ∀ e', ends s' (.error e')) :
    (createFile settings path).run.Follows takes ends s := by
  unfold createFile
  rw [hc]
  refine Stage.follows_orElse (fun reply => ?_)
  cases reply with
  | error e =>
    obtain ⟨s', htakes, hends⟩ := herror e
    exact ⟨s', htakes, hends _⟩
  | ok file => exact hok file

section Protocols

variable {settings : Settings} {verified : VerifiedArtifact} {package sidecar artifact : Path}

theorem writeArchive_follows (entry : String) :
    (writeArchive file binary entry).run.Follows (Grip.Takes package sidecar file)
      (fun g _ => g = .held none) (.held none) :=
  (writeArchive_fills file binary entry).follows fun _ hfills _ => by
    rcases hfills with hasks | ⟨offset, bytes, rfl⟩
    · exact .asks hasks
    · exact .fills

theorem writeChecksum_follows (hc : settings.collision = .fail) (line : String) :
    (writeChecksum settings package line).run.Follows
      (Grip.Takes package (checksumPath package) file) Grip.Clean (.held none) := by
  refine Stage.follows_bind (Q := fun g _ => g = .held none) ?_ ?_ ?_
  · exact Stage.follows_orElse ((hashFile_only package).follows fun _ hasks _ => .asks hasks)
  · rintro g hash rfl
    refine Stage.follows_bind (Q := fun g r => match r with
      | .ok line => g = .held (some line)
      | .error _ => g = .held none) ?_ ?_ ?_
    · exact createFile_follows hc (fun line => ⟨_, .opens, rfl⟩)
        (fun e => ⟨_, .collides, fun _ => rfl⟩)
    · rintro g line rfl
      refine Stage.follows_lift_bind ((writePieces_fills line _ _).follows fun _ hfills _ => ?_) ?_
      · rcases hfills with hasks | ⟨offset, bytes, rfl⟩
        · exact .asks hasks
        · exact .records
      · rintro g (e | ⟨⟩) rfl
        · exact fun _ => ⟨_, .withdraws, rfl⟩
        · exact fun _ => ⟨_, .asks trivial, _, rfl⟩
    · rintro g e rfl
      rfl
  · rintro g e rfl
    rfl

theorem fillPackage_follows (hc : settings.collision = .fail) (line entry : String) :
    (fillPackage settings file binary artifact package line entry).run.Follows
      (Grip.Takes package (checksumPath package) file) Grip.Clean (.held none) := by
  refine Stage.follows_bind (Q := fun g _ => g = .held none) ?_ ?_ ?_
  · exact Stage.follows_orElse (writeArchive_follows entry)
  · rintro g ⟨⟩ rfl
    refine Stage.follows_bind (Q := fun g _ => g = .held none) ?_ ?_ ?_
    · exact Stage.follows_orElse fun _ => ⟨_, .asks trivial, rfl⟩
    · rintro g status rfl
      split
      · exact Stage.follows_bind (writeChecksum_follows hc line) (fun _ _ h => h) (fun _ _ h => h)
      · exact ⟨none, rfl⟩
    · rintro g e rfl
      rfl
  · rintro g e rfl
    rfl

theorem finishPackage_follows (hc : settings.collision = .fail)
    (hpath : packagePath settings verified.artifact.request = package) (replaced : Bool) :
    (finishPackage settings verified (replaced, binary, file)).run.Follows
      (Grip.Takes package (checksumPath package) file) Grip.Ends (.held none) := by
  subst hpath
  refine Stage.follows_lift_bind (fillPackage_follows hc _ _) ?_
  rintro g (e | ⟨size, written⟩) hg
  · obtain rfl : g = .held none := hg
    exact fun _ => ⟨_, .drops, fun _ => ⟨_, .asks trivial, _, rfl⟩⟩
  · obtain ⟨line, rfl⟩ := hg
    exact fun _ => ⟨_, .asks trivial, _, rfl⟩

theorem makeDirectories_follows :
    (makeDirectories top).run.Follows (Stand.Takes top artifact package)
      (fun s _ => s = .preparing) .preparing :=
  (makeLineage_only _).follows fun a hbuilds r => by
    cases a with
    | file a =>
      cases a with
      | makeDirectory path => exact .makes hbuilds
      | isDirectory path => exact .asks trivial (by simp)
      | _ => exact hbuilds.elim
    | _ => exact hbuilds.elim

theorem openFiles_follows (hc : settings.collision = .fail) (replaced : Bool) :
    (openFiles settings verified replaced).run.Follows
      (Stand.Takes top verified.artifact.path (packagePath settings verified.artifact.request))
      Stand.Ends .preparing := by
  refine Stage.follows_bind (Q := fun s r => match r with
    | .ok binary => s = .ready binary
    | .error _ => s = .preparing) ?_ ?_ ?_
  · refine Stage.follows_orElse fun reply => ?_
    cases reply with
    | error e => exact ⟨_, .asks trivial (by simp), rfl⟩
    | ok binary => exact ⟨_, .reads, rfl⟩
  · rintro s binary rfl
    refine Stage.follows_bind (Q := fun s r => match r with
      | .ok file => s = .opened binary file
      | .error _ => s = .ready binary) ?_ ?_ ?_
    · exact createFile_follows hc (fun file => ⟨_, .opens, rfl⟩)
        (fun e => ⟨_, .collides, fun _ => rfl⟩)
    · rintro s file rfl
      exact ⟨replaced, rfl⟩
    · rintro s e rfl
      exact ⟨e, rfl⟩
  · rintro s e rfl
    exact ⟨e, rfl⟩

theorem openPackage_follows (hc : settings.collision = .fail)
    (hpath : packagePath settings verified.artifact.request = package) :
    (openPackage settings verified).run.Follows
      (Stand.Takes settings.packagesDir verified.artifact.path package) Stand.Ends .preparing := by
  subst hpath
  refine Stage.follows_note_bind (.asks trivial (by simp)) ?_
  refine Stage.follows_bind (Q := fun s _ => s = .preparing)
    (Stage.follows_orElse makeDirectories_follows) ?_ ?_
  · rintro s ⟨⟩ rfl
    refine Stage.follows_lift_bind (Q := fun s _ => s = Stand.preparing)
      (fun _ => ⟨_, .asks trivial (by simp), rfl⟩) ?_
    rintro s (_ | _) rfl
    · exact openFiles_follows hc _
    · exact Stage.follows_note_bind (.asks trivial (by simp)) (openFiles_follows hc _)
  · rintro s e rfl
    exact ⟨e, rfl⟩

end Protocols

end Slipway
