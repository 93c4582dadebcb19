import Mathlib.Data.List.Chain
import Slipway.Proofs.Grounded
import Slipway.Proofs.Preflight
import Slipway.Proofs.Setup

/-!
# How a failure is reported

A command that fails shows one line about it, with the whole text of its error. Faults of the
configuration are found before anything is done, always in the same order.
-/

namespace Slipway

open FileSystem World

variable {σ : Type} {runner : Runner σ} {may : Refusals} {w w' : World σ} {env : Environment}
  {host : Host} {request : ReleaseRequest}

/-! ## The text of an error -/

theorem suffix_append (before ending : String) : ending.toList <:+ (before ++ ending).toList := by
  rw [String.toList_append]
  exact List.suffix_append _ _

theorem SetupError.message_source {e : SetupError} {source : SystemError}
    (h : e.source? = some source) : source.message.toList <:+ e.message.toList := by
  cases e with
  | versionFileUnreadable | invalidRoot => cases h; exact suffix_append _ _
  | _ => simp [source?] at h

theorem BuildError.message_source {e : BuildError} {source : SystemError}
    (h : e.source? = some source) : source.message.toList <:+ e.message.toList := by
  cases e with
  | spawn | relocate => cases h; exact suffix_append _ _
  | _ => simp [source?] at h

theorem VerificationError.message_source {e : VerificationError} {source : SystemError}
    (h : e.source? = some source) : source.message.toList <:+ e.message.toList := by
  cases e with
  | spawn => cases h; exact suffix_append _ _
  | _ => simp [source?] at h

theorem PackagingError.message_source {e : PackagingError} {source : SystemError}
    (h : e.source? = some source) : source.message.toList <:+ e.message.toList := by
  cases e with
  | packageExists => simp [source?] at h
  | _ => cases h; exact suffix_append _ _

namespace ReleaseError

theorem message_stage (e : ReleaseError) : e.stageMessage.toList <:+ e.message.toList :=
  suffix_append _ _

theorem stageMessage_source {e : ReleaseError} {source : SystemError}
    (h : e.source? = some source) : source.message.toList <:+ e.stageMessage.toList := by
  cases e with
  | setup cause => exact cause.message_source h
  | build cause => exact cause.message_source h
  | verification cause => exact cause.message_source h
  | packaging cause => exact cause.message_source h

theorem causes_eq (e : ReleaseError) :
    e.causes = [e.message] ++ (e.stageMessage :: (e.source?.map SystemError.message).toList) :=
  rfl

theorem causes_embedded (e : ReleaseError) :
    ∀ cause ∈ e.stageMessage :: (e.source?.map SystemError.message).toList,
      cause.toList <:+ e.message.toList := by
  intro cause hcause
  rcases List.mem_cons.mp hcause with rfl | hcause
  · exact e.message_stage
  · rw [Option.mem_toList, Option.map_eq_some_iff] at hcause
    obtain ⟨source, hsource, rfl⟩ := hcause
    exact (stageMessage_source hsource).trans e.message_stage

end ReleaseError

/-! ## The messages that are kept -/

theorem endsWith_iff {text ending : String} :
    endsWith text ending = true ↔ ending.toList <:+ text.toList := by
  rw [endsWith, List.isSuffixOf_iff_suffix]

section Keeping

variable {messages rest : List String} {last message : String}

/-- A message that the last kept one ends with is left out. -/
theorem keptMessages_embedded (hlast : (keptMessages messages).getLast? = some last)
    (h : message.toList <:+ last.toList) :
    keptMessages (messages ++ [message]) = keptMessages messages := by
  unfold keptMessages at hlast ⊢
  rw [List.getLast?_reverse] at hlast
  obtain ⟨earlier, hkept⟩ := List.head?_eq_some_iff.mp hlast
  rw [List.foldl_append, hkept, List.foldl_cons, List.foldl_nil, keepMessage,
    if_pos (endsWith_iff.mpr h)]

theorem keptMessages_apart (hlast : (keptMessages messages).getLast? = some last)
    (h : ¬ message.toList <:+ last.toList) :
    keptMessages (messages ++ [message]) = keptMessages messages ++ [message] := by
  unfold keptMessages at hlast ⊢
  rw [List.getLast?_reverse] at hlast
  obtain ⟨earlier, hkept⟩ := List.head?_eq_some_iff.mp hlast
  rw [List.foldl_append, hkept, List.foldl_cons, List.foldl_nil, keepMessage,
    if_neg (fun hends => h (endsWith_iff.mp hends)), ← List.reverse_cons]

theorem keptMessages_append (hlast : (keptMessages messages).getLast? = some last)
    (h : ∀ message ∈ rest, message.toList <:+ last.toList) :
    keptMessages (messages ++ rest) = keptMessages messages := by
  induction rest generalizing messages with
  | nil => rw [List.append_nil]
  | cons message rest ih =>
    obtain ⟨hmessage, hrest⟩ := List.forall_mem_cons.mp h
    have hstays := keptMessages_embedded hlast hmessage
    rw [List.append_cons, ih (hstays.symm ▸ hlast) hrest, hstays]

end Keeping

/-- `kept` are the messages at `spots`: the first one, none that the one kept before it ends with,
and nothing is missing but what the last one kept before it ends with. -/
structure Abridged (messages kept : List String) (spots : List Nat) : Prop where
  stand : spots.map (messages[·]?) = kept.map some
  ascend : spots.Pairwise (· < ·)
  opens : spots.head? = some 0
  apart : kept.IsChain (fun last message => ¬ message.toList <:+ last.toList)
  embedded : ∀ i message, messages[i]? = some message → i ∉ spots →
    ∃ k last, k ∈ spots ∧ k < i ∧ (∀ j ∈ spots, j < i → j ≤ k) ∧ messages[k]? = some last ∧
      message.toList <:+ last.toList

namespace Abridged

variable {messages kept : List String} {spots : List Nat} {last message : String}

theorem mem_stand (h : Abridged messages kept spots) {i : Nat} (hi : i ∈ spots) :
    ∃ message ∈ kept, messages[i]? = some message := by
  have hmem : messages[i]? ∈ kept.map some := by
    rw [← h.stand]
    exact List.mem_map_of_mem hi
  obtain ⟨message, hmessage, heq⟩ := List.mem_map.mp hmem
  exact ⟨message, hmessage, heq.symm⟩

theorem inside (h : Abridged messages kept spots) {i : Nat} (hi : i ∈ spots) :
    i < messages.length := by
  obtain ⟨message, -, hmessage⟩ := h.mem_stand hi
  exact (List.getElem?_eq_some_iff.mp hmessage).1

theorem exists_last (h : Abridged messages kept spots) :
    ∃ k last, kept.getLast? = some last ∧ k ∈ spots ∧ (∀ j ∈ spots, j ≤ k) ∧
      messages[k]? = some last := by
  have hne : spots ≠ [] := by
    rintro rfl
    exact absurd h.opens (by simp)
  obtain ⟨front, k, hspots⟩ := (List.eq_nil_or_concat spots).resolve_left hne
  rw [List.concat_eq_append] at hspots
  have hk : k ∈ spots := by simp [hspots]
  obtain ⟨last, -, hlast⟩ := h.mem_stand hk
  have hstand := congrArg List.getLast? h.stand
  rw [hspots, List.map_append, List.map_singleton, List.getLast?_concat, List.getLast?_map, hlast]
    at hstand
  obtain ⟨last', hkept, heq⟩ := Option.map_eq_some_iff.mp hstand.symm
  obtain rfl := Option.some.inj heq
  refine ⟨k, last', hkept, hk, fun j hj => ?_, hlast⟩
  have hascend := h.ascend
  rw [hspots, List.pairwise_append] at hascend
  rw [hspots, List.mem_append, List.mem_singleton] at hj
  rcases hj with hj | rfl
  · exact (hascend.2.2 j hj k (List.mem_singleton_self k)).le
  · exact le_rfl

theorem getElem?_concat (h : Abridged messages kept spots) {i : Nat} (hi : i ∈ spots) :
    (messages ++ [message])[i]? = messages[i]? :=
  List.getElem?_append_left (h.inside hi)

theorem stand_concat (h : Abridged messages kept spots) :
    spots.map ((messages ++ [message])[·]?) = kept.map some := by
  rw [← h.stand]
  exact List.map_congr_left fun i hi => h.getElem?_concat hi

theorem embedded_concat (h : Abridged messages kept spots) {i : Nat} {old : String}
    (hi : i < messages.length) (hold : (messages ++ [message])[i]? = some old) (hno : i ∉ spots) :
    ∃ k last, k ∈ spots ∧ k < i ∧ (∀ j ∈ spots, j < i → j ≤ k) ∧
      (messages ++ [message])[k]? = some last ∧ old.toList <:+ last.toList := by
  rw [List.getElem?_append_left hi] at hold
  obtain ⟨k, last, hk, hlt, hbetween, hlast, hends⟩ := h.embedded i old hold hno
  exact ⟨k, last, hk, hlt, hbetween, by rwa [h.getElem?_concat hk], hends⟩

theorem embed (h : Abridged messages kept spots) (hlast : kept.getLast? = some last)
    (hends : message.toList <:+ last.toList) : Abridged (messages ++ [message]) kept spots where
  stand := h.stand_concat
  ascend := h.ascend
  opens := h.opens
  apart := h.apart
  embedded := by
    intro i old hold hno
    have hbound := (List.getElem?_eq_some_iff.mp hold).1
    rw [List.length_append, List.length_singleton] at hbound
    by_cases hi : i < messages.length
    · exact h.embedded_concat hi hold hno
    · -- the new message itself: the last spot is before it, and there is none between
      obtain ⟨k, last', hlast', hk, hmax, hat⟩ := h.exists_last
      obtain rfl : last = last' := Option.some.inj (hlast.symm.trans hlast')
      obtain rfl : i = messages.length := by omega
      rw [List.getElem?_concat_length] at hold
      obtain rfl := Option.some.inj hold
      exact ⟨k, last, hk, h.inside hk, fun j hj _ => hmax j hj, by rwa [h.getElem?_concat hk],
        hends⟩

theorem keep (h : Abridged messages kept spots) (hlast : kept.getLast? = some last)
    (hapart : ¬ message.toList <:+ last.toList) :
    Abridged (messages ++ [message]) (kept ++ [message]) (spots ++ [messages.length]) where
  stand := by
    rw [List.map_append, List.map_append, h.stand_concat, List.map_singleton,
      List.getElem?_concat_length, List.map_singleton]
  ascend := by
    rw [List.pairwise_append]
    refine ⟨h.ascend, List.pairwise_singleton _ _, fun i hi j hj => ?_⟩
    rw [List.mem_singleton.mp hj]
    exact h.inside hi
  opens := by
    rw [List.head?_append, h.opens]
    rfl
  apart := by
    refine h.apart.append (List.isChain_singleton _) (fun x hx y hy => ?_)
    obtain rfl : last = x := Option.some.inj (hlast.symm.trans hx)
    obtain rfl : message = y := Option.some.inj hy
    exact hapart
  embedded := by
    intro i old hold hno
    have hbound := (List.getElem?_eq_some_iff.mp hold).1
    rw [List.length_append, List.length_singleton] at hbound
    rw [List.mem_append, List.mem_singleton, not_or] at hno
    have hi : i < messages.length := by omega
    obtain ⟨k, last', hk, hlt, hbetween, hat, hends⟩ := h.embedded_concat hi hold hno.1
    refine ⟨k, last', List.mem_append_left _ hk, hlt, fun j hj hji => ?_, hat, hends⟩
    rw [List.mem_append, List.mem_singleton] at hj
    exact hbetween j (hj.resolve_right (by omega)) hji

theorem head_kept {first : String} {later : List String}
    (h : Abridged (first :: later) kept spots) : ∃ rest, kept = first :: rest := by
  have hstand := congrArg List.head? h.stand
  rw [List.head?_map, h.opens, List.head?_map] at hstand
  obtain ⟨message, hkept, heq⟩ := Option.map_eq_some_iff.mp hstand.symm
  obtain rfl : message = first := by simpa using heq
  exact List.head?_eq_some_iff.mp hkept

theorem ends_kept (h : Abridged messages kept spots) (hm : message ∈ messages) :
    ∃ shown ∈ kept, message.toList <:+ shown.toList := by
  obtain ⟨i, hi⟩ := List.mem_iff_getElem?.mp hm
  by_cases hspot : i ∈ spots
  · obtain ⟨shown, hshown, hat⟩ := h.mem_stand hspot
    obtain rfl := Option.some.inj (hat.symm.trans hi)
    exact ⟨_, hshown, List.suffix_rfl⟩
  · obtain ⟨k, last, hk, -, -, hlast, hends⟩ := h.embedded i message hi hspot
    obtain ⟨shown, hshown, hat⟩ := h.mem_stand hk
    obtain rfl := Option.some.inj (hat.symm.trans hlast)
    exact ⟨_, hshown, hends⟩

end Abridged

theorem abridged_keptMessages (first : String) (later : List String) :
    ∃ spots, Abridged (first :: later) (keptMessages (first :: later)) spots := by
  -- on the later messages, the last one split off: it meets what was kept of those before it
  induction later using List.reverseRecOn with
  | nil =>
    refine ⟨[0], rfl, List.pairwise_singleton _ _, rfl, List.isChain_singleton _, ?_⟩
    intro i message hmessage hi
    have hbound := (List.getElem?_eq_some_iff.mp hmessage).1
    rw [List.length_singleton] at hbound
    exact absurd (List.mem_singleton.mpr (by omega)) hi
  | append_singleton later message ih =>
    obtain ⟨spots, h⟩ := ih
    obtain ⟨-, last, hlast, -⟩ := h.exists_last
    rw [← List.cons_append]
    by_cases hends : message.toList <:+ last.toList
    · rw [keptMessages_embedded hlast hends]
      exact ⟨spots, h.embed hlast hends⟩
    · rw [keptMessages_apart hlast hends]
      exact ⟨_, h.keep hlast hends⟩

theorem exists_last_kept (messages : List String) (message : String) :
    ∃ last, (keptMessages (messages ++ [message])).getLast? = some last ∧
      message.toList <:+ last.toList := by
  cases messages with
  | nil => exact ⟨message, rfl, List.suffix_rfl⟩
  | cons first later =>
    obtain ⟨spots, h⟩ := abridged_keptMessages first later
    obtain ⟨-, last, hlast, -⟩ := h.exists_last
    by_cases hends : message.toList <:+ last.toList
    · exact ⟨last, by rwa [keptMessages_embedded hlast hends], hends⟩
    · exact ⟨message, by rw [keptMessages_apart hlast hends, List.getLast?_concat],
        List.suffix_rfl⟩

/-! ## The line for a chain of messages -/

theorem infix_intercalate {parts : List String} {part : String} (separator : String)
    (h : part ∈ parts) : part.toList <:+: (String.intercalate separator parts).toList := by
  induction parts with
  | nil => simp at h
  | cons first rest ih =>
    by_cases hrest : rest = []
    · subst hrest
      obtain rfl := List.mem_singleton.mp h
      rw [String.intercalate_singleton]
    · rw [String.intercalate_cons_of_ne_nil hrest, String.toList_append]
      rcases List.mem_cons.mp h with rfl | h
      · rw [String.toList_append]
        exact ((List.prefix_append _ _).trans (List.prefix_append _ _)).isInfix
      · exact (ih h).trans (List.suffix_append _ _).isInfix

theorem eq_nil_of_intercalate {separator first : String} {rest : List String}
    (hseparator : separator ≠ "") (h : String.intercalate separator (first :: rest) = first) :
    rest = [] := by
  by_contra hrest
  rw [String.intercalate_cons_of_ne_nil hrest, String.append_assoc] at h
  have hlength := congrArg (fun text => text.toList.length) h
  have hpos : 0 < separator.toList.length := by
    rw [List.length_pos_iff]
    simpa using hseparator
  simp only [String.toList_append, List.length_append] at hlength
  omega

/-- The line for a chain of messages loses none of them. It joins those that are kept: the first,
and each that the one kept before it does not end with. It is the first message alone just when
that ends with every later one. -/
theorem errorChain_loses_nothing (first : String) (later : List String) :
    ∃ kept spots, Abridged (first :: later) kept spots ∧
      errorChain (first :: later) = String.intercalate ": " kept ∧
      (∀ message ∈ first :: later, message.toList <:+: (errorChain (first :: later)).toList) ∧
      (errorChain (first :: later) = first ↔
        ∀ message ∈ later, message.toList <:+ first.toList) := by
  obtain ⟨spots, h⟩ := abridged_keptMessages first later
  refine ⟨_, spots, h, rfl, fun message hm => ?_, fun hall => ?_, fun hall => ?_⟩
  · obtain ⟨shown, hshown, hends⟩ := h.ends_kept hm
    exact hends.isInfix.trans (infix_intercalate _ hshown)
  · intro message hm
    obtain ⟨rest, hkept⟩ := h.head_kept
    rw [errorChain, hkept] at hall
    have hrest := eq_nil_of_intercalate (by decide) hall
    obtain ⟨shown, hshown, hends⟩ := h.ends_kept (List.mem_cons_of_mem _ hm)
    rw [hkept, hrest, List.mem_singleton] at hshown
    rwa [hshown] at hends
  · have hkept : keptMessages ([first] ++ later) = [first] := keptMessages_append rfl hall
    rw [← List.singleton_append, errorChain, hkept, String.intercalate_singleton]

/-- The causes of an error add nothing to its message, whatever is put before it. -/
theorem keptMessages_causes (contexts : List String) (e : ReleaseError) :
    keptMessages (contexts ++ e.causes) = keptMessages (contexts ++ [e.message]) := by
  obtain ⟨last, hlast, hends⟩ := exists_last_kept contexts e.message
  rw [e.causes_eq, ← List.append_assoc]
  exact keptMessages_append hlast fun cause hcause => (e.causes_embedded cause hcause).trans hends

/-- An error's message holds the messages of its causes, so a line about it needs no more than
what is put around it and that message. -/
theorem errorChain_embeds_causes (contexts : List String) (e : ReleaseError) :
    errorChain (contexts ++ e.causes) = errorChain (contexts ++ [e.message]) ∧
      errorChain e.causes = e.message ∧
      e.stageMessage.toList <:+ e.message.toList ∧
      ∀ source, e.source? = some source → source.message.toList <:+ e.stageMessage.toList := by
  refine ⟨?_, ?_, e.message_stage, fun source => e.stageMessage_source⟩
  · unfold errorChain
    rw [keptMessages_causes]
  · have hkept : keptMessages e.causes = [e.message] := keptMessages_causes [] e
    rw [errorChain, hkept, String.intercalate_singleton]

/-- The text of a failure: that of its error, behind what was to be released once that is known. -/
def RunError.text : RunError → String
  | setup e => (ReleaseError.setup e).message
  | release arch e => "Release for " ++ arch.name ++ " failed: " ++ e.message

/-- The line about a failure has the text of its error, once and as a whole. -/
theorem errorChain_causes (e : RunError) : errorChain e.causes = e.text := by
  cases e with
  | setup cause =>
    have hkept : keptMessages (ReleaseError.setup cause).causes
        = [(ReleaseError.setup cause).message] := keptMessages_causes [] (.setup cause)
    rw [errorChain, RunError.causes, hkept, String.intercalate_singleton, RunError.text]
  | release arch cause =>
    have hopens : ¬ cause.message.toList <:+ ("Release for " ++ arch.name ++ " failed").toList := by
      -- the message of an error has a colon, the name of a release has none
      intro h
      have hcolon : ':' ∈ cause.message.toList := by simp [ReleaseError.message]
      have hnone : ':' ∉ ("Release for " ++ arch.name ++ " failed").toList := by
        cases arch <;> decide
      exact hnone (h.subset hcolon)
    have hkept : keptMessages (RunError.release arch cause).causes
        = ["Release for " ++ arch.name ++ " failed", cause.message] :=
      (keptMessages_causes ["Release for " ++ arch.name ++ " failed"] cause).trans
        (keptMessages_apart rfl hopens)
    have hcolon : " failed: " = " failed" ++ ": " := by decide
    rw [errorChain, hkept, String.intercalate_cons_of_ne_nil (by simp),
      String.intercalate_singleton]
    simp only [RunError.text, hcolon, String.append_assoc]

/-! ## The course of a run -/

/-- What a configuration that is found consists of. -/
def foundConfiguration (env : Environment) (request : ReleaseRequest) (m : Machine) :
    Except SetupError (Settings × Path) := do
  let root ← foundRoot env request.root m
  let toolchain ← foundToolchain env request.toolchain m
  pure ((Settings.below root).requested request, toolchain)

/-- How a configuration is looked for. Nothing but what is told changes until it is found. -/
inductive Configures (runner : Runner σ) (may : Refusals) (env : Environment)
    (request : ReleaseRequest) (w : World σ) : Except SetupError (Settings × Path) → World σ → Prop
  | rootless {e : SetupError}
    (missing : w.Runs runner may (resolveRoot env request.root).run (.error e) w) :
    Configures runner may env request w (.error e) w
  | unsettled {root : Path} {e : SetupError}
    (found : w.Runs runner may (resolveRoot env request.root).run (.ok root) w)
    (missing : w.Runs runner may (Settings.fromRoot root).run (.error e) w) :
    Configures runner may env request w (.error e) w
  | unequipped {root : Path} {settings : Settings} {e : SetupError}
    (found : w.Runs runner may (resolveRoot env request.root).run (.ok root) w)
    (settled : w.Runs runner may (Settings.fromRoot root).run (.ok settings) w)
    (missing : w.Runs runner may (resolveToolchain env request.toolchain).run (.error e) w) :
    Configures runner may env request w (.error e) w
  | configured {root toolchain : Path} {settings : Settings} {event : Event}
    (found : w.Runs runner may (resolveRoot env request.root).run (.ok root) w)
    (settled : w.Runs runner may (Settings.fromRoot root).run (.ok settings) w)
    (equipped : w.Runs runner may (resolveToolchain env request.toolchain).run (.ok toolchain) w) :
    Configures runner may env request w (.ok (settings.requested request, toolchain))
      { w with messages := .event event :: w.messages }

theorem runs_configure_cases {r : Except SetupError (Settings × Path)}
    (h : w.Runs runner may (configure env request).run r w') :
    Configures runner may env request w r w' := by
  rw [configure_eq, runs_stage_bind] at h
  rcases h with ⟨root, w₁, hroot, h⟩ | ⟨e, hroot, rfl⟩
  · obtain rfl := hroot.still (resolveRoot_only _ _)
    rw [runs_stage_bind] at h
    rcases h with ⟨settings, w₂, hsettled, h⟩ | ⟨e, hsettled, rfl⟩
    · obtain rfl := hsettled.still (fromRoot_only _)
      rw [runs_stage_bind] at h
      rcases h with ⟨toolchain, w₃, hsearch, h⟩ | ⟨e, hsearch, rfl⟩
      · obtain rfl := hsearch.still (resolveToolchain_only _ _)
        rw [runs_note_bind] at h
        obtain ⟨rfl, rfl⟩ := h
        exact .configured hroot hsettled hsearch
      · obtain rfl := hsearch.still (resolveToolchain_only _ _)
        exact .unequipped hroot hsettled hsearch
    · obtain rfl := hsettled.still (fromRoot_only _)
      exact .unsettled hroot hsettled
  · obtain rfl := hroot.still (resolveRoot_only _ _)
    exact .rootless hroot

theorem runs_fromRoot_absolute {root : Path} {settings : Settings}
    (h : w.Runs runner may (Settings.fromRoot root).run (.ok settings) w') :
    settings.Absolute := by
  rw [Settings.fromRoot, runs_stage_bind_ok] at h
  obtain ⟨canonical, w₁, hcanonical, hpure, -⟩ := h
  rw [runs_orElse_ok, runs_attempt, Program.file, runs_perform] at hcanonical
  have hproper := hcanonical.proper canonical rfl
  obtain rfl := Except.ok.inj hpure
  exact .below hproper

theorem runs_configure {r : Except SetupError (Settings × Path)}
    (h : w.Runs runner may (configure env request).run r w') :
    w.Untouched w' ∧ w.Quiet w' ∧ ∀ settings toolchain, r = .ok (settings, toolchain) →
      settings.Absolute := by
  cases runs_configure_cases h with
  | rootless | unsettled | unequipped => exact ⟨.refl _, .refl _, by simp⟩
  | configured found settled =>
    have habs := runs_fromRoot_absolute settled
    refine ⟨⟨rfl, rfl, rfl⟩, ⟨rfl, [_], rfl⟩, fun found other heq => ?_⟩
    obtain ⟨rfl, -⟩ := Prod.mk.inj (Except.ok.inj heq)
    exact ⟨habs.version, habs.build, habs.packages⟩

/-- The course of a run: no configuration is found, or the release of one ends somehow. -/
inductive Course (runner : Runner σ) (may : Refusals) (env : Environment) (host : Host)
    (request : ReleaseRequest) (w : World σ) : Except RunError Report → World σ → Prop
  | unconfigured {e : SetupError} {w' : World σ} (same : w.Untouched w') :
    Course runner may env host request w (.error (.setup e)) w'
  | released {arch : Arch} {settings : Settings} {toolchain : Path} {w₀ w' : World σ}
    {r : Except ReleaseError Report} (selected : selectArch request.arch = .ok arch)
    (configured : w.Runs runner may (configure env request).run (.ok (settings, toolchain)) w₀)
    (same : w.Untouched w₀)
    (run : w₀.Runs runner may (release settings toolchain host arch).run r w') :
    Course runner may env host request w (r.mapError (RunError.release arch)) w'

theorem runs_releaseFor {r : Except RunError Report}
    (h : w.Runs runner may (releaseFor env host request).run r w') :
    Course runner may env host request w r w' ∧ w.Quiet w' := by
  unfold releaseFor at h
  cases hselect : selectArch request.arch with
  | error e =>
    rw [hselect] at h
    obtain ⟨rfl, rfl⟩ := h
    exact ⟨.unconfigured (.refl _), .refl _⟩
  | ok arch =>
    rw [hselect] at h
    change w.Runs runner may (Stage.orElse (configure env request) RunError.setup >>= _).run r w' at h
    rw [runs_stage_bind] at h
    rcases h with ⟨⟨settings, toolchain⟩, w₁, hconfigure, h⟩ | ⟨e, hconfigure, rfl⟩
    · rw [runs_orElse_ok] at hconfigure
      obtain ⟨hsame, hquiet, habs⟩ := runs_configure hconfigure
      rw [runs_orElse] at h
      obtain ⟨x, hrelease, rfl⟩ := h
      exact ⟨.released hselect hconfigure hsame hrelease,
        hquiet.trans (hrelease.quiet (release_grounded _ _ _ (habs _ _ rfl)))⟩
    · obtain ⟨e', rfl, hfailed⟩ := runs_orElse_error.mp hconfigure
      obtain ⟨hsame, hquiet, -⟩ := runs_configure hfailed
      exact ⟨.unconfigured hsame, hquiet⟩

/-! ## Faults -/

/-- What can be wrong before a release does anything, in the order in which it is noticed. -/
inductive Fault
  | arch
  | root
  | toolchain
  | platform
  | version
  | collision

def Fault.rank : Fault → Nat
  | arch => 0
  | root => 1
  | toolchain => 2
  | platform => 3
  | version => 4
  | collision => 5

/-- What the version file below a root says. -/
def Machine.versionBelow (m : Machine) (root : Path) : Except SetupError String :=
  m.answers (resolveVersion (root.join versionFileName)).run

theorem Machine.versionBelow_eq (m : Machine) (root : Path) (request : ReleaseRequest) :
    m.answers (resolveVersion ((Settings.below root).requested request).versionFile).run
      = m.versionBelow root :=
  rfl

/-- A fault is there, whichever others are, and this is the error for it. -/
inductive Fault.Present (env : Environment) (host : Host) (request : ReleaseRequest) (m : Machine) :
    Fault → RunError → Prop
  | arch {name : String} (asked : request.arch = some name)
    (unknown : name ≠ "amd64" ∧ name ≠ "arm64") :
    Present env host request m .arch (.setup (.unsupportedArch name))
  | root {e : SetupError} (missing : foundRoot env request.root m = .error e) :
    Present env host request m .root (.setup e)
  | toolchain {e : SetupError} (missing : foundToolchain env request.toolchain m = .error e) :
    Present env host request m .toolchain (.setup e)
  | platform {arch : Arch} {name : String} (selected : selectArch request.arch = .ok arch)
    (unknown : host = .error name) :
    Present env host request m .platform (.release arch (.setup (.unsupportedPlatform name)))
  | version {arch : Arch} {root : Path} {e : SetupError}
    (selected : selectArch request.arch = .ok arch)
    (found : foundRoot env request.root m = .ok root)
    (unusable : m.versionBelow root = .error e) :
    Present env host request m .version (.release arch (.setup e))
  | collision {target : BuildRequest} {root path : Path}
    (selected : selectArch request.arch = .ok target.arch) (known : host = .ok target.os)
    (found : foundRoot env request.root m = .ok root)
    (read : m.versionBelow root = .ok target.version) (unforced : request.force = false)
    (there : collisionAt ((Settings.below root).requested request) target m = some path) :
    Present env host request m .collision
      (.release target.arch (.packaging (.packageExists path)))

theorem selectArch_unknown {name : String} (h : name ≠ "amd64" ∧ name ≠ "arm64") :
    selectArch (some name) = .error (.unsupportedArch name) := by
  have hnone : Arch.ofName? name = none := by
    simp [Arch.ofName?, Arch.all, Arch.name, Ne.symm h.1, Ne.symm h.2]
  simp only [selectArch, hnone]

theorem runs_fromRoot_settled {root : Path} {settings : Settings} (hmay : may.Candid)
    (h : w.Runs runner may (Settings.fromRoot root).run (.ok settings) w') :
    ∃ canonical, w.machine.files.canonicalize w.machine.directory root = .ok canonical ∧
      settings = Settings.below canonical := by
  have hsettings := runs_fromRoot_candid hmay h
  cases hcanonical : w.machine.files.canonicalize w.machine.directory root with
  | error e => simp [hcanonical, Except.mapError, Except.map] at hsettings
  | ok canonical =>
    rw [hcanonical] at hsettings
    exact ⟨canonical, rfl, Except.ok.inj hsettings⟩

theorem runs_configure_candid {r : Except SetupError (Settings × Path)} (hmay : may.Candid)
    (h : w.Runs runner may (configure env request).run r w') :
    r = foundConfiguration env request w.machine := by
  unfold foundConfiguration foundRoot
  cases runs_configure_cases h with
  | rootless missing =>
    rw [← runs_resolveRoot hmay missing]
    rfl
  | @unsettled root e found missing =>
    rw [← runs_resolveRoot hmay found]
    have hsettings := runs_fromRoot_candid hmay missing
    dsimp only
    cases hcanonical : w.machine.files.canonicalize w.machine.directory root with
    | error e' =>
      rw [hcanonical] at hsettings
      obtain rfl := Except.error.inj hsettings
      rfl
    | ok canonical => simp [hcanonical, Except.mapError, Except.map] at hsettings
  | @unequipped root settings e found settled missing =>
    rw [← runs_resolveRoot hmay found]
    obtain ⟨canonical, hcanonical, rfl⟩ := runs_fromRoot_settled hmay settled
    dsimp only
    rw [hcanonical, ← runs_resolveToolchain hmay missing]
    rfl
  | @configured root toolchain settings event found settled equipped =>
    rw [← runs_resolveRoot hmay found]
    obtain ⟨canonical, hcanonical, rfl⟩ := runs_fromRoot_settled hmay settled
    dsimp only
    rw [hcanonical, ← runs_resolveToolchain hmay equipped]
    rfl

section Refused

variable {settings : Settings} {toolchain : Path} {os : Os} {arch : Arch}
  {r : Except ReleaseError Report}

theorem release_unversioned {e : SetupError} (hmay : may.Candid)
    (hunusable : w.machine.answers (resolveVersion settings.versionFile).run = .error e)
    (h : w.Runs runner may (release settings toolchain (.ok os) arch).run r w') :
    r = .error (.setup e) ∧ w.Untouched w' := by
  cases runs_release_cases h with
  | unsupported unknown => simp at unknown
  | unversioned version =>
    have hread := version.answers hmay (resolveVersion_only _)
    rw [hunusable] at hread
    obtain rfl := Except.error.inj hread
    exact ⟨rfl, version.untouched (resolveVersion_only _)⟩
  | unavailable requested | unbuilt requested | rejected requested | unpacked requested
  | complete requested =>
    obtain ⟨w₁, hversion⟩ := requested.version
    have hread := hversion.answers hmay (resolveVersion_only _)
    simp [hunusable] at hread

theorem release_collided {target : BuildRequest} {path : Path} (hmay : may.Candid)
    (hread : w.machine.answers (resolveVersion settings.versionFile).run = .ok target.version)
    (hpolicy : settings.collision = .fail)
    (hthere : collisionAt settings target w.machine = some path)
    (h : w.Runs runner may (release settings toolchain (.ok target.os) target.arch).run r w') :
    r = .error (.packaging (.packageExists path)) ∧ w.Untouched w' := by
  have hlooks : ∀ path, ¬ may (.pathExists path) := fun _ => hmay _ trivial
  have hends : ∀ {request : BuildRequest} {w₁ w₂ : World σ} {x : Except PackagingError Unit},
      Requested runner may settings (.ok target.os) target.arch w request → w.Untouched w₁ →
      w₁.Runs runner may (ensureAvailable settings request).run x w₂ →
      x = .error (.packageExists path) ∧ w.Untouched w₂ := by
    intro request w₁ w₂ x hrequested hsame havailable
    obtain ⟨hos, harch, w₀, hversion⟩ := hrequested
    have hversion := hversion.answers hmay (resolveVersion_only _)
    rw [hread] at hversion
    obtain rfl : request = target := by
      obtain ⟨arch, version, os⟩ := request
      obtain rfl := Except.ok.inj hos
      obtain rfl := Except.ok.inj hversion
      obtain rfl := harch
      rfl
    have hx := runs_ensureAvailable_iff hlooks hpolicy havailable
    rw [hsame.1, hthere] at hx
    exact ⟨hx, hsame.trans (runs_ensureAvailable havailable).1⟩
  cases runs_release_cases h with
  | unsupported unknown => simp at unknown
  | unversioned version =>
    have hversion := version.answers hmay (resolveVersion_only _)
    simp [hread] at hversion
  | unavailable requested before available =>
    obtain ⟨he, hsame⟩ := hends requested before available
    obtain rfl := Except.error.inj he
    exact ⟨rfl, hsame⟩
  | unbuilt requested before available | rejected requested before available
  | unpacked requested before available | complete requested before available =>
    obtain ⟨he, -⟩ := hends requested before available
    simp at he

end Refused

/-- With a known architecture, a run ends without a configuration or is the release of one. -/
theorem runs_releaseFor_candid {arch : Arch} {r : Except RunError Report} (hmay : may.Candid)
    (hselect : selectArch request.arch = .ok arch)
    (h : w.Runs runner may (releaseFor env host request).run r w') :
    match foundConfiguration env request w.machine with
    | .error e => r = .error (.setup e) ∧ w.Untouched w'
    | .ok (settings, toolchain) => ∃ w₀ x, w.Untouched w₀ ∧
        w₀.Runs runner may (release settings toolchain host arch).run x w' ∧
        r = x.mapError (RunError.release arch) := by
  unfold releaseFor at h
  rw [hselect] at h
  change w.Runs runner may (Stage.orElse (configure env request) RunError.setup >>= _).run r w' at h
  rw [runs_stage_bind] at h
  rcases h with ⟨⟨settings, toolchain⟩, w₁, hconfigure, h⟩ | ⟨e, hconfigure, rfl⟩
  · rw [runs_orElse_ok] at hconfigure
    rw [← runs_configure_candid hmay hconfigure]
    rw [runs_orElse] at h
    obtain ⟨x, hrelease, rfl⟩ := h
    exact ⟨w₁, x, (runs_configure hconfigure).1, hrelease, rfl⟩
  · obtain ⟨e', rfl, hfailed⟩ := runs_orElse_error.mp hconfigure
    rw [← runs_configure_candid hmay hfailed]
    exact ⟨rfl, (runs_configure hfailed).1⟩

/-- None of the faults that are noticed before the one of this rank is there. -/
def Fault.NoneBefore (env : Environment) (host : Host) (request : ReleaseRequest) (m : Machine)
    (rank : Nat) : Prop :=
  ∀ earlier e, earlier.rank < rank → ¬ Fault.Present env host request m earlier e

namespace Fault.NoneBefore

variable {m : Machine} {rank : Nat}

-- What cannot be found is a fault, so behind those faults it is found.

theorem arch (h : NoneBefore env host request m rank) (hrank : 0 < rank) :
    ∃ arch, selectArch request.arch = .ok arch := by
  cases hselect : request.arch with
  | none => exact ⟨_, rfl⟩
  | some name =>
    by_cases hknown : name = "amd64" ∨ name = "arm64"
    · rcases hknown with rfl | rfl <;> exact ⟨_, rfl⟩
    · exact absurd (.arch hselect (not_or.mp hknown)) (h .arch _ hrank)

theorem root (h : NoneBefore env host request m rank) (hrank : 1 < rank) :
    ∃ root, foundRoot env request.root m = .ok root := by
  cases hfound : foundRoot env request.root m with
  | ok root => exact ⟨root, rfl⟩
  | error e => exact absurd (.root hfound) (h .root _ hrank)

theorem toolchain (h : NoneBefore env host request m rank) (hrank : 2 < rank) :
    ∃ toolchain, foundToolchain env request.toolchain m = .ok toolchain := by
  cases hfound : foundToolchain env request.toolchain m with
  | ok toolchain => exact ⟨toolchain, rfl⟩
  | error e => exact absurd (.toolchain hfound) (h .toolchain _ hrank)

theorem platform (h : NoneBefore env host request m rank) (hrank : 3 < rank) :
    ∃ os, host = .ok os := by
  obtain ⟨arch, hselect⟩ := h.arch (by omega)
  cases hknown : host with
  | ok os => exact ⟨os, rfl⟩
  | error name => exact absurd (.platform hselect hknown) (h .platform _ hrank)

end Fault.NoneBefore

/-- The first fault that is there is the one that ends the run, before anything is done. -/
theorem Fault.Present.ends {fault : Fault} {e : RunError} {r : Except RunError Report}
    (hmay : may.Candid) (hfault : fault.Present env host request w.machine e)
    (hfirst : ∀ earlier e', earlier.rank < fault.rank →
      ¬ Fault.Present env host request w.machine earlier e')
    (h : w.Runs runner may (releaseFor env host request).run r w') :
    r = .error e ∧ w.Untouched w' := by
  have hbefore : Fault.NoneBefore env host request w.machine fault.rank := hfirst
  cases hfault with
  | @arch name asked unknown =>
    unfold releaseFor at h
    rw [asked, selectArch_unknown unknown] at h
    obtain ⟨rfl, rfl⟩ := h
    exact ⟨rfl, .refl _⟩
  | root missing =>
    obtain ⟨arch, hselect⟩ := hbefore.arch (by decide)
    have hends := runs_releaseFor_candid hmay hselect h
    rwa [foundConfiguration, missing] at hends
  | toolchain missing =>
    obtain ⟨arch, hselect⟩ := hbefore.arch (by decide)
    obtain ⟨root, hroot⟩ := hbefore.root (by decide)
    have hends := runs_releaseFor_candid hmay hselect h
    rwa [foundConfiguration, hroot, missing] at hends
  | platform selected unknown =>
    obtain ⟨root, hroot⟩ := hbefore.root (by decide)
    obtain ⟨toolchain, htoolchain⟩ := hbefore.toolchain (by decide)
    have hends := runs_releaseFor_candid hmay selected h
    rw [foundConfiguration, hroot, htoolchain] at hends
    obtain ⟨w₀, x, hsame, hrelease, rfl⟩ := hends
    rw [unknown] at hrelease
    obtain ⟨rfl, rfl⟩ := hrelease
    exact ⟨rfl, hsame⟩
  | version selected found unusable =>
    obtain ⟨toolchain, htoolchain⟩ := hbefore.toolchain (by decide)
    obtain ⟨os, rfl⟩ := hbefore.platform (by decide)
    have hends := runs_releaseFor_candid hmay selected h
    rw [foundConfiguration, found, htoolchain] at hends
    obtain ⟨w₀, x, hsame, hrelease, rfl⟩ := hends
    rw [← hsame.1, ← Machine.versionBelow_eq _ _ request] at unusable
    obtain ⟨rfl, hsame'⟩ := release_unversioned hmay unusable hrelease
    exact ⟨rfl, hsame.trans hsame'⟩
  | @collision target root path selected known found read unforced there =>
    obtain ⟨toolchain, htoolchain⟩ := hbefore.toolchain (by decide)
    have hends := runs_releaseFor_candid hmay selected h
    rw [foundConfiguration, found, htoolchain] at hends
    obtain ⟨w₀, x, hsame, hrelease, rfl⟩ := hends
    rw [known] at hrelease
    rw [← hsame.1, ← Machine.versionBelow_eq _ _ request] at read
    have hpolicy : ((Settings.below root).requested request).collision = .fail := by
      simp [Settings.requested, unforced]
    rw [← hsame.1] at there
    obtain ⟨rfl, hsame'⟩ := release_collided hmay read hpolicy there hrelease
    exact ⟨rfl, hsame.trans hsame'⟩

/-! ## A publish command that fails -/

/-- How a publish command that does not succeed is reported. -/
def publishError? (command : String) : Except SystemError ProcessOutput → Option BuildError
  | .error e => some (.spawn command e)
  | .ok output =>
    if output.success then none
    else some (.failed command output.code (trimBlanks output.stderrText))

theorem runs_build_publishes {settings : Settings} {toolchain : Path} {target : BuildRequest}
    {r : Except BuildError Artifact}
    (h : w.Runs runner may (build toolchain settings target).run r w') :
    ∃ x w₁, w.Called runner (publishInvocation toolchain settings target) x w₁ ∧
      ∀ e, publishError? (publishInvocation toolchain settings target).commandLine x = some e →
        r = .error e ∧ w₁.Untouched w' := by
  obtain ⟨answer, w₁, hcalled, hends⟩ := runs_build_steps h
  refine ⟨answer, w₁, hcalled, fun e he => ?_⟩
  rcases hends with ⟨e', rfl, hsame, rfl⟩ | ⟨output, rfl, hcode, hsame, rfl⟩ |
    ⟨output, rfl, hcode, -⟩
  · obtain rfl := Option.some.inj he
    exact ⟨rfl, hsame⟩
  · simp only [publishError?, ProcessOutput.success, beq_iff_eq, if_neg hcode,
      Option.some.injEq] at he
    exact ⟨by rw [he], hsame⟩
  · simp [publishError?, ProcessOutput.success, hcode] at he

/-- A run fails without having done anything, or it starts the publish command first, and fails
with that. -/
inductive Begun (runner : Runner σ) (w w' : World σ) : Except RunError Report → Prop
  | stopped {e : RunError} (same : w.Untouched w') : Begun runner w w' (.error e)
  | published {settings : Settings} {toolchain : Path} {target : BuildRequest} {w₁ : World σ}
    {x : Except SystemError ProcessOutput} {r : Except RunError Report}
    (called : w.Called runner (publishInvocation toolchain settings target) x w₁)
    (failed : ∀ e, publishError? (publishInvocation toolchain settings target).commandLine x = some e →
      r = .error (.release target.arch (.build e)) ∧ w'.machine = w₁.machine ∧
        w'.started = w₁.started) :
    Begun runner w w' r

theorem runs_release_begun {settings : Settings} {toolchain : Path} {arch : Arch} {w₀ : World σ}
    {r : Except ReleaseError Report} (h₀ : w₀.Untouched w)
    (h : w.Runs runner may (release settings toolchain host arch).run r w') :
    Begun runner w₀ w' (r.mapError (RunError.release arch)) := by
  cases runs_release_cases h with
  | unsupported unknown same => exact .stopped (by rwa [same])
  | unversioned version => exact .stopped (h₀.trans (version.untouched (resolveVersion_only _)))
  | unavailable requested before available =>
    exact .stopped (h₀.trans (before.trans (runs_ensureAvailable available).1))
  | unbuilt requested before available builds =>
    have hsame := h₀.trans (before.trans (runs_ensureAvailable available).1)
    obtain ⟨x, w₁, hcalled, hfailed⟩ := runs_build_publishes builds
    refine .published (hcalled.since hsame) (fun e he => ?_)
    obtain ⟨he', hm, -, hstarted⟩ := hfailed e he
    obtain rfl := Except.error.inj he'
    rw [requested.arch]
    exact ⟨rfl, hm, hstarted⟩
  | rejected requested before available builds | unpacked requested before available builds
  | complete requested before available builds =>
    have hsame := h₀.trans (before.trans (runs_ensureAvailable available).1)
    obtain ⟨x, w₁, hcalled, hfailed⟩ := runs_build_publishes builds
    exact .published (hcalled.since hsame) (fun e he => by simpa using (hfailed e he).1)

theorem Course.begun {r : Except RunError Report} (h : Course runner may env host request w r w') :
    Begun runner w w' r := by
  cases h with
  | unconfigured same => exact .stopped same
  | released _ _ same run => exact runs_release_begun same run

/-! ## What is told -/

theorem World.Runs.told {α : Type} {p : Program α} {r : α} (h : w.Runs runner may p r w')
    (hp : p.Only Action.Tells) : w'.machine = w.machine ∧ w'.started = w.started := by
  refine h.only (R := fun w w' => w'.machine = w.machine ∧ w'.started = w.started) hp
    (fun w => ⟨rfl, rfl⟩) (fun h h' => ⟨h'.1.trans h.1, h'.2.trans h.2⟩) ?_
  intro a w₁ r w₂ ha hw
  cases a with
  | print | complain | clock =>
    obtain ⟨-, rfl⟩ := Prod.mk.inj hw
    exact ⟨rfl, rfl⟩
  | _ => exact ha.elim

/-- The exit status says whether there is a report, and a failure is told in one line that is not
on standard output. -/
theorem runs_tellResult {palette : Palette} {format : OutputFormat} {began : Nat}
    {r : Except RunError Report} {status : ExitStatus} (hplain : palette.coloured = false)
    (h : w.Runs runner may (tellResult palette format began r) status w') :
    (status.code = 0 ↔ ∃ report, r = .ok report) ∧
      ∀ e, r = .error e → status.code = 1 ∧ w'.lines = w.lines ∧
        w'.messages = .problem ("✗ " ++ e.text) :: w.messages := by
  cases r with
  | ok report =>
    simp only [tellResult, runs_bind] at h
    obtain ⟨ended, w₁, -, told, w₂, -, rfl, -⟩ := h
    exact ⟨⟨fun _ => ⟨report, rfl⟩, fun _ => rfl⟩, by simp⟩
  | error e =>
    rw [tellResult, runs_bind] at h
    obtain ⟨told, w₁, htold, rfl, rfl⟩ := h
    obtain ⟨reply, w₂, hanswer, -, rfl⟩ := htold
    obtain ⟨-, rfl⟩ := Prod.mk.inj hanswer
    refine ⟨by simp [ExitStatus.code], fun e' he => ?_⟩
    obtain rfl := Except.error.inj he
    have hline : palette.error (errorChain e.causes) = "✗ " ++ e.text := by
      rw [errorChain_causes, Palette.error]
      simp only [Palette.paint, hplain, errorSymbol, Bool.false_eq_true, if_false]
      rw [show "✗ " = "✗" ++ " " by decide]
    exact ⟨rfl, rfl, by rw [hline]⟩

theorem filterMap_shown (filter : LogFilter) (events : List Event) :
    (events.map Message.event).filterMap (Message.shown filter)
      = (events.filter filter.shows).map (fun event => .problem event.line) := by
  induction events with
  | nil => rfl
  | cons event rest ih =>
    by_cases hshown : filter.shows event <;> simp [Message.shown, hshown, ih]

/-- A command whose arguments make sense comes to a result and tells it behind its log. -/
theorem runs_command {arguments : List String} {status : ExitStatus}
    (hargs : ReleaseRequest.ofArguments arguments = .ok request)
    (hplain : (Palette.ofEnvironment env).coloured = false)
    (h : w.Runs runner may (command env host arguments) status w') :
    ∃ r w₁, w.Runs runner may (releaseFor env host request).run r w₁ ∧
      w'.machine = w₁.machine ∧ w'.started = w₁.started ∧
      (status.code = 0 ↔ ∃ report, r = .ok report) ∧
      ∀ e, r = .error e → status.code = 1 ∧ w'.lines = w.lines ∧
        ∃ events : List Event, w'.messages = .problem ("✗ " ++ e.text) ::
          ((events.filter (LogFilter.choose env request.verbose).shows).map
            (fun event => .problem event.line) ++ w.messages) := by
  rw [command_of_request hargs] at h
  obtain ⟨told, v, hrun, htold, rfl⟩ := (runs_logged w.messages).mp h
  rw [runRequest_eq, runs_bind] at hrun
  obtain ⟨began, w₀, hclock, hrun⟩ := hrun
  obtain rfl : w = w₀ := (Prod.mk.inj ((runs_perform _ _).mp hclock)).2.symm
  rw [runs_bind] at hrun
  obtain ⟨r, w₁, hrelease, htell⟩ := hrun
  obtain ⟨hmachine, hstarted⟩ := htell.told (tellResult_only _ _ _ _)
  obtain ⟨hstatus, hfailure⟩ := runs_tellResult hplain htell
  refine ⟨r, w₁, hrelease, hmachine, hstarted, hstatus, fun e he => ?_⟩
  obtain ⟨hcode, hlines, hmessages⟩ := hfailure e he
  obtain ⟨hquiet, events, hevents⟩ := (runs_releaseFor hrelease).2
  refine ⟨hcode, hlines.trans hquiet, events, ?_⟩
  have htold : told = .problem ("✗ " ++ e.text) :: events.map Message.event := by
    refine (List.append_left_inj w.messages).mp ?_
    rw [← htold, hmessages, hevents]
    rfl
  rw [World.telling, htold, List.filterMap_cons, Message.shown, filterMap_shown]
  rfl

/-! ## The report of a failure -/

/-- The line about a publish command that ends without success. -/
def publishFailure (target : BuildRequest) (command : String) (output : ProcessOutput) : String :=
  "Release for " ++ target.arch.name ++ " failed: build error: `" ++ command ++ "` failed with "
    ++ endingText output.code ++ ": " ++ trimBlanks output.stderrText

theorem failure_joined (arch command ending stderr : String) :
    "Release for " ++ arch ++ " failed: " ++ ("build" ++ " error: " ++
        ("`" ++ command ++ "` failed with " ++ ending ++ ": " ++ stderr))
      = "Release for " ++ arch ++ " failed: build error: `" ++ command ++ "` failed with "
        ++ ending ++ ": " ++ stderr := by
  have hjoined : " failed: build error: `" = " failed: " ++ ("build" ++ " error: " ++ "`") := by
    decide
  rw [hjoined]
  simp only [String.append_assoc]

theorem failed_text (target : BuildRequest) (command : String) (output : ProcessOutput) :
    (RunError.release target.arch (.build (.failed command output.code
      (trimBlanks output.stderrText)))).text = publishFailure target command output :=
  failure_joined target.arch.name command (endingText output.code) (trimBlanks output.stderrText)

theorem publishError_text {target : BuildRequest} {command : String} {output : ProcessOutput}
    (h : output.code ≠ some 0) :
    ∃ e, publishError? command (.ok output) = some e ∧
      (RunError.release target.arch (.build e)).text = publishFailure target command output := by
  have hfailed : ¬ output.success = true := by simpa [ProcessOutput.success] using h
  exact ⟨_, by simp only [publishError?, if_neg hfailed], failed_text target command output⟩

/-- A machine with nothing on it. -/
def bareWorld : World Unit := { machine := {}, runner := () }

end Slipway
