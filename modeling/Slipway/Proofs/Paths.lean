import Mathlib.Data.List.Infix
import Slipway.FileSystem.Walk

/-!
# The steps of joined paths

Joining appends steps, whatever separators the left side ends in, and the path of a location has
the location's names as its steps.
-/

namespace Slipway

/-- A text that names one entry of a directory. -/
structure IsName (name : String) : Prop where
  ne_empty : name ≠ ""
  ne_dot : name ≠ "."
  ne_dots : name ≠ ".."
  no_separator : '/' ∉ name.toList

instance (name : String) : Decidable (IsName name) :=
  decidable_of_iff (name ≠ "" ∧ name ≠ "." ∧ name ≠ ".." ∧ '/' ∉ name.toList)
    ⟨fun h => ⟨h.1, h.2.1, h.2.2.1, h.2.2.2⟩, fun h => ⟨h.1, h.2, h.3, h.4⟩⟩

/-- A location that a path can spell out. -/
def Plain (place : Location) : Prop := ∀ name ∈ place, IsName name

instance (place : Location) : Decidable (Plain place) :=
  inferInstanceAs (Decidable (∀ name ∈ place, IsName name))

theorem Plain.append {p q : Location} (hp : Plain p) (hq : Plain q) : Plain (p ++ q) := by
  intro name h
  rcases List.mem_append.mp h with h | h
  · exact hp name h
  · exact hq name h

namespace Path

/-! ## Separators -/

theorem split_ne_nil (chars : List Char) : split chars ≠ [] := by
  cases chars with
  | nil => simp [split]
  | cons c rest =>
    unfold split
    split
    · simp
    · split <;> simp

theorem split_of_no_separator {chars : List Char} (h : '/' ∉ chars) : split chars = [chars] := by
  induction chars with
  | nil => rfl
  | cons c rest ih =>
    simp only [List.mem_cons, not_or] at h
    have hc : c ≠ separator := fun hc => h.1 hc.symm
    simp [split, hc, ih h.2]

theorem split_append_separator (xs ys : List Char) :
    split (xs ++ '/' :: ys) = split xs ++ split ys := by
  induction xs with
  | nil => simp [split, separator]
  | cons c rest ih =>
    by_cases hc : c = separator
    · simp [split, hc, ih]
    · obtain ⟨first, others, hs⟩ := List.exists_cons_of_ne_nil (split_ne_nil rest)
      simp [split, hc, ih, hs]

theorem split_intercalate {names : List (List Char)} (h : ∀ name ∈ names, '/' ∉ name)
    (hne : names ≠ []) : split (List.intercalate ['/'] names) = names := by
  induction names with
  | nil => exact absurd rfl hne
  | cons name rest ih =>
    have hname := split_of_no_separator (h name List.mem_cons_self)
    by_cases hr : rest = []
    · subst hr
      simpa using hname
    · have hrest := ih (fun n hn => h n (List.mem_cons_of_mem _ hn)) hr
      rw [List.intercalate_cons_of_ne_nil hr, List.append_assoc, List.singleton_append,
        split_append_separator, hname, hrest]
      rfl

/-! ## Joining -/

theorem eq_of_toList {p q : Path} (h : p.text.toList = q.text.toList) : p = q := by
  obtain ⟨p⟩ := p
  obtain ⟨q⟩ := q
  exact congrArg Path.mk (String.toList_injective h)

/-- The text of a join with a relative path: a separator is put between, if there is none yet. -/
theorem toList_join {p : Path} {right : String} (h : ¬ isAbsolute ⟨right⟩) :
    (p.join right).text.toList = p.text.toList ++ right.toList ∧
        (p.text.toList = [] ∨ ∃ xs, p.text.toList = xs ++ ['/']) ∨
      (p.join right).text.toList = p.text.toList ++ '/' :: right.toList ∧ p.text.toList ≠ [] := by
  unfold join
  rw [if_neg h]
  split
  · rename_i hp
    rw [Bool.or_eq_true, beq_iff_eq, String.isEmpty_iff] at hp
    refine Or.inl ⟨by simp, ?_⟩
    rcases hp with hp | hp
    · exact Or.inl (by simp [hp])
    · obtain ⟨xs, hxs⟩ := List.getLast?_eq_some_iff.mp hp
      exact Or.inr ⟨xs, hxs⟩
  · rename_i hp
    rw [Bool.or_eq_true, not_or, String.isEmpty_iff] at hp
    exact Or.inr ⟨by simp, by simpa using hp.1⟩

theorem isAbsolute_join {p : Path} {right : String} (h : ¬ isAbsolute ⟨right⟩) :
    (p.join right).isAbsolute = p.isAbsolute := by
  unfold isAbsolute at h ⊢
  rcases toList_join (p := p) h with ⟨ht, hp | ⟨xs, hp⟩⟩ | ⟨ht, hp⟩
  · rw [ht, hp, List.nil_append]
    simpa using h
  · rw [ht, hp]
    cases xs <;> simp
  · rw [ht, List.head?_append_of_ne_nil _ hp]

theorem getLast?_join {p : Path} {right : String} (h : ¬ isAbsolute ⟨right⟩)
    (hne : right.toList ≠ []) : (p.join right).text.toList.getLast? = right.toList.getLast? := by
  rcases toList_join (p := p) h with ⟨ht, -⟩ | ⟨ht, -⟩
  · rw [ht, List.getLast?_append_of_ne_nil _ hne]
  · rw [ht, List.getLast?_append_of_ne_nil _ (by simp), List.getLast?_cons_of_ne_nil hne]

end Path

theorem stepsOf_join {p : Path} {right : String} (h : ¬ Path.isAbsolute ⟨right⟩) :
    stepsOf (p.join right) = stepsOf p ++ stepsOf ⟨right⟩ := by
  unfold stepsOf
  rcases Path.toList_join (p := p) h with ⟨ht, hp | ⟨xs, hp⟩⟩ | ⟨ht, -⟩
  · simp [ht, hp, Path.split]
  · rw [ht, hp, List.append_assoc, List.singleton_append, Path.split_append_separator,
      Path.split_append_separator]
    simp [Path.split]
  · rw [ht, Path.split_append_separator]
    simp

theorem startOf_join {here : Location} {p : Path} {right : String}
    (h : ¬ Path.isAbsolute ⟨right⟩) :
    FileSystem.startOf here (p.join right) = FileSystem.startOf here p := by
  unfold FileSystem.startOf
  rw [Path.isAbsolute_join h]

theorem walkSteps_join {p : Path} {right : String} (h : ¬ Path.isAbsolute ⟨right⟩)
    (hne : right.toList ≠ []) : walkSteps (p.join right) = stepsOf p ++ walkSteps ⟨right⟩ := by
  unfold walkSteps Path.endsInSeparator
  rw [Path.getLast?_join h hne, stepsOf_join h]
  split <;> simp

/-! ## Names -/

namespace IsName

variable {name : String} (h : IsName name)

include h

theorem toList_ne_nil : name.toList ≠ [] := by simpa using h.ne_empty

theorem not_absolute : ¬ Path.isAbsolute ⟨name⟩ := by
  unfold Path.isAbsolute
  rw [beq_iff_eq]
  intro hh
  obtain ⟨rest, hr⟩ := List.head?_eq_some_iff.mp hh
  apply h.no_separator
  rw [hr]
  exact List.mem_cons_self

theorem stepsOf_eq : stepsOf ⟨name⟩ = [name] := by
  unfold stepsOf
  simp [Path.split_of_no_separator h.no_separator, h.toList_ne_nil]

theorem stepsOf_join (p : Path) : stepsOf (p.join name) = stepsOf p ++ [name] := by
  rw [Slipway.stepsOf_join h.not_absolute, h.stepsOf_eq]

theorem isEmpty_join (p : Path) : (p.join name).text.isEmpty = false := by
  refine Bool.eq_false_iff.mpr fun hempty => ?_
  have hjoin : p.join name = ⟨""⟩ := congrArg Path.mk (String.isEmpty_iff.mp hempty)
  have hsteps := h.stepsOf_join p
  rw [hjoin, show stepsOf ⟨""⟩ = [] by decide] at hsteps
  simp at hsteps

theorem startOf_join (here : Location) (p : Path) :
    FileSystem.startOf here (p.join name) = FileSystem.startOf here p :=
  Slipway.startOf_join h.not_absolute

theorem endsInSeparator_join (p : Path) : (p.join name).endsInSeparator = false := by
  unfold Path.endsInSeparator
  rw [Path.getLast?_join h.not_absolute h.toList_ne_nil, beq_eq_false_iff_ne]
  intro hl
  exact h.no_separator (List.mem_of_getLast? hl)

theorem walkSteps_join (p : Path) : walkSteps (p.join name) = stepsOf p ++ [name] := by
  unfold walkSteps
  rw [h.endsInSeparator_join, h.stepsOf_join]
  rfl

end IsName

/-! ## Locations -/

theorem isAbsolute_pathOf (place : Location) : (FileSystem.pathOf place).isAbsolute := by
  simp [FileSystem.pathOf, Path.isAbsolute, Path.separator]

theorem toList_pathOf (place : Location) :
    (FileSystem.pathOf place).text.toList
      = '/' :: List.intercalate ['/'] (place.map String.toList) := by
  simp [FileSystem.pathOf, String.toList_intercalate]

theorem stepsOf_pathOf {place : Location} (h : Plain place) :
    stepsOf (FileSystem.pathOf place) = place := by
  unfold stepsOf
  rw [toList_pathOf]
  have hslash : ∀ xs, Path.split ('/' :: xs) = [] :: Path.split xs := fun xs => by
    simp [Path.split, Path.separator]
  by_cases hp : place = []
  · subst hp; decide
  · have hsep : ∀ chars ∈ place.map String.toList, '/' ∉ chars := by
      intro chars hc
      obtain ⟨name, hn, rfl⟩ := List.mem_map.mp hc
      exact (h name hn).no_separator
    have hkeep : (place.map String.toList).filter (· ≠ []) = place.map String.toList := by
      rw [List.filter_eq_self]
      intro chars hc
      obtain ⟨name, hn, rfl⟩ := List.mem_map.mp hc
      simpa using (h name hn).ne_empty
    rw [hslash, Path.split_intercalate hsep (by simpa using hp),
      List.filter_cons_of_neg (by simp), hkeep]
    simp

theorem endsInSeparator_pathOf {place : Location} (h : Plain place) (hne : place ≠ []) :
    (FileSystem.pathOf place).endsInSeparator = false := by
  unfold Path.endsInSeparator
  rw [beq_eq_false_iff_ne]
  intro hlast
  obtain ⟨xs, hxs⟩ := List.getLast?_eq_some_iff.mp hlast
  have hsep : ∀ chars ∈ place.map String.toList, '/' ∉ chars := by
    intro chars hc
    obtain ⟨name, hn, rfl⟩ := List.mem_map.mp hc
    exact (h name hn).no_separator
  have hsplit := Path.split_intercalate hsep (by simpa using hne)
  rw [toList_pathOf] at hxs
  have hmem : [] ∈ place.map String.toList := by
    cases xs with
    | nil =>
      rw [(List.cons.inj hxs).2] at hsplit
      rw [← hsplit]
      exact List.mem_cons_self
    | cons c xs =>
      have htail : List.intercalate ['/'] (place.map String.toList) = xs ++ '/' :: [] :=
        (List.cons.inj hxs).2
      rw [htail, Path.split_append_separator] at hsplit
      rw [← hsplit]
      exact List.mem_append_right _ List.mem_cons_self
  obtain ⟨name, hn, hempty⟩ := List.mem_map.mp hmem
  exact (h name hn).toList_ne_nil hempty

theorem walkSteps_pathOf {place : Location} (h : Plain place) (hne : place ≠ []) :
    walkSteps (FileSystem.pathOf place) = place := by
  unfold walkSteps
  rw [endsInSeparator_pathOf h hne, stepsOf_pathOf h]
  rfl

theorem intercalate_append_of_ne_nil {α : Type} (sep : List α) {xs ys : List (List α)}
    (hx : xs ≠ []) (hy : ys ≠ []) :
    List.intercalate sep (xs ++ ys) = List.intercalate sep xs ++ sep ++ List.intercalate sep ys := by
  induction xs with
  | nil => exact absurd rfl hx
  | cons x rest ih =>
    by_cases hr : rest = []
    · subst hr
      rw [List.cons_append, List.nil_append, List.intercalate_cons_of_ne_nil hy,
        List.intercalate_singleton]
    · have happend : rest ++ ys ≠ [] := by simp [hr]
      rw [List.cons_append, List.intercalate_cons_of_ne_nil happend, ih hr,
        List.intercalate_cons_of_ne_nil hr]
      simp

theorem join_pathOf {place names : Location} {right : String} (h : Plain place)
    (hne : names ≠ []) (hr : right.toList = List.intercalate ['/'] (names.map String.toList))
    (habs : ¬ Path.isAbsolute ⟨right⟩) :
    (FileSystem.pathOf place).join right = FileSystem.pathOf (place ++ names) := by
  apply Path.eq_of_toList
  rw [toList_pathOf, List.map_append]
  by_cases hp : place = []
  · subst hp
    unfold Path.join
    rw [if_neg habs, if_pos (by decide)]
    simp [FileSystem.pathOf, hr]
  · have hclosed : ¬ ((FileSystem.pathOf place).text.isEmpty ||
        (FileSystem.pathOf place).text.toList.getLast? == some Path.separator) = true := by
      rw [Bool.or_eq_true, not_or]
      refine ⟨by simp [FileSystem.pathOf], ?_⟩
      simpa [Path.endsInSeparator] using endsInSeparator_pathOf h hp
    unfold Path.join
    rw [if_neg habs, if_neg hclosed, String.toList_append, String.toList_append, toList_pathOf, hr,
      intercalate_append_of_ne_nil _ (by simpa using hp) (by simpa using hne)]
    simp

theorem IsName.join_pathOf {name : String} (hn : IsName name) {place : Location} (h : Plain place) :
    (FileSystem.pathOf place).join name = FileSystem.pathOf (place ++ [name]) :=
  Slipway.join_pathOf h (by simp) (by simp) hn.not_absolute

end Slipway
