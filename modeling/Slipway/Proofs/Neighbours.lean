import Mathlib.Data.List.DropRight
import Slipway.Proofs.Walking

/-!
# Neighbours of a joined path

The parent of a joined path is the left side without the dots and separators at its end, so a
neighbour is looked for in the directory that the left side leads to.
-/

namespace Slipway

namespace Path

/-! ## Splitting -/

theorem no_separator_of_mem_split {chars name : List Char} (h : name ∈ split chars) :
    '/' ∉ name := by
  induction chars generalizing name with
  | nil => simp [split] at h; simp [h]
  | cons c rest ih =>
    unfold split at h
    split at h
    · rcases List.mem_cons.mp h with rfl | h
      · exact List.not_mem_nil
      · exact ih h
    · rename_i hc
      obtain ⟨first, others, hs⟩ := List.exists_cons_of_ne_nil (split_ne_nil rest)
      simp only [hs] at h ih
      rcases List.mem_cons.mp h with rfl | h
      · intro hmem
        rcases List.mem_cons.mp hmem with hmem | hmem
        · exact hc hmem.symm
        · exact ih List.mem_cons_self hmem
      · exact ih (List.mem_cons_of_mem _ h)

/-- Names that lead nowhere. -/
def isIdle (name : List Char) : Bool := name = [] ∨ name = ['.']

theorem split_drop_separator {text : List Char} {more : List (List Char)}
    (h : split text = [] :: more) (hm : more ≠ []) :
    text.head? = some '/' ∧ split (text.drop 1) = more := by
  cases text with
  | nil => simp [split] at h; exact absurd h hm
  | cons c rest =>
    by_cases hc : c = separator
    · rw [split, if_pos hc, List.cons.injEq] at h
      exact ⟨by rw [hc]; rfl, h.2⟩
    · obtain ⟨first, others, hs⟩ := List.exists_cons_of_ne_nil (split_ne_nil rest)
      simp [split, hc, hs] at h

theorem split_drop_dot {text : List Char} {more : List (List Char)}
    (h : split text = ['.'] :: more) : split (text.drop 1) = [] :: more := by
  cases text with
  | nil => simp [split] at h
  | cons c rest =>
    by_cases hc : c = separator
    · simp [split, hc] at h
    · obtain ⟨first, others, hs⟩ := List.exists_cons_of_ne_nil (split_ne_nil rest)
      simp only [split, hc, hs, if_false, List.cons.injEq] at h
      rw [List.drop_one, List.tail_cons, hs, h.1.2, h.2]

theorem head_of_split {text first : List Char} {more : List (List Char)}
    (h : split text = first :: more) (hf : first ≠ []) : text.head? = first.head? := by
  cases text with
  | nil => simp [split] at h; exact absurd h.1 hf
  | cons c rest =>
    by_cases hc : c = separator
    · simp only [split, hc, if_true, List.cons.injEq] at h
      exact absurd h.1.symm hf
    · obtain ⟨first', others, hs⟩ := List.exists_cons_of_ne_nil (split_ne_nil rest)
      simp only [split, hc, hs, if_false, List.cons.injEq] at h
      rw [← h.1]
      rfl

/-- The names of a path that are not empty. -/
def steps (chars : List Char) : List (List Char) := (split chars).filter (· ≠ [])

theorem steps_slash (chars : List Char) : steps ('/' :: chars) = steps chars := by
  simp [steps, split, separator]

theorem steps_intercalate {names : List (List Char)} (h : ∀ name ∈ names, '/' ∉ name) :
    steps (List.intercalate ['/'] names) = names.filter (· ≠ []) := by
  unfold steps
  by_cases hn : names = []
  · subst hn; decide
  · rw [split_intercalate h hn]

theorem steps_dot_intercalate {names : List (List Char)}
    (h : ∀ name ∈ ([] :: names).rdropWhile isIdle, '/' ∉ name) :
    steps ('.' :: List.intercalate ['/'] (([] :: names).rdropWhile isIdle))
      = ['.'] :: (([] :: names).rdropWhile isIdle).filter (· ≠ []) := by
  rcases List.prefix_cons_iff.mp (List.rdropWhile_prefix isIdle ([] :: names)) with hk | ⟨more, hk, -⟩
  · rw [hk]; decide
  · have hm : more ≠ [] := by
      rintro rfl
      exact List.rdropWhile_last_not isIdle ([] :: names) (by simp [hk]) (by simp [hk, isIdle])
    have hsplit : split (List.intercalate ['/'] ([] :: more)) = [] :: more :=
      split_intercalate (hk ▸ h) (List.cons_ne_nil _ _)
    rw [hk, steps, split, if_neg (by decide), hsplit]
    simp

theorem not_absolute_intercalate {first : List Char} {names kept : List (List Char)}
    (hf : first ≠ []) (hs : '/' ∉ first) (hsep : ∀ name ∈ kept, '/' ∉ name)
    (hk : kept <+: first :: names) :
    ¬ isAbsolute ⟨String.ofList (List.intercalate ['/'] kept)⟩ := by
  unfold isAbsolute
  rw [beq_iff_eq, String.toList_ofList]
  rcases List.prefix_cons_iff.mp hk with rfl | ⟨more, rfl, -⟩
  · simp
  · have hsplit := split_intercalate hsep (List.cons_ne_nil _ _)
    rw [head_of_split hsplit hf]
    intro hh
    exact hs (List.mem_of_head? hh)

/-! ## The start of a path -/

theorem start_root {p : Path} {others : List (List Char)}
    (h : split p.text.toList = [] :: others) (hothers : others ≠ []) : p.start = ['/'] := by
  obtain ⟨next, more, rfl⟩ := List.exists_cons_of_ne_nil hothers
  unfold start
  rw [h]
  rfl

theorem start_dot {p : Path} {others : List (List Char)}
    (h : split p.text.toList = ['.'] :: others) : p.start = ['.'] := by
  unfold start
  rw [h]
  cases others <;> rfl

theorem start_plain {p : Path} {first : List Char} {others : List (List Char)}
    (h : split p.text.toList = first :: others) (hroot : ¬ (first = [] ∧ others ≠ []))
    (hdot : first ≠ ['.']) : p.start = [] := by
  unfold start
  rw [h]
  split
  · rename_i heq
    exact absurd ⟨(List.cons.inj heq).1, by simp [(List.cons.inj heq).2]⟩ hroot
  · rename_i heq
    exact absurd (List.cons.inj heq).1 hdot
  · rfl

/-! ## The last name and the names before it -/

/-- The idle names at the end of a list are dots, once the empty ones are left out. -/
theorem filter_rdropWhile_isIdle (names : List (List Char)) :
    ∃ dots : List (List Char), (∀ d ∈ dots, d = ['.']) ∧
      names.filter (· ≠ []) = (names.rdropWhile isIdle).filter (· ≠ []) ++ dots := by
  refine ⟨(names.rtakeWhile isIdle).filter (· ≠ []), fun d hd => ?_, ?_⟩
  · rw [List.mem_filter] at hd
    have hidle := List.mem_rtakeWhile_imp hd.1
    simpa [isIdle, of_decide_eq_true hd.2] using hidle
  · rw [← List.filter_append, List.rdropWhile_append_rtakeWhile]

theorem backwards_of_split {p : Path} {names : List (List Char)} {name : List Char}
    (h : split (p.text.toList.drop p.start.length) = names ++ [name]) (hn : isIdle name = false)
    (hdots : name ≠ ['.', '.']) :
    p.fileName? = some (String.ofList name) ∧
      p.parent? = some ⟨String.ofList (p.start ++
        List.intercalate ['/'] (names.rdropWhile isIdle))⟩ := by
  have hb : p.backwards = name :: names.reverse := by
    unfold backwards
    rw [h, List.reverse_concat', List.dropWhile_cons_of_neg]
    simpa [isIdle] using hn
  unfold fileName? parent?
  rw [hb]
  exact ⟨if_neg hdots, rfl⟩

/-- The names of a path that is split into `first`, `others` and a last name are those of its
parent, up to dots at the end. -/
theorem parent?_of_split {p : Path} {first name : List Char} {others : List (List Char)}
    (h : split p.text.toList = first :: (others ++ [name])) (hn : isIdle name = false)
    (hdots : name ≠ ['.', '.']) :
    ∃ up dots, p.fileName? = some (String.ofList name) ∧ p.parent? = some up ∧
      (up.isAbsolute ↔ first = []) ∧ (∀ d ∈ dots, d = ['.']) ∧
      (first :: others).filter (· ≠ []) = steps up.text.toList ++ dots := by
  have hsep : ∀ n ∈ first :: others, '/' ∉ n := fun n hmem => by
    have hmem' : n ∈ split p.text.toList := by
      rw [h, ← List.cons_append]
      exact List.mem_append_left _ hmem
    exact no_separator_of_mem_split hmem'
  have hsub : ∀ names : List (List Char), (∀ n ∈ names, '/' ∉ n) →
      ∀ n ∈ names.rdropWhile isIdle, '/' ∉ n := fun names hs n hmem =>
    hs n ((List.rdropWhile_prefix isIdle names).subset hmem)
  -- The start of the path is a separator, a dot, or a name like the others.
  by_cases hroot : first = []
  · subst hroot
    have hstart := start_root h (by simp)
    obtain ⟨-, hdrop⟩ := split_drop_separator h (by simp)
    have hup := backwards_of_split (p := p) (by rw [hstart]; exact hdrop) hn hdots
    obtain ⟨dots, hidle, hkept⟩ := filter_rdropWhile_isIdle others
    refine ⟨_, dots, hup.1, hup.2, ?_, hidle, ?_⟩
    · simp [isAbsolute, hstart, separator]
    · rw [List.filter_cons_of_neg (by simp), hkept, String.toList_ofList, hstart,
        List.singleton_append, steps_slash, steps_intercalate (hsub others fun n hmem =>
          hsep n (List.mem_cons_of_mem _ hmem))]
  · by_cases hdot : first = ['.']
    · subst hdot
      have hstart := start_dot h
      have hdrop : split (p.text.toList.drop p.start.length) = ([] :: others) ++ [name] := by
        rw [hstart]
        exact split_drop_dot h
      have hup := backwards_of_split hdrop hn hdots
      obtain ⟨dots, hidle, hkept⟩ := filter_rdropWhile_isIdle ([] :: others)
      refine ⟨_, dots, hup.1, hup.2, ?_, hidle, ?_⟩
      · simp [isAbsolute, hstart, separator]
      · rw [List.filter_cons_of_pos (by simp), String.toList_ofList, hstart,
          List.singleton_append, steps_dot_intercalate (hsub _ (by simpa using hsep)),
          List.cons_append, ← hkept]
        simp
    · have hstart := start_plain h (fun hboth => hroot hboth.1) hdot
      have hall : split (p.text.toList.drop p.start.length) = (first :: others) ++ [name] := by
        rw [hstart]
        exact h
      have hup := backwards_of_split hall hn hdots
      obtain ⟨dots, hidle, hkept⟩ := filter_rdropWhile_isIdle (first :: others)
      refine ⟨_, dots, hup.1, hup.2, ?_, hidle, ?_⟩
      · simp only [hroot, iff_false, hstart, List.nil_append]
        exact not_absolute_intercalate hroot (hsep first List.mem_cons_self) (hsub _ hsep)
          (List.rdropWhile_prefix isIdle _)
      · rw [hkept, String.toList_ofList, hstart, List.nil_append, steps_intercalate (hsub _ hsep)]

theorem parent?_kept {p up : Path} (h : p.parent? = some up) :
    up = ⟨""⟩ ∧ p.start = ['.'] ∨
      ∃ kept, kept <+: split (p.text.toList.drop p.start.length) ∧
        up = ⟨String.ofList (p.start ++ List.intercalate ['/'] kept)⟩ := by
  unfold parent? at h
  split at h
  · split_ifs at h with hdot
    exact Or.inl ⟨(Option.some.inj h).symm, hdot⟩
  · rename_i last before hback
    refine Or.inr ⟨(before.dropWhile isIdle).reverse, ?_, (Option.some.inj h).symm⟩
    have hsuffix : before <:+ p.backwards := hback ▸ List.suffix_cons last before
    have hall := ((List.dropWhile_suffix isIdle).trans hsuffix).trans (List.dropWhile_suffix _)
    simpa using List.reverse_prefix.mpr hall

theorem steps_dot {chars : List Char} {more : List (List Char)} (h : split chars = [] :: more) :
    steps ('.' :: chars) = ['.'] :: more.filter (· ≠ []) := by
  rw [steps, split, if_neg (by decide), h]
  simp

end Path

/-! ## Parents -/

theorem stepsOf_eq_steps (p : Path) : stepsOf p = (Path.steps p.text.toList).map String.ofList :=
  rfl

section Parent

variable {p up : Path} {first : List Char} {others kept : List (List Char)}

theorem no_separator_of_kept (hsplit : Path.split p.text.toList = first :: others)
    (hkept : kept <+: first :: others) : ∀ n ∈ kept, '/' ∉ n := fun _ hn =>
  Path.no_separator_of_mem_split (hsplit ▸ hkept.subset hn)

theorem stepsOf_parent?_root (hsplit : Path.split p.text.toList = [] :: others)
    (hothers : others ≠ []) (h : p.parent? = some up) :
    up.isAbsolute = p.isAbsolute ∧ stepsOf up <+: stepsOf p := by
  obtain ⟨hhead, hdrop⟩ := Path.split_drop_separator hsplit hothers
  have hstart := Path.start_root hsplit hothers
  rcases Path.parent?_kept h with ⟨-, hdot⟩ | ⟨kept, hkept, rfl⟩
  · simp [hstart] at hdot
  · rw [hstart] at hkept ⊢
    simp only [List.length_singleton, hdrop] at hkept
    have hsep : ∀ n ∈ kept, '/' ∉ n := fun n hn =>
      no_separator_of_kept hsplit (List.prefix_refl _) n
        (List.mem_cons_of_mem _ (hkept.subset hn))
    refine ⟨by simp [Path.isAbsolute, Path.separator, hhead], ?_⟩
    rw [stepsOf_eq_steps, stepsOf_eq_steps, String.toList_ofList, List.singleton_append,
      Path.steps_slash, Path.steps_intercalate hsep, Path.steps, hsplit,
      List.filter_cons_of_neg (by simp)]
    exact (hkept.filter _).map _

theorem stepsOf_parent?_dot (hsplit : Path.split p.text.toList = ['.'] :: others)
    (h : p.parent? = some up) : up.isAbsolute = p.isAbsolute ∧ stepsOf up <+: stepsOf p := by
  have hstart := Path.start_dot hsplit
  have hrel : p.isAbsolute = false := by
    have hhead := Path.head_of_split hsplit (by simp)
    simp [Path.isAbsolute, Path.separator, hhead]
  have hp : stepsOf p = (['.'] :: others.filter (· ≠ [])).map String.ofList := by
    rw [stepsOf_eq_steps, Path.steps, hsplit, List.filter_cons_of_pos (by simp)]
  rcases Path.parent?_kept h with ⟨rfl, -⟩ | ⟨kept, hkept, rfl⟩
  · exact ⟨by rw [hrel]; rfl, by simp [stepsOf, Path.split]⟩
  · rw [hstart] at hkept ⊢
    simp only [List.length_singleton, Path.split_drop_dot hsplit] at hkept
    refine ⟨by simp [Path.isAbsolute, Path.separator] at hrel ⊢; exact hrel, ?_⟩
    have hall : ∀ n ∈ [] :: others, '/' ∉ n := by
      simpa using no_separator_of_kept hsplit (List.prefix_refl _)
    rw [hp, stepsOf_eq_steps, String.toList_ofList, List.singleton_append]
    rcases List.prefix_cons_iff.mp hkept with rfl | ⟨more, rfl, hmore⟩
    · exact List.IsPrefix.map _ (by simp [Path.steps, Path.split, Path.separator])
    · rw [Path.steps_dot (Path.split_intercalate (fun n hn => hall n (hkept.subset hn))
        (List.cons_ne_nil _ _))]
      exact List.IsPrefix.map _ (List.cons_prefix_cons.mpr ⟨rfl, hmore.filter _⟩)

theorem isAbsolute_kept (hsplit : Path.split p.text.toList = first :: others)
    (hroot : ¬ (first = [] ∧ others ≠ [])) (hkept : kept <+: first :: others) :
    Path.isAbsolute ⟨String.ofList (List.intercalate ['/'] kept)⟩ = p.isAbsolute := by
  by_cases hempty : first = []
  · obtain rfl : others = [] := by_contra fun hne => hroot ⟨hempty, hne⟩
    subst hempty
    have hp : p.text.toList = [] := by
      cases htext : p.text.toList with
      | nil => rfl
      | cons c rest =>
        obtain ⟨next, more, hs⟩ := List.exists_cons_of_ne_nil (Path.split_ne_nil rest)
        rw [htext, Path.split] at hsplit
        split at hsplit <;> simp [hs] at hsplit
    have hnone : List.intercalate ['/'] kept = [] := by
      rcases List.prefix_cons_iff.mp hkept with rfl | ⟨more, rfl, hmore⟩
      · rfl
      · rw [List.prefix_nil.mp hmore]; rfl
    simp [Path.isAbsolute, hp, hnone]
  · have hfirst := no_separator_of_kept hsplit (List.prefix_refl _) first List.mem_cons_self
    rw [Bool.eq_iff_iff]
    refine iff_of_false (Path.not_absolute_intercalate hempty hfirst
      (no_separator_of_kept hsplit hkept) hkept) ?_
    rw [Path.isAbsolute, Path.head_of_split hsplit hempty, beq_iff_eq]
    exact fun hhead => hfirst (List.mem_of_head? hhead)

theorem stepsOf_parent? (h : p.parent? = some up) :
    up.isAbsolute = p.isAbsolute ∧ stepsOf up <+: stepsOf p := by
  obtain ⟨first, others, hsplit⟩ := List.exists_cons_of_ne_nil (Path.split_ne_nil p.text.toList)
  by_cases hroot : first = [] ∧ others ≠ []
  · obtain ⟨rfl, hothers⟩ := hroot
    exact stepsOf_parent?_root hsplit hothers h
  by_cases hdot : first = ['.']
  · subst hdot
    exact stepsOf_parent?_dot hsplit h
  have hstart := Path.start_plain hsplit hroot hdot
  rcases Path.parent?_kept h with ⟨-, hdot'⟩ | ⟨kept, hkept, rfl⟩
  · simp [hstart] at hdot'
  · rw [hstart] at hkept ⊢
    simp only [List.length_nil, List.drop_zero, hsplit] at hkept
    rw [List.nil_append]
    refine ⟨isAbsolute_kept hsplit hroot hkept, ?_⟩
    rw [stepsOf_eq_steps, stepsOf_eq_steps, String.toList_ofList,
      Path.steps_intercalate (no_separator_of_kept hsplit hkept), Path.steps, hsplit]
    exact (hkept.filter _).map _

end Parent

/-! ## Joined paths -/

/-- Joining puts one separator between the left side and the name, if the left side is not empty. -/
theorem IsName.split_join {name : String} (h : IsName name) (dir : Path) :
    dir.text.toList = [] ∧ Path.split (dir.join name).text.toList = [name.toList] ∨
      ∃ first others, Path.split (dir.join name).text.toList = first :: (others ++ [name.toList]) ∧
        Path.steps dir.text.toList = (first :: others).filter (· ≠ []) := by
  have hname := Path.split_of_no_separator h.no_separator
  rcases Path.toList_join (p := dir) h.not_absolute with ⟨ht, hp | ⟨xs, hp⟩⟩ | ⟨ht, hp⟩
  · exact Or.inl ⟨hp, by rw [ht, hp, List.nil_append, hname]⟩
  · obtain ⟨first, others, hs⟩ := List.exists_cons_of_ne_nil (Path.split_ne_nil xs)
    refine Or.inr ⟨first, others, ?_, ?_⟩
    · rw [ht, hp, List.append_assoc, List.singleton_append, Path.split_append_separator, hname, hs]
      rfl
    · rw [hp, Path.steps, Path.split_append_separator, hs, List.filter_append]
      simp [Path.split]
  · obtain ⟨first, others, hs⟩ := List.exists_cons_of_ne_nil (Path.split_ne_nil dir.text.toList)
    refine Or.inr ⟨first, others, ?_, by rw [Path.steps, hs]⟩
    rw [ht, Path.split_append_separator, hname, hs]
    rfl

/-- A path that differs from `dir` at most by dots at its end. -/
def Path.SameWay (up dir : Path) : Prop :=
  up.isAbsolute = dir.isAbsolute ∧
    ∃ dots, stepsOf dir = stepsOf up ++ dots ∧ ∀ d ∈ dots, d = "."

theorem IsName.parent?_join {name : String} (h : IsName name) (dir : Path) :
    (dir.join name).fileName? = some name ∧
      ∃ up, (dir.join name).parent? = some up ∧ up.SameWay dir := by
  have hdot : name.toList ≠ ['.'] := fun hc => h.ne_dot (String.toList_inj.mp hc)
  have hidle : Path.isIdle name.toList = false := by simp [Path.isIdle, hdot, h.ne_empty]
  have hdots : name.toList ≠ ['.', '.'] := fun hc => h.ne_dots (String.toList_inj.mp hc)
  rcases h.split_join dir with ⟨hempty, hsplit⟩ | ⟨first, others, hsplit, hsteps⟩
  · have hstart : (dir.join name).start = [] := by
      unfold Path.start
      rw [hsplit]
      split
      · rename_i heq; simp at heq
      · rename_i heq; exact absurd (List.cons.inj heq).1 hdot
      · rfl
    have hall : Path.split ((dir.join name).text.toList.drop (dir.join name).start.length)
        = [] ++ [name.toList] := by
      rw [hstart]
      exact hsplit
    obtain ⟨hfile, hup⟩ := Path.backwards_of_split hall hidle hdots
    have htext : dir.text = "" := by simpa using hempty
    refine ⟨by simpa using hfile, _, hup, ?_, [], ?_, by simp⟩
    · simp [Path.isAbsolute, hstart, htext]
    · simp [stepsOf, hstart, htext]
  · obtain ⟨up, dots, hfile, hup, habs, hall, hnames⟩ :=
      Path.parent?_of_split hsplit hidle hdots
    refine ⟨by simpa using hfile, up, hup, ?_, dots.map String.ofList, ?_, ?_⟩
    · rw [Bool.eq_iff_iff, habs, ← Path.isAbsolute_join (p := dir) h.not_absolute, Path.isAbsolute,
        beq_iff_eq]
      constructor
      · rintro rfl
        exact (Path.split_drop_separator hsplit (by simp)).1
      · intro hhead
        by_contra hf
        rw [Path.head_of_split hsplit hf] at hhead
        have hmem : first ∈ Path.split (dir.join name).text.toList := by
          rw [hsplit]; exact List.mem_cons_self
        exact Path.no_separator_of_mem_split hmem (List.mem_of_head? hhead)
    · rw [stepsOf_eq_steps, hsteps, hnames, List.map_append, stepsOf_eq_steps]
    · intro d hd
      obtain ⟨chars, hc, rfl⟩ := List.mem_map.mp hd
      rw [hall chars hc]

theorem IsName.withFileName_join {name : String} (h : IsName name) (dir : Path) :
    ∃ up : Path, up.SameWay dir ∧ ∀ other, (dir.join name).withFileName other = up.join other := by
  obtain ⟨hfile, up, hup, hsame⟩ := h.parent?_join dir
  refine ⟨up, hsame, fun other => ?_⟩
  unfold Path.withFileName
  rw [hfile, hup]

/-! ## The way there -/

namespace FileSystem

variable {fs : FileSystem} {here place : Location} {up dir : Path}

theorem walk_dots {links : Nat} {dots : List String} {spot : Spot} (h : ∀ d ∈ dots, d = ".") :
    fs.walk true links here (dots ++ ["."]) = .ok spot ↔
      fs.Enterable here ∧ spot = ⟨here, fs.node? here⟩ := by
  induction dots with
  | nil => exact walk_dot
  | cons d rest ih =>
    have ih := ih (fun d hd => h d (List.mem_cons_of_mem _ hd))
    rw [h d List.mem_cons_self, List.cons_append]
    constructor
    · intro hwalk
      have hent := enterable_of_walk hwalk (by simp)
      rw [walk_cons (by simp), move_dot hent] at hwalk
      exact ih.mp hwalk
    · rintro ⟨hent, hspot⟩
      rw [walk_cons (by simp), move_dot hent]
      exact ih.mpr ⟨hent, hspot⟩

theorem reaches_sameWay (h : up.SameWay dir) : fs.Reaches here up place ↔ fs.Reaches here dir place := by
  obtain ⟨habs, dots, hsteps, hdots⟩ := h
  have hstart : startOf here up = startOf here dir := by unfold startOf; rw [habs]
  unfold Reaches
  rw [hstart, hsteps, List.append_assoc]
  constructor
  · intro hwalk
    obtain ⟨links, other, hmore⟩ := walk_append hwalk (List.cons_ne_nil _ _)
    rw [hmore _ (List.cons_ne_nil _ _)] at hwalk
    rw [hmore _ (by simp)]
    exact (walk_dots hdots).mpr (walk_dot.mp hwalk)
  · intro hwalk
    obtain ⟨links, other, hmore⟩ := walk_append hwalk (by simp)
    rw [hmore _ (by simp)] at hwalk
    rw [hmore _ (List.cons_ne_nil _ _)]
    exact walk_dot.mpr ((walk_dots hdots).mp hwalk)

theorem wayOf_sameWay (h : up.SameWay dir) : wayOf here up = wayOf here dir := by
  obtain ⟨habs, dots, hsteps, hdots⟩ := h
  have hnone : namesIn dots = [] :=
    List.filter_eq_nil_iff.mpr (fun d hd => by simp [hdots d hd])
  unfold wayOf startOf
  rw [habs, hsteps, namesIn_append, hnone, List.append_nil]

end FileSystem

end Slipway
