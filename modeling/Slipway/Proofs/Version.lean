import Slipway.Proofs.Pieces
import Slipway.Proofs.Utf8
import Slipway.Release.Version

/-!
# The version is the first line

Reading a version file piece by piece finds the text before its first line end, however long the
file is.
-/

namespace Slipway

open FileSystem World

variable {σ : Type} {runner : Runner σ} {may : Refusals} {w w' : World σ}

/-! ## Line ends in bytes -/

theorem encodeChar_lineFeed : String.utf8EncodeChar '\n' = [lineFeed] := by decide

theorem lineFeed_mem_encodeChar {c : Char} (h : lineFeed ∈ String.utf8EncodeChar c) :
    c = '\n' := by
  have hbig : ∀ n k : Nat, 10 < k → n + k < 256 → lineFeed ≠ UInt8.ofNat (n + k) := by
    intro n k hk hn heq
    have hnat := congrArg UInt8.toNat heq
    rw [UInt8.toNat_ofNat', Nat.mod_eq_of_lt (by omega)] at hnat
    simp only [lineFeed, UInt8.reduceToNat] at hnat
    omega
  unfold String.utf8EncodeChar at h
  dsimp only at h
  split_ifs at h with h1 h2 h3
  · have hnat := congrArg UInt8.toNat (List.mem_singleton.mp h)
    rw [UInt8.toNat_ofNat', Nat.mod_eq_of_lt (by omega)] at hnat
    apply Char.ext
    rw [← UInt32.toNat_inj]
    exact hnat.symm
  · simp only [List.mem_cons, List.not_mem_nil, or_false] at h
    rcases h with h | h <;> exact absurd h (hbig _ _ (by omega) (by omega))
  · simp only [List.mem_cons, List.not_mem_nil, or_false] at h
    rcases h with h | h | h <;> exact absurd h (hbig _ _ (by omega) (by omega))
  · simp only [List.mem_cons, List.not_mem_nil, or_false] at h
    rcases h with h | h | h | h <;> exact absurd h (hbig _ _ (by omega) (by omega))

theorem lineFeed_mem_encode {chars : List Char} :
    lineFeed ∈ chars.flatMap String.utf8EncodeChar ↔ '\n' ∈ chars := by
  rw [List.mem_flatMap]
  constructor
  · rintro ⟨c, hc, h⟩
    exact lineFeed_mem_encodeChar h ▸ hc
  · intro h
    exact ⟨'\n', h, by decide⟩

/-! ## The first line of a content -/

theorem firstLine_of_not_mem {content : Bytes} (h : lineFeed ∉ content) :
    firstLine content = content := by
  have hall : content.takeWhile (· ≠ lineFeed) = content := by
    rw [List.takeWhile_eq_self_iff]
    intro b hb
    have hne : b ≠ lineFeed := by rintro rfl; exact h hb
    simpa using hne
  unfold firstLine
  simp only [hall, lt_irrefl, if_false]

theorem firstLine_of_split {before rest : Bytes} (h : lineFeed ∉ before) :
    firstLine (before ++ lineFeed :: rest) = before ++ [lineFeed] := by
  have htake : (before ++ lineFeed :: rest).takeWhile (· ≠ lineFeed) = before := by
    rw [List.takeWhile_append_of_pos, List.takeWhile_cons_of_neg (by simp), List.append_nil]
    intro b hb
    have hne : b ≠ lineFeed := by rintro rfl; exact h hb
    simpa using hne
  unfold firstLine
  simp only [htake, List.length_append, List.length_cons]
  rw [if_pos (by omega)]

theorem exists_first_lineFeed {content : Bytes} (h : lineFeed ∈ content) :
    ∃ before rest, content = before ++ lineFeed :: rest ∧ lineFeed ∉ before := by
  induction content with
  | nil => simp at h
  | cons b rest ih =>
    by_cases hb : b = lineFeed
    · exact ⟨[], rest, by rw [hb, List.nil_append], by simp⟩
    · obtain ⟨before, after, rfl, hno⟩ := ih ((List.mem_cons.mp h).resolve_left (Ne.symm hb))
      exact ⟨b :: before, after, rfl, by simp [hno, Ne.symm hb]⟩

theorem firstLine_append {content more : Bytes} (h : lineFeed ∈ content) :
    firstLine (content ++ more) = firstLine content := by
  obtain ⟨before, rest, rfl, hno⟩ := exists_first_lineFeed h
  rw [List.append_assoc, List.cons_append, firstLine_of_split hno, firstLine_of_split hno]

/-- The line that a content begins with, its line feed included if it has one. -/
inductive FirstLineOf : (content line : Bytes) → Prop
  | whole {content : Bytes} (unended : lineFeed ∉ content) : FirstLineOf content content
  | ended {before rest : Bytes} (first : lineFeed ∉ before) :
    FirstLineOf (before ++ lineFeed :: rest) (before ++ [lineFeed])

theorem firstLineOf_firstLine (content : Bytes) : FirstLineOf content (firstLine content) := by
  by_cases h : lineFeed ∈ content
  · obtain ⟨before, rest, rfl, hno⟩ := exists_first_lineFeed h
    rw [firstLine_of_split hno]
    exact .ended hno
  · rw [firstLine_of_not_mem h]
    exact .whole h

/-- The text before the first line end of a content. A line ends with a line feed, or with a
carriage return and a line feed, or with the content. -/
structure IsFirstLine (content : Bytes) (text : String) : Prop where
  ne_empty : text ≠ ""
  no_lineFeed : '\n' ∉ text.toList
  ended : content = Utf8.encode text ∨
    (∃ rest, content = Utf8.encode text ++ Utf8.encode "\r\n" ++ rest) ∨
    ∃ rest, content = Utf8.encode text ++ Utf8.encode "\n" ++ rest ∧
      text.toList.getLast? ≠ some '\r'

theorem dropLineEnd_of_not_mem {chars : List Char} (h : '\n' ∉ chars) :
    dropLineEnd chars = chars := by
  unfold dropLineEnd
  split
  · rename_i rest hrev
    exact absurd (List.mem_reverse.mp (hrev ▸ List.mem_cons_self)) h
  · rename_i rest _ hrev
    exact absurd (List.mem_reverse.mp (hrev ▸ List.mem_cons_self)) h
  · rfl

theorem dropLineEnd_concat (chars : List Char) :
    dropLineEnd (chars ++ ['\n']) = chars ∧ chars.getLast? ≠ some '\r' ∨
      chars = dropLineEnd (chars ++ ['\n']) ++ ['\r'] := by
  unfold dropLineEnd
  rw [List.reverse_append, List.reverse_singleton, List.singleton_append]
  cases hrev : chars.reverse with
  | nil =>
    rw [List.reverse_eq_nil_iff.mp hrev]
    exact Or.inl ⟨rfl, by simp⟩
  | cons c rest =>
    have hchars : chars = rest.reverse ++ [c] := by
      rw [← List.reverse_reverse chars, hrev, List.reverse_cons]
    by_cases hc : c = '\r'
    · subst hc
      exact Or.inr hchars
    · refine Or.inl ⟨?_, by rw [hchars]; simpa using hc⟩
      split
      · rename_i heq
        exact absurd (List.cons.inj (List.cons.inj heq).2).1 hc
      · rename_i rest' _ heq
        rw [← (List.cons.inj heq).2, ← hrev, List.reverse_reverse]
      · rename_i hno
        exact absurd rfl (hno _)

/-- A text whose bytes end with their only line feed ends with its only line feed. -/
theorem toList_of_line {text : String} {before : Bytes} (hno : lineFeed ∉ before)
    (h : before ++ [lineFeed] = Utf8.encode text) :
    ∃ chars, text.toList = chars ++ ['\n'] ∧ before = chars.flatMap String.utf8EncodeChar ∧
      '\n' ∉ chars := by
  unfold Utf8.encode at h
  rcases List.eq_nil_or_concat text.toList with hnil | ⟨chars, c, hchars⟩
  · rw [hnil] at h
    simp at h
  · rw [List.concat_eq_append] at hchars
    rw [hchars, List.flatMap_append, List.flatMap_singleton] at h
    obtain ⟨front, b, hb⟩ :=
      (List.eq_nil_or_concat (String.utf8EncodeChar c)).resolve_left String.utf8EncodeChar_ne_nil
    rw [List.concat_eq_append] at hb
    rw [hb, ← List.append_assoc] at h
    obtain ⟨hbefore, hlast⟩ := List.append_inj' h rfl
    have hc : c = '\n' := by
      apply lineFeed_mem_encodeChar
      rw [hb, ← hlast]
      simp
    subst hc
    have hfront : front = [] := by
      rw [encodeChar_lineFeed] at hb
      simpa using congrArg List.length hb
    rw [hfront, List.append_nil] at hbefore
    exact ⟨chars, hchars, hbefore, fun hm => hno (hbefore ▸ lineFeed_mem_encode.mpr hm)⟩

/-- A line without its line feed, and without one carriage return directly before that. -/
inductive Unended : (line version : String) → Prop
  | whole {version : String} (unended : '\n' ∉ version.toList) : Unended version version
  | fed {version : String} (plain : version.toList.getLast? ≠ some '\r') :
    Unended (version ++ "\n") version
  | returned {version : String} : Unended (version ++ "\r\n") version

theorem unended_dropLineEnd {content : Bytes} {line : String}
    (h : FirstLineOf content (Utf8.encode line)) :
    Unended line (String.ofList (dropLineEnd line.toList)) := by
  generalize hline : Utf8.encode line = bytes at h
  cases h with
  | whole hno =>
    have hmem : '\n' ∉ line.toList := by
      intro hm
      exact hno (hline ▸ lineFeed_mem_encode.mpr hm)
    rw [dropLineEnd_of_not_mem hmem, String.ofList_toList]
    exact .whole hmem
  | ended hno =>
    obtain ⟨chars, hchars, -, -⟩ := toList_of_line hno hline.symm
    rw [hchars]
    rcases dropLineEnd_concat chars with ⟨hdrop, hlast⟩ | hdrop
    · have hform : line = String.ofList chars ++ "\n" := by
        apply String.toList_inj.mp
        rw [hchars, String.toList_append, String.toList_ofList]
        rfl
      rw [hdrop, hform]
      exact .fed (by rwa [String.toList_ofList])
    · have hform : line = String.ofList (dropLineEnd (chars ++ ['\n'])) ++ "\r\n" := by
        apply String.toList_inj.mp
        rw [String.toList_append, String.toList_ofList, hchars]
        conv_lhs => rw [hdrop, List.append_assoc]
        rfl
      conv_lhs => rw [hform]
      exact .returned

theorem versionOfLine_invalid {path : Path} {line : Bytes} (h : ∀ text, line ≠ Utf8.encode text) :
    versionOfLine path line = .error (.versionFileUnreadable path .invalidText) := by
  have hdecode : Utf8.decode? line = none := by
    cases hd : Utf8.decode? line with
    | none => rfl
    | some text => exact absurd (Utf8.decode?_sound hd) (h text)
  unfold versionOfLine
  rw [hdecode]

theorem versionOfLine_encode (path : Path) (text : String) :
    versionOfLine path (Utf8.encode text) =
      if String.ofList (dropLineEnd text.toList) = "" then .error (.versionFileEmpty path)
      else .ok (String.ofList (dropLineEnd text.toList)) := by
  unfold versionOfLine
  rw [Utf8.decode?_encode]
  dsimp only
  cases dropLineEnd text.toList with
  | nil => rfl
  | cons c rest => simp

theorem isFirstLine_of_version {path : Path} {content : Bytes} {version : String}
    (h : versionOfLine path (firstLine content) = .ok version) : IsFirstLine content version := by
  unfold versionOfLine at h
  split at h
  · simp at h
  · rename_i text htext
    have hline := Utf8.decode?_sound htext
    split at h
    · simp at h
    · rename_i hne
      obtain rfl := Except.ok.inj h
      by_cases hlf : lineFeed ∈ content
      · obtain ⟨before, rest, rfl, hno⟩ := exists_first_lineFeed hlf
        rw [firstLine_of_split hno] at hline
        obtain ⟨chars, hchars, rfl, hmem⟩ := toList_of_line hno hline
        rw [hchars] at hne ⊢
        rcases dropLineEnd_concat chars with ⟨hdrop, hlast⟩ | hdrop
        · rw [hdrop] at hne ⊢
          refine ⟨by simpa using hne, by simpa using hmem, Or.inr (Or.inr ⟨rest, ?_, ?_⟩)⟩
          · simp [Utf8.encode, encodeChar_lineFeed]
          · simpa using hlast
        · generalize dropLineEnd (chars ++ ['\n']) = version at hne hdrop ⊢
          subst hdrop
          refine ⟨by simpa using hne, ?_, Or.inr (Or.inl ⟨rest, ?_⟩)⟩
          · intro hm
            exact hmem (List.mem_append_left _ (by simpa using hm))
          · simp [Utf8.encode, encodeChar_lineFeed]
      · rw [firstLine_of_not_mem hlf] at hline
        have hmem : '\n' ∉ text.toList := fun hm => hlf (hline ▸ lineFeed_mem_encode.mpr hm)
        rw [dropLineEnd_of_not_mem hmem] at hne ⊢
        rw [String.ofList_toList]
        exact ⟨fun hempty => hne (by simp [hempty]), hmem, Or.inl hline⟩

/-! ## Contents with a given first line -/

theorem firstLine_fed {line : String} (rest : Bytes) (h : '\n' ∉ line.toList) :
    firstLine (Utf8.encode (line ++ "\n") ++ rest) = Utf8.encode (line ++ "\n") := by
  have hencode : Utf8.encode (line ++ "\n") = Utf8.encode line ++ [lineFeed] := by
    simp [Utf8.encode, encodeChar_lineFeed]
  have hno : lineFeed ∉ Utf8.encode line := fun hm => h (lineFeed_mem_encode.mp hm)
  rw [hencode, List.append_assoc, List.singleton_append, firstLine_of_split hno]

theorem dropLineEnd_fed {chars : List Char} :
    dropLineEnd (chars ++ ['\n']) = chars ↔ chars.getLast? ≠ some '\r' := by
  rcases dropLineEnd_concat chars with ⟨hdrop, hlast⟩ | hdrop
  · exact iff_of_true hdrop hlast
  · refine iff_of_false (fun hsame => ?_) (fun hlast => hlast ?_)
    · rw [hsame] at hdrop
      have hlength := congrArg List.length hdrop
      rw [List.length_append, List.length_singleton] at hlength
      omega
    · rw [hdrop, List.getLast?_concat]

theorem dropLineEnd_returned (chars : List Char) : dropLineEnd (chars ++ ['\r', '\n']) = chars := by
  unfold dropLineEnd
  simp

section Given

variable {path : Path} {version : String}

theorem version_returned (rest : Bytes) (hne : version ≠ "") (hno : '\n' ∉ version.toList) :
    versionOfLine path (firstLine (Utf8.encode (version ++ "\r\n") ++ rest)) = .ok version := by
  have hform : version ++ "\r\n" = version ++ "\r" ++ "\n" := by
    rw [String.append_assoc]
    rfl
  have hdrop : dropLineEnd (version ++ "\r" ++ "\n").toList = version.toList := by
    rw [← hform, String.toList_append]
    exact dropLineEnd_returned _
  have hno' : '\n' ∉ (version ++ "\r").toList := by
    rw [String.toList_append, List.mem_append]
    rintro (h | h)
    · exact hno h
    · simp at h
  rw [hform, firstLine_fed rest hno', versionOfLine_encode, hdrop, String.ofList_toList,
    if_neg hne]

theorem version_whole (hne : version ≠ "") (hno : '\n' ∉ version.toList) :
    versionOfLine path (firstLine (Utf8.encode version)) = .ok version := by
  have hbytes : lineFeed ∉ Utf8.encode version := fun h => hno (lineFeed_mem_encode.mp h)
  rw [firstLine_of_not_mem hbytes, versionOfLine_encode, dropLineEnd_of_not_mem hno,
    String.ofList_toList, if_neg hne]

theorem version_fed (rest : Bytes) (hne : version ≠ "") (hno : '\n' ∉ version.toList) :
    versionOfLine path (firstLine (Utf8.encode (version ++ "\n") ++ rest)) = .ok version ↔
      version.toList.getLast? ≠ some '\r' := by
  have htoList : (version ++ "\n").toList = version.toList ++ ['\n'] := by
    rw [String.toList_append]
    rfl
  rw [firstLine_fed rest hno, versionOfLine_encode, htoList, ← dropLineEnd_fed]
  constructor
  · intro h
    split_ifs at h with hempty
    exact String.ofList_injective ((Except.ok.inj h).trans (String.ofList_toList).symm)
  · intro h
    rw [h, String.ofList_toList, if_neg hne]

end Given

/-! ## Reading the first line -/

theorem readFirstLine_only (file : Handle) (fuel offset : Nat) (read : Bytes) :
    (readFirstLine file fuel offset read).Only (Action.Reads file) := by
  induction fuel generalizing offset read with
  | zero => exact Program.only_pure _
  | succ fuel ih =>
    refine Program.only_bind (only_file rfl) (fun reply => ?_)
    match reply with
    | .error e => exact Program.only_pure _
    | .ok [] => exact Program.only_pure _
    | .ok (b :: rest) =>
      dsimp only
      split
      · exact Program.only_pure _
      · exact ih _ _

theorem runs_readFirstLine {file : Handle} {content line : Bytes} {fuel : Nat} (offset : Nat)
    (hh : w.machine.files.Holds file content) (hfuel : content.length - offset < fuel)
    (hno : lineFeed ∉ content.take offset)
    (h : w.Runs runner may (readFirstLine file fuel offset (content.take offset)) (.ok line) w') :
    line = firstLine content := by
  -- What was read so far is the first `offset` bytes, and no line ends in them.
  induction fuel generalizing w offset with
  | zero => omega
  | succ fuel ih =>
    rw [readFirstLine, runs_bind] at h
    obtain ⟨reply, w₁, hread, h⟩ := h
    rw [runs_file] at hread
    obtain ⟨m, hm, rfl⟩ := hread
    obtain ⟨rfl, hpiece⟩ := performs_read hh hm
    match reply with
    | .error e =>
      obtain ⟨hr, -⟩ := h
      simp at hr
    | .ok [] =>
      obtain ⟨hr, -⟩ := h
      -- An empty read is the end of the file, so all of it is one line.
      have hrest : content.drop offset = [] := by
        by_contra hne
        have hlen := congrArg List.length (hpiece [] rfl)
        have hpos := List.length_pos_iff.mpr hne
        simp only [List.length_nil, List.length_take, pieceSize] at hlen
        omega
      have hall : content.take offset = content := by
        have hsplit := List.take_append_drop offset content
        rwa [hrest, List.append_nil] at hsplit
      rw [hall] at hr hno
      rw [firstLine_of_not_mem hno]
      exact Except.ok.inj hr
    | .ok (b :: rest) =>
      have hb := hpiece (b :: rest) rfl
      have hlen : (b :: rest).length ≤ content.length - offset := by
        rw [hb, List.length_take, List.length_drop]
        exact Nat.min_le_right _ _
      have hpos : 0 < (b :: rest).length := Nat.succ_pos _
      have hnext : content.take (offset + (b :: rest).length) = content.take offset ++ b :: rest := by
        rw [List.take_add]
        congr 1
        exact List.prefix_iff_eq_take.mp (hb ▸ List.take_prefix _ _) |>.symm
      dsimp only at h
      rw [← hnext] at h
      split at h
      · rename_i hlf
        obtain ⟨hr, -⟩ := h
        rw [Except.ok.inj hr]
        conv_rhs => rw [← List.take_append_drop (offset + (b :: rest).length) content]
        rw [firstLine_append]
        rw [hnext]
        exact List.mem_append_right _ (by simpa using hlf)
      · rename_i hlf
        refine ih _ hh (by omega) ?_ h
        rw [hnext, List.mem_append, not_or]
        exact ⟨hno, by simpa using hlf⟩

theorem versionOfLine_nil (path : Path) :
    versionOfLine path [] = .error (.versionFileEmpty path) := by
  have hdecode : Utf8.decode? [] = some "" := by decide
  unfold versionOfLine
  rw [hdecode]
  rfl

/-- A node that nothing can be read from. -/
def Mute (node : Node) : Prop :=
  (∃ mode, node = .directory mode) ∨ (∃ target, node = .link target) ∨ ∃ name, node = .tool name

theorem runs_readFirstLine_mute {file : Handle} {node : Node} {line : Bytes} {fuel offset : Nat}
    (hopen : w.machine.files.openNode? file = some node) (hn : Mute node)
    (h : w.Runs runner may (readFirstLine file (fuel + 1) offset []) (.ok line) w') : line = [] := by
  rw [readFirstLine, runs_bind] at h
  obtain ⟨reply, w₁, hread, h⟩ := h
  rw [runs_file] at hread
  obtain ⟨m, hm, rfl⟩ := hread
  have hnone : ∀ piece, reply = .ok piece → piece = [] := by
    rintro piece rfl
    obtain ⟨hr, -⟩ := Machine.performs_ok hm (by simp [FileAction.failure])
    simp only [Machine.reply, FileSystem.read, hopen] at hr
    obtain ⟨mode, rfl⟩ | ⟨target, rfl⟩ | ⟨name, rfl⟩ := hn
    · simp at hr
    · exact Except.ok.inj hr
    · exact Except.ok.inj hr
  rcases reply with e | _ | ⟨b, rest⟩
  · obtain ⟨hr, -⟩ := h
    simp at hr
  · obtain ⟨hr, -⟩ := h
    exact Except.ok.inj hr
  · simpa using hnone _ rfl

/-! ## The version of a release -/

theorem resolveVersion_only (path : Path) : (resolveVersion path).run.Only Action.Asks := by
  refine Stage.only_bind (Stage.only_orElse (only_file trivial)) (fun file => ?_)
  refine Stage.only_bind (Stage.only_orElse (only_file trivial)) (fun status => ?_)
  have hline := (readFirstLine_only file (status.size + 1) 0 []).mono fun _ h => h.asks
  refine Stage.only_bind (Stage.only_orElse hline) (fun line => ?_)
  refine Stage.only_bind (Stage.only_ofExcept _) (fun version => ?_)
  exact Stage.only_bind (Stage.only_note trivial) (fun _ => Stage.only_pure _)

/-- A version that was resolved is the first line of what the path leads to, if that is a file.
Otherwise it is a device. -/
theorem runs_resolveVersion {path : Path} {version : String}
    (h : w.Runs runner may (resolveVersion path).run (.ok version) w') :
    ∃ place node, w.machine.files.findNode w.machine.directory path = .ok (place, node) ∧
      ¬ Mute node ∧ ∀ data, node = .file data → IsFirstLine data.content version := by
  rw [resolveVersion, runs_stage_bind_ok] at h
  obtain ⟨file, w₁, hopen, h⟩ := h
  rw [runs_orElse_ok, runs_attempt, runs_file] at hopen
  obtain ⟨m, hm, rfl⟩ := hopen
  obtain ⟨rfl, place, node, hfind, rfl⟩ := performs_openRead hm
  refine ⟨place, node, hfind, ?_⟩
  have hfile : w.machine.files.openNode? ⟨place, serialOf node⟩ = some node := by
    unfold openNode?
    rw [node?_of_findNode hfind]
    simp
  dsimp only at h
  rw [runs_stage_bind_ok] at h
  obtain ⟨status, w₂, hstatus, h⟩ := h
  rw [runs_orElse_ok, runs_attempt, runs_file] at hstatus
  obtain ⟨m, hm', rfl⟩ := hstatus
  obtain rfl := Machine.performs_asks hm' trivial
  rw [runs_stage_bind_ok] at h
  obtain ⟨line, w₃, hline, h⟩ := h
  rw [runs_orElse_ok, runs_attempt] at hline
  rw [runs_stage_bind_ok] at h
  obtain ⟨version', w₄, hversion, h⟩ := h
  rw [runs_ofExcept] at hversion
  rw [runs_note_bind] at h
  obtain ⟨hr, -⟩ := h
  obtain rfl := Except.ok.inj hr
  constructor
  · intro hmute
    have hempty := runs_readFirstLine_mute hfile hmute hline
    rw [hempty, versionOfLine_nil] at hversion
    simp at hversion
  · rintro data rfl
    obtain ⟨-, rfl⟩ := performs_describeOpen hfile hm'
    have hfirst := runs_readFirstLine 0 (holds_of_find hfind) (Nat.lt_succ_self _) (by simp)
      hline
    rw [hfirst] at hversion
    exact isFirstLine_of_version hversion.1.symm

end Slipway
