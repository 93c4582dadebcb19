import Mathlib.Tactic.Common
import Slipway.Text.Utf8

/-!
# Reading UTF-8

Bytes that read as characters and nothing else are the bytes of these characters, so no other bytes
show as the same text. The bytes of a text read as that text.
-/

namespace Slipway.Utf8

/-! ## The form of a character -/

theorem encodeChar_ofNat {n : Nat} (h : n.isValidChar) :
    String.utf8EncodeChar (Char.ofNat n) =
      if n ≤ 0x7f then [UInt8.ofNat n]
      else if n ≤ 0x7ff then [UInt8.ofNat (n / 64 % 0x20 + 0xc0), UInt8.ofNat (n % 0x40 + 0x80)]
      else if n ≤ 0xffff then
        [UInt8.ofNat (n / 4096 % 0x10 + 0xe0), UInt8.ofNat (n / 64 % 0x40 + 0x80),
          UInt8.ofNat (n % 0x40 + 0x80)]
      else
        [UInt8.ofNat (n / 262144 % 0x08 + 0xf0), UInt8.ofNat (n / 4096 % 0x40 + 0x80),
          UInt8.ofNat (n / 64 % 0x40 + 0x80), UInt8.ofNat (n % 0x40 + 0x80)] := by
  have hn : (Char.ofNat n).val.toNat = n := by
    rw [Char.ofNat, dif_pos h]
    rfl
  unfold String.utf8EncodeChar
  rw [hn]

theorem ofNat_eq {n : Nat} {b : UInt8} (h : n = b.toNat) : UInt8.ofNat n = b := by
  rw [h, UInt8.ofNat_toNat]

theorem encode_one {a : UInt8} (ha : a.toNat < 0x80) :
    String.utf8EncodeChar (Char.ofNat a.toNat) = [a] := by
  rw [encodeChar_ofNat (Or.inl (by omega)), if_pos (by omega), ofNat_eq rfl]

theorem encode_two {n : Nat} {a b : UInt8} (hb : 0x80 ≤ b.toNat) (hb' : b.toNat ≤ 0xBF)
    (ha : 0xC2 ≤ a.toNat) (ha' : a.toNat < 0xE0)
    (hn : n = (a.toNat - 0xC0) * 64 + (b.toNat - 0x80)) :
    String.utf8EncodeChar (Char.ofNat n) = [a, b] := by
  rw [encodeChar_ofNat (Or.inl (by omega)), if_neg (by omega), if_pos (by omega),
    ofNat_eq (b := a) (by omega), ofNat_eq (b := b) (by omega)]

theorem encode_three {n : Nat} {a b c : UInt8} (hb : 0x80 ≤ b.toNat) (hb' : b.toNat ≤ 0xBF)
    (hc : 0x80 ≤ c.toNat) (hc' : c.toNat ≤ 0xBF) (ha : 0xE0 ≤ a.toNat) (ha' : a.toNat < 0xF0)
    (hlow : a.toNat = 0xE0 → 0xA0 ≤ b.toNat) (hhigh : a.toNat = 0xED → b.toNat ≤ 0x9F)
    (hn : n = ((a.toNat - 0xE0) * 64 + (b.toNat - 0x80)) * 64 + (c.toNat - 0x80)) :
    String.utf8EncodeChar (Char.ofNat n) = [a, b, c] := by
  have hvalid : n.isValidChar := by
    unfold Nat.isValidChar
    omega
  rw [encodeChar_ofNat hvalid, if_neg (by omega), if_neg (by omega), if_pos (by omega),
    ofNat_eq (b := a) (by omega), ofNat_eq (b := b) (by omega), ofNat_eq (b := c) (by omega)]

theorem encode_four {n : Nat} {a b c d : UInt8} (hb : 0x80 ≤ b.toNat) (hb' : b.toNat ≤ 0xBF)
    (hc : 0x80 ≤ c.toNat) (hc' : c.toNat ≤ 0xBF) (hd : 0x80 ≤ d.toNat) (hd' : d.toNat ≤ 0xBF)
    (ha : 0xF0 ≤ a.toNat) (ha' : a.toNat ≤ 0xF4)
    (hlow : a.toNat = 0xF0 → 0x90 ≤ b.toNat) (hhigh : a.toNat = 0xF4 → b.toNat ≤ 0x8F)
    (hn : n = (((a.toNat - 0xF0) * 64 + (b.toNat - 0x80)) * 64 + (c.toNat - 0x80)) * 64
      + (d.toNat - 0x80)) :
    String.utf8EncodeChar (Char.ofNat n) = [a, b, c, d] := by
  have hvalid : n.isValidChar := by
    unfold Nat.isValidChar
    omega
  rw [encodeChar_ofNat hvalid, if_neg (by omega), if_neg (by omega), if_neg (by omega),
    ofNat_eq (b := a) (by omega), ofNat_eq (b := b) (by omega), ofNat_eq (b := c) (by omega),
    ofNat_eq (b := d) (by omega)]

/-! ## The reader's states -/

/-- The bytes read are the beginning of the character that they make with any bytes that may
follow. -/
def Begins : (missing value : Nat) → (low high : UInt8) → (read : Bytes) → Prop
  | 0, _, _, _, _ => False
  | 1, value, low, high, read => ∀ b, low ≤ b → b ≤ high →
    String.utf8EncodeChar (Char.ofNat (value * 64 + (b.toNat - 0x80))) = read ++ [b]
  | missing + 2, value, low, high, read => ∀ b, low ≤ b → b ≤ high →
    Begins (missing + 1) (value * 64 + (b.toNat - 0x80)) 0x80 0xBF (read ++ [b])

theorem lead_whole {a : UInt8} {c : Char} (h : lead a = .whole c) :
    String.utf8EncodeChar c = [a] := by
  unfold lead at h
  split_ifs at h with ha
  obtain rfl := Lead.whole.inj h
  exact encode_one (by simpa using UInt8.lt_iff_toNat_lt.mp ha)

theorem begins_two {a : UInt8} (ha : 0xC2 ≤ a.toNat) (ha' : a.toNat < 0xE0) :
    Begins 1 (a.toNat - 0xC0) 0x80 0xBF [a] := by
  intro b hb hb'
  exact encode_two (UInt8.le_iff_toNat_le.mp hb) (UInt8.le_iff_toNat_le.mp hb') ha ha' rfl

theorem begins_three {a low high : UInt8} {value : Nat} (ha : 0xE0 ≤ a.toNat)
    (ha' : a.toNat < 0xF0) (hv : value = a.toNat - 0xE0) (hl : 0x80 ≤ low.toNat)
    (hh : high.toNat ≤ 0xBF) (hlow : a.toNat = 0xE0 → 0xA0 ≤ low.toNat)
    (hhigh : a.toNat = 0xED → high.toNat ≤ 0x9F) : Begins 2 value low high [a] := by
  intro b hb hb' c hc hc'
  rw [UInt8.le_iff_toNat_le] at hb hb'
  exact encode_three (by omega) (by omega) (UInt8.le_iff_toNat_le.mp hc)
    (UInt8.le_iff_toNat_le.mp hc') ha ha' (by omega) (by omega) (by rw [hv])

theorem begins_four {a low high : UInt8} {value : Nat} (ha : 0xF0 ≤ a.toNat)
    (ha' : a.toNat ≤ 0xF4) (hv : value = a.toNat - 0xF0) (hl : 0x80 ≤ low.toNat)
    (hh : high.toNat ≤ 0xBF) (hlow : a.toNat = 0xF0 → 0x90 ≤ low.toNat)
    (hhigh : a.toNat = 0xF4 → high.toNat ≤ 0x8F) : Begins 3 value low high [a] := by
  intro b hb hb' c hc hc' d hd hd'
  rw [UInt8.le_iff_toNat_le] at hb hb'
  exact encode_four (by omega) (by omega) (UInt8.le_iff_toNat_le.mp hc)
    (UInt8.le_iff_toNat_le.mp hc') (UInt8.le_iff_toNat_le.mp hd) (UInt8.le_iff_toNat_le.mp hd')
    ha ha' (by omega) (by omega) (by rw [hv])

theorem lead_opens {a : UInt8} {u : Unfinished} (h : lead a = .opens u) :
    Begins u.missing u.value u.low u.high [a] := by
  unfold lead at h
  split_ifs at h with h1 h2 h3 h4 h5 h6 h7 h8 h9 <;>
    simp only [UInt8.lt_iff_toNat_lt, ← UInt8.toNat_inj, UInt8.reduceToNat] at * <;>
    obtain rfl := Lead.opens.inj h
  · exact begins_two (by omega) (by omega)
  · change Begins 2 0 0xA0 0xBF [a]
    exact begins_three (by omega) (by omega) (by omega) (by decide) (by decide)
      (fun _ => by decide) (by omega)
  · change Begins 2 0x0D 0x80 0x9F [a]
    exact begins_three (by omega) (by omega) (by omega) (by decide) (by decide) (by omega)
      (fun _ => by decide)
  · change Begins 2 (a.toNat - 0xE0) 0x80 0xBF [a]
    exact begins_three (by omega) (by omega) rfl (by decide) (by decide) (by omega) (by omega)
  · change Begins 3 0 0x90 0xBF [a]
    exact begins_four (by omega) (by omega) (by omega) (by decide) (by decide)
      (fun _ => by decide) (by omega)
  · change Begins 3 (a.toNat - 0xF0) 0x80 0xBF [a]
    exact begins_four (by omega) (by omega) rfl (by decide) (by decide) (by omega) (by omega)
  · change Begins 3 4 0x80 0x8F [a]
    exact begins_four (by omega) (by omega) (by omega) (by decide) (by decide) (by omega)
      (fun _ => by decide)

/-! ## Runs of the reader -/

/-- What a reader that has only found characters so far has read. -/
def Reads (r : Reading) (bytes : Bytes) : Prop :=
  ∀ chars : List Char, r.found.reverse = chars.map some →
    match r.unfinished with
    | none => bytes = chars.flatMap String.utf8EncodeChar
    | some u => ∃ read, bytes = chars.flatMap String.utf8EncodeChar ++ read ∧
      Begins u.missing u.value u.low u.high read

theorem map_some_concat {found : List (Option Char)} {o : Option Char} {chars : List Char}
    (h : (o :: found).reverse = chars.map some) :
    ∃ before c, o = some c ∧ chars = before ++ [c] ∧ found.reverse = before.map some := by
  rw [List.reverse_cons] at h
  obtain ⟨before, last, rfl, hbefore, hlast⟩ := List.map_eq_append_iff.mp h.symm
  obtain ⟨c, rest, rfl, hc, hrest⟩ := List.map_eq_cons_iff.mp hlast
  rw [List.map_eq_nil_iff.mp hrest] at *
  exact ⟨before, c, hc.symm, rfl, hbefore.symm⟩

theorem reads_start {found : List (Option Char)} {bytes : Bytes} {b : UInt8}
    (h : Reads { found } bytes) : Reads (.start found b) (bytes ++ [b]) := by
  intro chars hchars
  unfold Reading.start at hchars ⊢
  cases hlead : lead b with
  | whole c =>
    rw [hlead] at hchars
    obtain ⟨before, c', hc, rfl, hbefore⟩ := map_some_concat hchars
    obtain rfl := Option.some.inj hc
    have hread : bytes = before.flatMap String.utf8EncodeChar := h before hbefore
    simp [hread, lead_whole hlead]
  | opens u =>
    rw [hlead] at hchars
    have hread : bytes = chars.flatMap String.utf8EncodeChar := h chars hchars
    exact ⟨[b], by rw [hread], lead_opens hlead⟩
  | stray =>
    rw [hlead] at hchars
    obtain ⟨before, c, hc, -⟩ := map_some_concat hchars
    simp at hc

theorem reads_take {r : Reading} {bytes : Bytes} {b : UInt8} (h : Reads r bytes) :
    Reads (r.take b) (bytes ++ [b]) := by
  obtain ⟨unfinished, found⟩ := r
  unfold Reading.take
  cases unfinished with
  | none => exact reads_start h
  | some u =>
    obtain ⟨missing, value, low, high⟩ := u
    dsimp only
    split
    · rename_i hrange
      split
      · rename_i hmissing
        intro chars hchars
        obtain ⟨before, c, hc, rfl, hbefore⟩ := map_some_concat hchars
        obtain ⟨read, hread, hbegins⟩ := h before hbefore
        obtain rfl := Option.some.inj hc
        match missing, hmissing, hbegins with
        | 1, _, hbegins =>
          have hform := hbegins b hrange.1 hrange.2
          simp [hread, hform]
      · rename_i hmissing
        intro chars hchars
        obtain ⟨read, hread, hbegins⟩ := h chars hchars
        refine ⟨read ++ [b], by rw [hread, List.append_assoc], ?_⟩
        match missing, hmissing, hbegins with
        | missing + 2, _, hbegins => exact hbegins b hrange.1 hrange.2
    · -- The open character was cut off, so not everything found is a character.
      refine reads_start (fun chars hchars => ?_)
      obtain ⟨before, c, hc, -⟩ := map_some_concat hchars
      simp at hc

theorem reads_foldl {r : Reading} {bytes : Bytes} (more : Bytes) (h : Reads r bytes) :
    Reads (more.foldl Reading.take r) (bytes ++ more) := by
  induction more generalizing r bytes with
  | nil => simpa using h
  | cons b rest ih =>
    have hnext := ih (reads_take (b := b) h)
    rwa [List.append_assoc, List.singleton_append] at hnext

theorem pieces_sound {bytes : Bytes} {chars : List Char} (h : pieces bytes = chars.map some) :
    bytes = chars.flatMap String.utf8EncodeChar := by
  have hstart : Reads {} [] := by
    intro chars hchars
    have hnil : chars = [] := by simpa using hchars.symm
    simp [hnil]
  have hreads := reads_foldl bytes hstart
  rw [List.nil_append] at hreads
  unfold pieces Reading.pieces at h
  cases hu : (bytes.foldl Reading.take {}).unfinished with
  | none =>
    rw [hu] at h
    have hread := hreads chars h
    rwa [hu] at hread
  | some u =>
    rw [hu] at h
    obtain ⟨before, c, hc, -⟩ := map_some_concat h
    simp at hc

/-! ## Texts -/

theorem decode?_sound {bytes : Bytes} {text : String} (h : decode? bytes = some text) :
    bytes = encode text := by
  unfold decode? at h
  dsimp only at h
  split_ifs at h with hall
  have hmap : ∀ found : List (Option Char), found.all Option.isSome = true →
      found = (found.filterMap id).map some := by
    intro found
    induction found with
    | nil => simp
    | cons o rest ih =>
      intro hall
      rw [List.all_cons, Bool.and_eq_true] at hall
      obtain ⟨c, rfl⟩ := Option.isSome_iff_exists.mp hall.1
      rw [List.filterMap_cons, id, List.map_cons, ← ih hall.2]
  rw [encode, ← Option.some.inj h, String.toList_ofList]
  exact pieces_sound (hmap _ hall)

/-- Lenient reading shows a text without replacement characters for no bytes but its own. -/
theorem decodeLossy_sound {bytes : Bytes} {text : String} (h : decodeLossy bytes = text)
    (hr : replacement ∉ text.toList) : bytes = encode text := by
  have hlist : (pieces bytes).map (·.getD replacement) = text.toList := by
    rw [← h, decodeLossy, String.toList_ofList]
  have hmap : ∀ (found : List (Option Char)) (chars : List Char),
      found.map (·.getD replacement) = chars → replacement ∉ chars → found = chars.map some := by
    intro found
    induction found with
    | nil => rintro chars rfl -; rfl
    | cons o rest ih =>
      rintro chars rfl hno
      rw [List.map_cons, List.mem_cons, not_or] at hno
      cases o with
      | none => exact absurd rfl hno.1
      | some c => rw [List.map_cons, List.map_cons, ← ih _ rfl hno.2]; rfl
  exact pieces_sound (hmap _ _ hlist hr)

/-! ## Reading what was written -/

theorem toNat_ofNat_of_lt {n : Nat} (h : n < 256) : (UInt8.ofNat n).toNat = n := by
  rw [UInt8.toNat_ofNat']
  exact Nat.mod_eq_of_lt h

theorem lead_one {a : UInt8} (ha : a.toNat < 0x80) : lead a = .whole (Char.ofNat a.toNat) := by
  unfold lead
  rw [if_pos (UInt8.lt_iff_toNat_lt.mpr ha)]

theorem lead_two {a : UInt8} (ha : 0xC2 ≤ a.toNat) (ha' : a.toNat < 0xE0) :
    lead a = .opens { missing := 1, value := a.toNat - 0xC0 } := by
  unfold lead
  simp only [UInt8.lt_iff_toNat_lt, UInt8.reduceToNat]
  rw [if_neg (by omega), if_neg (by omega), if_pos ha']

/-- The range after a byte that opens three lets every second byte of a character in. -/
theorem lead_three {a b : UInt8} (ha : 0xE0 ≤ a.toNat) (ha' : a.toNat < 0xF0)
    (hb : 0x80 ≤ b.toNat) (hb' : b.toNat ≤ 0xBF) (hlow : a.toNat = 0xE0 → 0xA0 ≤ b.toNat)
    (hhigh : a.toNat = 0xED → b.toNat ≤ 0x9F) :
    ∃ low high, lead a = .opens ⟨2, a.toNat - 0xE0, low, high⟩ ∧ low ≤ b ∧ b ≤ high := by
  unfold lead
  simp only [UInt8.lt_iff_toNat_lt, ← UInt8.toNat_inj, UInt8.le_iff_toNat_le, UInt8.reduceToNat]
  rw [if_neg (by omega), if_neg (by omega), if_neg (by omega)]
  by_cases hE0 : a.toNat = 0xE0
  · rw [if_pos hE0, hE0]
    exact ⟨0xA0, 0xBF, rfl, hlow hE0, hb'⟩
  by_cases hED : a.toNat = 0xED
  · rw [if_neg hE0, if_pos hED, hED]
    exact ⟨0x80, 0x9F, rfl, hb, hhigh hED⟩
  · rw [if_neg hE0, if_neg hED, if_pos ha']
    exact ⟨0x80, 0xBF, rfl, hb, hb'⟩

theorem lead_four {a b : UInt8} (ha : 0xF0 ≤ a.toNat) (ha' : a.toNat ≤ 0xF4)
    (hb : 0x80 ≤ b.toNat) (hb' : b.toNat ≤ 0xBF) (hlow : a.toNat = 0xF0 → 0x90 ≤ b.toNat)
    (hhigh : a.toNat = 0xF4 → b.toNat ≤ 0x8F) :
    ∃ low high, lead a = .opens ⟨3, a.toNat - 0xF0, low, high⟩ ∧ low ≤ b ∧ b ≤ high := by
  unfold lead
  simp only [UInt8.lt_iff_toNat_lt, ← UInt8.toNat_inj, UInt8.le_iff_toNat_le, UInt8.reduceToNat]
  rw [if_neg (by omega), if_neg (by omega), if_neg (by omega), if_neg (by omega),
    if_neg (by omega), if_neg (by omega)]
  by_cases hF0 : a.toNat = 0xF0
  · rw [if_pos hF0, hF0]
    exact ⟨0x90, 0xBF, rfl, hlow hF0, hb'⟩
  by_cases hF4 : a.toNat = 0xF4
  · rw [if_neg hF0, if_neg (by omega), if_pos hF4, hF4]
    exact ⟨0x80, 0x8F, rfl, hb, hhigh hF4⟩
  · rw [if_neg hF0, if_pos (by omega)]
    exact ⟨0x80, 0xBF, rfl, hb, hb'⟩

section Taking

variable {found : List (Option Char)} {value missing : Nat} {low high b : UInt8}

theorem take_opens {u : Unfinished} (h : lead b = .opens u) :
    Reading.take { found } b = { unfinished := some u, found } := by
  unfold Reading.take Reading.start
  simp only [h]

theorem take_next (hlow : low ≤ b) (hhigh : b ≤ high) :
    Reading.take ⟨some ⟨missing + 2, value, low, high⟩, found⟩ b
      = ⟨some ⟨missing + 1, value * 64 + (b.toNat - 0x80), 0x80, 0xBF⟩, found⟩ := by
  unfold Reading.take
  dsimp only
  rw [if_pos ⟨hlow, hhigh⟩, if_neg (by omega)]
  rfl

theorem take_last (hlow : low ≤ b) (hhigh : b ≤ high) :
    Reading.take ⟨some ⟨1, value, low, high⟩, found⟩ b
      = { found := some (Char.ofNat (value * 64 + (b.toNat - 0x80))) :: found } := by
  unfold Reading.take
  dsimp only
  rw [if_pos ⟨hlow, hhigh⟩, if_pos (Nat.le_refl 1)]

end Taking

theorem foldl_take_encodeChar (c : Char) (found : List (Option Char)) :
    (String.utf8EncodeChar c).foldl Reading.take { found } = { found := some c :: found } := by
  obtain ⟨n, hn⟩ : ∃ n, c.toNat = n := ⟨_, rfl⟩
  have hvalid : n.isValidChar := hn ▸ c.valid
  have hc : c = Char.ofNat n := by rw [← hn, Char.ofNat_toNat]
  have hcases : n < 0xD800 ∨ 0xDFFF < n ∧ n < 0x110000 := hvalid
  have htail : ∀ k, (UInt8.ofNat (k % 0x40 + 0x80)).toNat = k % 0x40 + 0x80 :=
    fun k => toNat_ofNat_of_lt (by omega)
  have hin : ∀ k, (0x80 : UInt8) ≤ UInt8.ofNat (k % 0x40 + 0x80) ∧
      UInt8.ofNat (k % 0x40 + 0x80) ≤ 0xBF := by
    intro k
    simp only [UInt8.le_iff_toNat_le, htail, UInt8.reduceToNat]
    omega
  rw [hc, encodeChar_ofNat hvalid]
  -- One case for each length of an encoding, from one byte to four.
  split_ifs with h1 h2 h3
  · have ha : (UInt8.ofNat n).toNat = n := toNat_ofNat_of_lt (by omega)
    rw [List.foldl_cons, List.foldl_nil, Reading.take, Reading.start, lead_one (by omega), ha]
  · have ha : (UInt8.ofNat (n / 64 % 0x20 + 0xc0)).toNat = n / 64 + 0xC0 := by
      rw [toNat_ofNat_of_lt (by omega)]
      omega
    have hvalue : (n / 64 + 0xC0 - 0xC0) * 64 + (n % 0x40 + 0x80 - 0x80) = n := by omega
    simp only [List.foldl_cons, List.foldl_nil]
    rw [take_opens (lead_two (by omega) (by omega)), take_last (hin _).1 (hin _).2, ha, htail,
      hvalue]
  · have ha : (UInt8.ofNat (n / 4096 % 0x10 + 0xe0)).toNat = n / 4096 + 0xE0 := by
      rw [toNat_ofNat_of_lt (by omega)]
      omega
    have hvalue : ((n / 4096 + 0xE0 - 0xE0) * 64 + (n / 64 % 0x40 + 0x80 - 0x80)) * 64
        + (n % 0x40 + 0x80 - 0x80) = n := by omega
    obtain ⟨low, high, hlead, hlow, hhigh⟩ :=
      lead_three (a := UInt8.ofNat (n / 4096 % 0x10 + 0xe0)) (b := UInt8.ofNat (n / 64 % 0x40 + 0x80))
        (by omega) (by omega) (by rw [htail]; omega) (by rw [htail]; omega)
        (by rw [htail]; omega) (by rw [htail]; omega)
    simp only [List.foldl_cons, List.foldl_nil]
    rw [take_opens hlead, take_next hlow hhigh, take_last (hin _).1 (hin _).2, ha, htail, htail,
      hvalue]
  · have ha : (UInt8.ofNat (n / 262144 % 0x08 + 0xf0)).toNat = n / 262144 + 0xF0 := by
      rw [toNat_ofNat_of_lt (by omega)]
      omega
    have hvalue : (((n / 262144 + 0xF0 - 0xF0) * 64 + (n / 4096 % 0x40 + 0x80 - 0x80)) * 64
        + (n / 64 % 0x40 + 0x80 - 0x80)) * 64 + (n % 0x40 + 0x80 - 0x80) = n := by omega
    obtain ⟨low, high, hlead, hlow, hhigh⟩ :=
      lead_four (a := UInt8.ofNat (n / 262144 % 0x08 + 0xf0))
        (b := UInt8.ofNat (n / 4096 % 0x40 + 0x80))
        (by omega) (by omega) (by rw [htail]; omega) (by rw [htail]; omega)
        (by rw [htail]; omega) (by rw [htail]; omega)
    simp only [List.foldl_cons, List.foldl_nil]
    rw [take_opens hlead, take_next hlow hhigh, take_next (hin _).1 (hin _).2,
      take_last (hin _).1 (hin _).2, ha, htail, htail, htail, hvalue]

theorem foldl_take_encode (chars : List Char) (found : List (Option Char)) :
    (chars.flatMap String.utf8EncodeChar).foldl Reading.take { found }
      = { found := (chars.map some).reverse ++ found } := by
  induction chars generalizing found with
  | nil => rfl
  | cons c rest ih =>
    rw [List.flatMap_cons, List.foldl_append, foldl_take_encodeChar, ih, List.map_cons,
      List.reverse_cons, List.append_assoc, List.singleton_append]

theorem decode?_encode (text : String) : decode? (encode text) = some text := by
  have hpieces : pieces (encode text) = text.toList.map some := by
    unfold pieces encode
    rw [foldl_take_encode, List.append_nil]
    exact List.reverse_reverse _
  simp [decode?, hpieces]

end Slipway.Utf8
