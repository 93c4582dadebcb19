import Mathlib.Algebra.Order.Ring.Rat
import Mathlib.Order.Bounds.Defs
import Mathlib.Order.Nat
import Mathlib.Tactic.Linarith
import Mathlib.Tactic.NormNum
import Slipway.Console.Summary

/-!
# Sizes and durations as they are shown

Both are read back from their texts, as a reader of the summary would. A size is shown in the largest
unit that it fills, off by half a tenth of the unit at most. A duration is cut off at the step of its
range. What is larger never shows as less, also where the unit or the range changes.
-/

namespace Slipway

variable {m n d k : Nat}

/-! ## Rounding

A rounded quotient is a nearest whole number, and of two nearest ones the even one. One condition
says how far it gets; that rounding keeps order, is off by half a divisor at most and changes no
multiple of the divisor follows from it. A number that is cut to 53 significant bits keeps its
order too: below 2^53 it stays as it is, and below 2^64 it moves by 1024 at most.
-/

/-- A rounded quotient reaches a whole number from half a divisor below it on, and from there
itself if the number is even. -/
theorem le_roundQuotient_iff (hd : 0 < d) :
    k ≤ roundQuotient n d ↔ 2 * (k * d) < 2 * n + d ∨ 2 * (k * d) = 2 * n + d ∧ k % 2 = 0 := by
  have hn := Nat.div_add_mod' n d
  have hr := Nat.mod_lt n hd
  have hround : roundQuotient n d = if 2 * (n % d) < d then n / d
      else if d < 2 * (n % d) then n / d + 1
      else if n / d % 2 = 0 then n / d else n / d + 1 := rfl
  generalize n / d = q at hn hround
  generalize n % d = r at hn hr hround
  rcases Nat.lt_trichotomy k (q + 1) with hk | rfl | hk
  · have hmul : k * d ≤ q * d := Nat.mul_le_mul_right d (Nat.le_of_lt_succ hk)
    split_ifs at hround <;> omega
  · have hmul : (q + 1) * d = q * d + d := Nat.add_one_mul q d
    split_ifs at hround <;> omega
  · have hmul : (q + 2) * d ≤ k * d := Nat.mul_le_mul_right d hk
    rw [Nat.add_mul] at hmul
    split_ifs at hround <;> omega

theorem roundQuotient_mono (hd : 0 < d) (h : m ≤ n) : roundQuotient m d ≤ roundQuotient n d := by
  have hm := (le_roundQuotient_iff hd).mp (Nat.le_refl (roundQuotient m d))
  exact (le_roundQuotient_iff hd).mpr (by omega)

theorem roundQuotient_mul_le (n : Nat) (hd : 0 < d) :
    2 * (roundQuotient n d * d) ≤ 2 * n + d := by
  have h := (le_roundQuotient_iff hd).mp (Nat.le_refl (roundQuotient n d))
  omega

theorem le_roundQuotient_mul (n : Nat) (hd : 0 < d) :
    2 * n ≤ 2 * (roundQuotient n d * d) + d := by
  have habove : ¬ roundQuotient n d + 1 ≤ roundQuotient n d := Nat.not_succ_le_self _
  rw [le_roundQuotient_iff hd, Nat.add_one_mul (roundQuotient n d) d] at habove
  omega

theorem le_roundQuotient (hd : 0 < d) (h : k * d ≤ n) : k ≤ roundQuotient n d :=
  (le_roundQuotient_iff hd).mpr (by omega)

theorem roundQuotient_le (hd : 0 < d) (h : n ≤ k * d) : roundQuotient n d ≤ k := by
  by_contra hk
  have hnext : k + 1 ≤ roundQuotient n d := Nat.lt_of_not_le hk
  rw [le_roundQuotient_iff hd, Nat.add_one_mul k d] at hnext
  omega

theorem roundQuotient_one (n : Nat) : roundQuotient n 1 = n :=
  Nat.le_antisymm (roundQuotient_le Nat.one_pos (Nat.mul_one n).ge)
    (le_roundQuotient Nat.one_pos (Nat.mul_one n).le)

theorem roundToPrecision_eq (n : Nat) : roundToPrecision n =
    roundQuotient n (2 ^ (n.log2 + 1 - 53)) * 2 ^ (n.log2 + 1 - 53) := rfl

theorem roundToPrecision_of_lt (h : n < 2 ^ 53) : roundToPrecision n = n := by
  have hlog : n.log2 + 1 - 53 = 0 := by
    rcases Nat.eq_zero_or_pos n with rfl | hn
    · rfl
    · have := (Nat.log2_lt hn.ne').mpr h
      omega
  rw [roundToPrecision_eq, hlog, Nat.pow_zero, roundQuotient_one, Nat.mul_one]

/-- Cut to its significant bits, a number of 64 bits moves by 1024 at most. -/
theorem roundToPrecision_near (h : n < 2 ^ 64) :
    roundToPrecision n ≤ n + 2 ^ 10 ∧ n ≤ roundToPrecision n + 2 ^ 10 := by
  have hlog : n.log2 + 1 - 53 ≤ 11 := by
    rcases Nat.eq_zero_or_pos n with rfl | hn
    · decide
    · have := (Nat.log2_lt hn.ne').mpr h
      omega
  have hstep : 2 ^ (n.log2 + 1 - 53) ≤ 2 ^ 11 := Nat.pow_le_pow_right Nat.two_pos hlog
  have hupper := roundQuotient_mul_le n (Nat.two_pow_pos (n.log2 + 1 - 53))
  have hlower := le_roundQuotient_mul n (Nat.two_pow_pos (n.log2 + 1 - 53))
  rw [roundToPrecision_eq]
  omega

/-- A power of two is a multiple of the steps below it, so no number is moved across one. -/
theorem roundToPrecision_le_two_pow (n : Nat) : roundToPrecision n ≤ 2 ^ (n.log2 + 1) := by
  have hsplit : 2 ^ (n.log2 + 1) =
      2 ^ (n.log2 + 1 - (n.log2 + 1 - 53)) * 2 ^ (n.log2 + 1 - 53) := by
    rw [← Nat.pow_add]
    congr 1
    omega
  have hround := roundQuotient_le (Nat.two_pow_pos (n.log2 + 1 - 53))
    (Nat.lt_log2_self.le.trans hsplit.le)
  calc roundToPrecision n = roundQuotient n _ * 2 ^ (n.log2 + 1 - 53) := roundToPrecision_eq n
    _ ≤ 2 ^ (n.log2 + 1 - (n.log2 + 1 - 53)) * 2 ^ (n.log2 + 1 - 53) :=
      Nat.mul_le_mul_right _ hround
    _ = 2 ^ (n.log2 + 1) := hsplit.symm

theorem two_pow_le_roundToPrecision (h : n ≠ 0) : 2 ^ n.log2 ≤ roundToPrecision n := by
  have hsplit : 2 ^ n.log2 = 2 ^ (n.log2 - (n.log2 + 1 - 53)) * 2 ^ (n.log2 + 1 - 53) := by
    rw [← Nat.pow_add]
    congr 1
    omega
  have hround := le_roundQuotient (Nat.two_pow_pos (n.log2 + 1 - 53))
    (hsplit.ge.trans (Nat.log2_self_le h))
  calc 2 ^ n.log2 = 2 ^ (n.log2 - (n.log2 + 1 - 53)) * 2 ^ (n.log2 + 1 - 53) := hsplit
    _ ≤ roundQuotient n _ * 2 ^ (n.log2 + 1 - 53) := Nat.mul_le_mul_right _ hround
    _ = roundToPrecision n := (roundToPrecision_eq n).symm

theorem roundToPrecision_mono (h : m ≤ n) : roundToPrecision m ≤ roundToPrecision n := by
  rcases Nat.eq_zero_or_pos m with rfl | hm
  · exact Nat.zero_le _
  have hn : n ≠ 0 := by omega
  have hlog : m.log2 ≤ n.log2 := (Nat.le_log2 hn).mpr ((Nat.log2_self_le hm.ne').trans h)
  rcases hlog.eq_or_lt with hsame | hless
  · -- With as many bits, both are cut to the same steps.
    rw [roundToPrecision_eq, roundToPrecision_eq, hsame]
    exact Nat.mul_le_mul_right _ (roundQuotient_mono (Nat.two_pow_pos _) h)
  · calc roundToPrecision m ≤ 2 ^ (m.log2 + 1) := roundToPrecision_le_two_pow m
      _ ≤ 2 ^ n.log2 := Nat.pow_le_pow_right Nat.two_pos hless
      _ ≤ roundToPrecision n := two_pow_le_roundToPrecision hn

/-! ## Numbers -/

/-- The number at the start of a text, and what follows its digits. -/
def spanNatural? (text : List Char) : Option (Nat × List Char) :=
  (readNatural? 10 (text.takeWhile Char.isDigit)).map fun n => (n, text.dropWhile Char.isDigit)

theorem isDigit_range {c : Char} (h : c.isDigit = true) :
    '0' ≤ c ∧ c.toNat < '0'.toNat + 10 := by
  rw [Char.isDigit, Bool.and_eq_true, decide_eq_true_eq, decide_eq_true_eq] at h
  have hhigh : c.toNat ≤ 57 := UInt32.le_iff_toNat_le.mp h.2
  exact ⟨h.1, Nat.lt_succ_of_le hhigh⟩

theorem foldl_isDigit {digits : List Char} (start : Nat) (h : ∀ c ∈ digits, c.isDigit = true) :
    digits.foldl (fun n c => n.bind fun n =>
      if '0' ≤ c ∧ c.toNat < '0'.toNat + 10 then some (n * 10 + (c.toNat - '0'.toNat)) else none)
      (some start) = some (Nat.ofDigitChars 10 digits start) := by
  induction digits generalizing start with
  | nil => rfl
  | cons c rest ih =>
    obtain ⟨hc, hrest⟩ := List.forall_mem_cons.mp h
    rw [List.foldl_cons, Option.bind_some, if_pos (isDigit_range hc), ih _ hrest,
      Nat.ofDigitChars_cons, Nat.mul_comm]

theorem readNatural?_of_isDigit {digits : List Char} (hne : digits ≠ [])
    (h : ∀ c ∈ digits, c.isDigit = true) :
    readNatural? 10 digits = some (Nat.ofDigitChars 10 digits 0) := by
  rw [readNatural?, if_neg (by simpa using hne)]
  exact foldl_isDigit 0 h

theorem readNatural?_toDigits (n : Nat) : readNatural? 10 (Nat.toDigits 10 n) = some n := by
  rw [readNatural?_of_isDigit Nat.toDigits_ne_nil
    fun _ => Nat.isDigit_of_mem_toDigits (by decide) (by decide), Nat.ofDigitChars_ten_toDigits]

theorem readNatural?_digitChar (h : d < 10) : readNatural? 10 [Nat.digitChar d] = some d := by
  rw [← Nat.toDigits_of_lt_base h]
  exact readNatural?_toDigits d

theorem spanNatural?_toDigits (n : Nat) {c : Char} (rest : List Char) (hc : c.isDigit = false) :
    spanNatural? (Nat.toDigits 10 n ++ c :: rest) = some (n, c :: rest) := by
  have hdigits : ∀ c ∈ Nat.toDigits 10 n, c.isDigit = true :=
    fun _ => Nat.isDigit_of_mem_toDigits (by decide) (by decide)
  rw [spanNatural?, List.takeWhile_append_of_pos hdigits, List.dropWhile_append_of_pos hdigits,
    List.takeWhile_cons_of_neg (by simp [hc]), List.dropWhile_cons_of_neg (by simp [hc]),
    List.append_nil, readNatural?_toDigits, Option.map_some]

/-! ## Sizes -/

/-- A size as it is shown: some tenths of a unit of so many bytes. -/
structure ShownSize where
  tenths : Nat
  unit : Nat
  deriving DecidableEq

namespace ShownSize

/-- The number in front of the unit. -/
def number (s : ShownSize) : ℚ := s.tenths / 10

/-- The bytes that the number stands for. -/
def bytes (s : ShownSize) : ℚ := s.number * s.unit

def unitOfLetter? : Char → Option Nat
  | 'K' => some (2 ^ 10)
  | 'M' => some (2 ^ 20)
  | 'G' => some (2 ^ 30)
  | _ => none

/-- Whole bytes, or a number with one decimal and a unit. -/
def read? (text : String) : Option ShownSize := do
  let (whole, rest) ← spanNatural? text.toList
  match rest with
  | [' ', 'B'] => some ⟨10 * whole, 1⟩
  | ['.', digit, ' ', letter, 'B'] =>
    let tenth ← readNatural? 10 [digit]
    let unit ← unitOfLetter? letter
    some ⟨10 * whole + tenth, unit⟩
  | _ => none

theorem read?_wholeBytes (n : Nat) : read? (toString n ++ " B") = some ⟨10 * n, 1⟩ := by
  have htext : (toString n ++ " B").toList = Nat.toDigits 10 n ++ [' ', 'B'] := by
    simp
  rw [read?, htext, spanNatural?_toDigits _ _ (by decide)]
  rfl

theorem toList_formatTenths (t : Nat) :
    (formatTenths t).toList = Nat.toDigits 10 (t / 10) ++ ['.', Nat.digitChar (t % 10)] := by
  have hdigit : Nat.toDigits 10 (t % 10) = [Nat.digitChar (t % 10)] :=
    Nat.toDigits_of_lt_base (Nat.mod_lt t (by decide))
  simp [formatTenths, hdigit]

theorem read?_formatTenths (t : Nat) {letter : Char} {unit : Nat} {name : String}
    (hname : name.toList = [letter, 'B']) (hunit : unitOfLetter? letter = some unit) :
    read? (formatTenths t ++ " " ++ name) = some ⟨t, unit⟩ := by
  have htext : (formatTenths t ++ " " ++ name).toList =
      Nat.toDigits 10 (t / 10) ++ '.' :: [Nat.digitChar (t % 10), ' ', letter, 'B'] := by
    simp [toList_formatTenths, hname]
  have hdigit := readNatural?_digitChar (Nat.mod_lt t (show 10 > 0 by decide))
  simp [read?, htext, spanNatural?_toDigits _ _ (show ('.').isDigit = false by decide), hdigit,
    hunit, Nat.div_add_mod]

theorem formatSize_eq (n : Nat) : formatSize n =
    if 2 ^ 30 ≤ n then formatTenths (sizeTenths n (2 ^ 30)) ++ " " ++ "GB"
    else if 2 ^ 20 ≤ n then formatTenths (sizeTenths n (2 ^ 20)) ++ " " ++ "MB"
    else if 2 ^ 10 ≤ n then formatTenths (sizeTenths n (2 ^ 10)) ++ " " ++ "KB"
    else toString n ++ " B" := by
  have hunits : sizeUnits = [(2 ^ 30, "GB"), (2 ^ 20, "MB"), (2 ^ 10, "KB")] := rfl
  rw [formatSize, hunits]
  split_ifs with hgiga hmega hkilo
  · simp only [List.find?, hgiga, decide_true]
  · simp only [List.find?, hgiga, hmega, decide_true, decide_false]
  · simp only [List.find?, hgiga, hmega, hkilo, decide_true, decide_false]
  · simp only [List.find?, hgiga, hmega, hkilo, decide_false]

/-- The largest unit that a size fills. -/
def unitFor (n : Nat) : Nat :=
  if 2 ^ 30 ≤ n then 2 ^ 30 else if 2 ^ 20 ≤ n then 2 ^ 20 else if 2 ^ 10 ≤ n then 2 ^ 10 else 1

theorem unitFor_pos (n : Nat) : 0 < unitFor n := by
  unfold unitFor
  split_ifs <;> decide

theorem unitFor_le (n : Nat) : unitFor n ≤ max n 1 := by
  unfold unitFor
  split_ifs <;> omega

theorem unitFor_greatest (n : Nat) :
    IsGreatest {unit | unit ∈ [1, 2 ^ 10, 2 ^ 20, 2 ^ 30] ∧ unit ≤ max n 1} (unitFor n) := by
  refine ⟨⟨?_, unitFor_le n⟩, ?_⟩
  · unfold unitFor
    split_ifs <;> decide
  · rintro unit ⟨hunit, hle⟩
    simp only [List.mem_cons, List.not_mem_nil, or_false] at hunit
    unfold unitFor
    split_ifs <;> omega

/-- From one size to a larger one, the unit stays or grows to a multiple that the larger size fills
and the smaller one does not. -/
theorem unitFor_steps (h : m ≤ n) : unitFor m = unitFor n ∨
    m < unitFor n ∧ unitFor n ≤ n ∧ unitFor n < 2 ^ 53 ∧ unitFor m ∣ unitFor n := by
  unfold unitFor
  split_ifs <;> omega

/-- What is shown for a size. -/
def ofBytes (n : Nat) : ShownSize := ⟨sizeTenths n (unitFor n), unitFor n⟩

theorem sizeTenths_one (h : n < 2 ^ 53) : sizeTenths n 1 = 10 * n := by
  rw [sizeTenths, roundQuotient_one, roundToPrecision_of_lt h]

theorem read?_formatSize (n : Nat) : read? (formatSize n) = some (ofBytes n) := by
  rw [formatSize_eq, ofBytes, unitFor]
  split_ifs with hgiga hmega hkilo
  · exact read?_formatTenths _ rfl rfl
  · exact read?_formatTenths _ rfl rfl
  · exact read?_formatTenths _ rfl rfl
  · rw [read?_wholeBytes, sizeTenths_one (by omega)]

/-! ## How far off -/

theorem abs_bytes_sub_le {s : ShownSize} {off : Nat}
    (hupper : 2 * (s.tenths * s.unit) ≤ 20 * (n + off) + s.unit)
    (hlower : 20 * n ≤ 2 * (s.tenths * s.unit) + s.unit + 20 * off) :
    |s.bytes - n| ≤ s.unit / 20 + off := by
  have hupper' : (2 * (s.tenths * s.unit) : ℚ) ≤ 20 * (n + off) + s.unit := by exact_mod_cast hupper
  have hlower' : (20 * n : ℚ) ≤ 2 * (s.tenths * s.unit) + s.unit + 20 * off := by
    exact_mod_cast hlower
  have hbytes : s.bytes = s.tenths * s.unit / 10 := by
    rw [bytes, number, div_mul_eq_mul_div]
  rw [hbytes, abs_le]
  constructor <;> linarith

theorem abs_bytes_ofBytes_sub_le {off : Nat} (hupper : roundToPrecision n ≤ n + off)
    (hlower : n ≤ roundToPrecision n + off) :
    |(ofBytes n).bytes - n| ≤ (ofBytes n).unit / 20 + off := by
  have habove := roundQuotient_mul_le (10 * roundToPrecision n) (unitFor_pos n)
  have hbelow := le_roundQuotient_mul (10 * roundToPrecision n) (unitFor_pos n)
  refine abs_bytes_sub_le ?_ ?_
  · change 2 * (sizeTenths n (unitFor n) * unitFor n) ≤ 20 * (n + off) + unitFor n
    unfold sizeTenths
    omega
  · change 20 * n ≤ 2 * (sizeTenths n (unitFor n) * unitFor n) + unitFor n + 20 * off
    unfold sizeTenths
    omega

theorem abs_bytes_of_lt (h : n < 2 ^ 53) :
    |(ofBytes n).bytes - n| ≤ (ofBytes n).unit / 20 := by
  have hexact := roundToPrecision_of_lt h
  have hnear : |(ofBytes n).bytes - n| ≤ (ofBytes n).unit / 20 + (0 : Nat) :=
    abs_bytes_ofBytes_sub_le hexact.le hexact.ge
  simpa using hnear

theorem number_of_unit_one (h : (ofBytes n).unit = 1) : (ofBytes n).number = n := by
  have hn : n < 2 ^ 10 := by
    by_contra hn
    have hunit : unitFor n = 1 := h
    unfold unitFor at hunit
    split_ifs at hunit <;> omega
  have htenths : (ofBytes n).tenths = 10 * n := by
    change sizeTenths n (unitFor n) = 10 * n
    have hunit : unitFor n = 1 := h
    rw [hunit, sizeTenths_one (by omega)]
  rw [number, htenths, Nat.cast_mul]
  exact mul_div_cancel_left₀ _ (by norm_num)

/-! ## Order -/

theorem sizeTenths_mono (unit : Nat) (hunit : 0 < unit) (h : m ≤ n) :
    sizeTenths m unit ≤ sizeTenths n unit :=
  roundQuotient_mono hunit (Nat.mul_le_mul_left 10 (roundToPrecision_mono h))

variable {unit : Nat}

theorem le_sizeTenths (hunit : 0 < unit) (hexact : k * unit < 2 ^ 53) (h : k * unit ≤ n) :
    10 * k ≤ sizeTenths n unit := by
  have hround := roundToPrecision_mono h
  rw [roundToPrecision_of_lt hexact] at hround
  refine le_roundQuotient hunit ?_
  rw [Nat.mul_assoc]
  exact Nat.mul_le_mul_left 10 hround

theorem sizeTenths_le (hunit : 0 < unit) (hexact : k * unit < 2 ^ 53) (h : n ≤ k * unit) :
    sizeTenths n unit ≤ 10 * k := by
  have hround := roundToPrecision_mono h
  rw [roundToPrecision_of_lt hexact] at hround
  refine roundQuotient_le hunit ?_
  rw [Nat.mul_assoc]
  exact Nat.mul_le_mul_left 10 hround

theorem ofBytes_mono (h : m ≤ n) :
    (ofBytes m).tenths * (ofBytes m).unit ≤ (ofBytes n).tenths * (ofBytes n).unit := by
  change sizeTenths m (unitFor m) * unitFor m ≤ sizeTenths n (unitFor n) * unitFor n
  rcases unitFor_steps h with hsame | ⟨hm, hn, hsmall, k, hk⟩
  · rw [hsame]
    exact Nat.mul_le_mul_right _ (sizeTenths_mono _ (unitFor_pos n) h)
  · -- The larger unit is between the two sizes, and shown as itself in either unit.
    have hk' : k * unitFor m = unitFor n := by rw [hk, Nat.mul_comm]
    have hm' := sizeTenths_le (n := m) (unitFor_pos m) (hk' ▸ hsmall) (hk' ▸ hm.le)
    have hn' := le_sizeTenths (n := n) (k := 1) (unitFor_pos n) (by omega) (by omega)
    calc sizeTenths m (unitFor m) * unitFor m ≤ 10 * k * unitFor m := Nat.mul_le_mul_right _ hm'
      _ = 10 * unitFor n := by rw [Nat.mul_assoc, hk']
      _ ≤ sizeTenths n (unitFor n) * unitFor n := Nat.mul_le_mul_right _ hn'

theorem bytes_ofBytes_mono (h : m ≤ n) : (ofBytes m).bytes ≤ (ofBytes n).bytes := by
  have hcast : ((ofBytes m).tenths * (ofBytes m).unit : ℚ) ≤
      (ofBytes n).tenths * (ofBytes n).unit := by exact_mod_cast ofBytes_mono h
  rw [bytes, bytes, number, number]
  linarith

/-! ## Whether the unit fits -/

/-- The last tenth below 1024 units is left half a tenth before them. -/
theorem sizeTenths_lt_iff (hunit : 0 < unit) (hn : n < 2 ^ 53) :
    sizeTenths n unit < 10 * 1024 ↔ 20 * n < 20479 * unit := by
  rw [← Nat.not_le, sizeTenths, roundToPrecision_of_lt hn, le_roundQuotient_iff hunit]
  omega

end ShownSize

open ShownSize

/-- Sizes are shown accurately and in order. A size is shown in the largest unit that it fills, whole
bytes as they are, and otherwise as the number of tenths that is nearest to it as far as its 53
leading bits tell. A larger size never shows as less, also where the unit changes. -/
theorem sizes_shown_accurately (h : n < 2 ^ 64) :
    ∃ shown, ShownSize.read? (formatSize n) = some shown ∧
      IsGreatest {unit | unit ∈ [1, 2 ^ 10, 2 ^ 20, 2 ^ 30] ∧ unit ≤ max n 1} shown.unit ∧
      (shown.unit = 1 → shown.number = n) ∧
      (n < 2 ^ 53 → |shown.bytes - n| ≤ shown.unit / 20) ∧
      |shown.bytes - n| ≤ shown.unit / 20 + 2 ^ 10 ∧
      ∀ m ≤ n, ∃ smaller, ShownSize.read? (formatSize m) = some smaller ∧
        smaller.bytes ≤ shown.bytes := by
  obtain ⟨hupper, hlower⟩ := roundToPrecision_near h
  refine ⟨ofBytes n, read?_formatSize n, unitFor_greatest n, number_of_unit_one, abs_bytes_of_lt,
    ?_, fun m hm => ⟨ofBytes m, read?_formatSize m, bytes_ofBytes_mono hm⟩⟩
  exact_mod_cast abs_bytes_ofBytes_sub_le hupper hlower

/-- The largest size is shown as one byte more than it is. -/
theorem largest_size_shown : 2 ^ 64 - 1 < 2 ^ 64 ∧
    formatSize (2 ^ 64 - 1) = "17179869184.0 GB" ∧
    ∃ shown, ShownSize.read? (formatSize (2 ^ 64 - 1)) = some shown ∧
      |shown.bytes - (2 ^ 64 - 1 : Nat)| ≤ shown.unit / 20 + 2 ^ 10 := by
  obtain ⟨shown, hread, -, -, -, hnear, -⟩ :=
    sizes_shown_accurately (n := 2 ^ 64 - 1) (by decide)
  exact ⟨by decide, by decide, shown, hread, hnear⟩

/-- From a kilobyte to a gigabyte the number that is shown is at least 1.0 and at most 1024.0. It
stays below 1024.0 just when the size is less than 1023.95 units: the unit is chosen before the
number is rounded, so the sizes from there to the next unit are not carried into it. -/
theorem size_number_fits_iff (hlow : 2 ^ 10 ≤ n) (hhigh : n < 2 ^ 30) :
    ∃ shown, ShownSize.read? (formatSize n) = some shown ∧
      IsGreatest {unit | unit ∈ [1, 2 ^ 10, 2 ^ 20, 2 ^ 30] ∧ unit ≤ max n 1} shown.unit ∧
      1 ≤ shown.number ∧ shown.number ≤ 1024 ∧
      (shown.number < 1024 ↔ (n / shown.unit : ℚ) < 20479 / 20) := by
  have hunit := unitFor_pos n
  have hunit' : (0 : ℚ) < unitFor n := by exact_mod_cast hunit
  have hfills : 1 * unitFor n ≤ n ∧ n ≤ 1024 * unitFor n := by
    unfold unitFor
    split_ifs <;> omega
  have hn : n < 2 ^ 53 := by omega
  have hexact : 1024 * unitFor n < 2 ^ 53 := by
    have hle := unitFor_le n
    omega
  have hbelow := le_sizeTenths hunit (by omega) hfills.1
  have habove := sizeTenths_le hunit hexact hfills.2
  refine ⟨ofBytes n, read?_formatSize n, unitFor_greatest n, ?_, ?_, ?_⟩
  · rw [number, le_div_iff₀ (by norm_num)]
    exact_mod_cast hbelow
  · rw [number, div_le_iff₀ (by norm_num)]
    exact_mod_cast habove
  · have hfits := sizeTenths_lt_iff hunit hn
    rw [Nat.mul_comm 10] at hfits
    change (sizeTenths n (unitFor n) / 10 : ℚ) < 1024 ↔ (n : ℚ) / unitFor n < 20479 / 20
    rw [div_lt_iff₀ (by norm_num), div_lt_div_iff₀ hunit' (by norm_num), mul_comm (n : ℚ)]
    exact_mod_cast hfits

theorem last_kilobytes_below_switch : 2 ^ 10 ≤ 1048524 ∧ 1048524 < 2 ^ 30 ∧
    formatSize 1048524 = "1023.9 KB" ∧
    ∃ shown, ShownSize.read? (formatSize 1048524) = some shown ∧
      1 ≤ shown.number ∧ shown.number < 1024 := by
  obtain ⟨shown, hread, -, hlow, -, hfits⟩ :=
    size_number_fits_iff (n := 1048524) (by decide) (by decide)
  have hshown : ShownSize.read? (formatSize 1048524) = some ⟨10239, 1024⟩ := by decide
  obtain rfl := Option.some.inj (hread.symm.trans hshown)
  exact ⟨by decide, by decide, by decide, _, hread, hlow, hfits.mpr (by norm_num)⟩

theorem sizes_shown_as_1024 :
    formatSize (2 ^ 20 - 1) = "1024.0 KB" ∧ formatSize (2 ^ 30 - 1) = "1024.0 MB" ∧
      ¬ ∀ n, 2 ^ 10 ≤ n → n < 2 ^ 30 → ∃ shown, ShownSize.read? (formatSize n) = some shown ∧
        1 ≤ shown.number ∧ shown.number < 1024 := by
  refine ⟨by decide, by decide, fun hfits => ?_⟩
  obtain ⟨shown, hread, -, hlt⟩ := hfits (2 ^ 20 - 1) (by decide) (by decide)
  have hshown : ShownSize.read? (formatSize (2 ^ 20 - 1)) = some ⟨10240, 1024⟩ := by decide
  obtain rfl := Option.some.inj (hread.symm.trans hshown)
  norm_num [number] at hlt

/-! ## Durations -/

/-- A duration of whole seconds and less than one more in nanoseconds. -/
structure Duration where
  seconds : Nat
  nanos : Nat
  nanos_lt : nanos < nanosPerSecond

namespace Duration

def nanoseconds (d : Duration) : Nat := d.seconds * nanosPerSecond + d.nanos

/-- The nanoseconds that a text shows as milliseconds, as seconds with two decimals, or as minutes
and less than sixty seconds. -/
def read? (text : String) : Option Nat := do
  let (first, rest) ← spanNatural? text.toList
  match rest with
  | ['m', 's'] => some (first * 10 ^ 6)
  | ['.', tens, ones, 's'] =>
    let hundredths ← readNatural? 10 [tens, ones]
    some (first * 10 ^ 9 + hundredths * 10 ^ 7)
  | 'm' :: ' ' :: more =>
    let (second, rest) ← spanNatural? more
    if rest = ['s'] ∧ second < 60 then some ((60 * first + second) * 10 ^ 9) else none
  | _ => none

theorem toList_twoDigits (h : n < 100) :
    (twoDigits n).toList = [Nat.digitChar (n / 10), Nat.digitChar (n % 10)] := by
  unfold twoDigits
  split_ifs with hsmall
  · have hdigit : Nat.toDigits 10 n = [Nat.digitChar n] := Nat.toDigits_of_lt_base hsmall
    simp [hdigit, Nat.div_eq_of_lt hsmall, Nat.mod_eq_of_lt hsmall]
  · have htens : n / 10 < 10 := by omega
    have hdigits : Nat.toDigits 10 n = [Nat.digitChar (n / 10), Nat.digitChar (n % 10)] := by
      rw [Nat.toDigits_of_base_le (by decide) (by omega), Nat.toDigits_of_lt_base htens]
      rfl
    simp [hdigits]

theorem readNatural?_twoDigits (h : n < 100) :
    readNatural? 10 [Nat.digitChar (n / 10), Nat.digitChar (n % 10)] = some n := by
  have htens : n / 10 < 10 := by omega
  have hones : n % 10 < 10 := Nat.mod_lt n (by decide)
  have hvalue : Nat.ofDigitChars 10 [Nat.digitChar (n / 10), Nat.digitChar (n % 10)] 0 = n := by
    rw [Nat.ofDigitChars_cons_digitChar_of_lt_ten htens,
      Nat.ofDigitChars_cons_digitChar_of_lt_ten hones, Nat.ofDigitChars_nil, Nat.mul_zero,
      Nat.zero_add, Nat.div_add_mod]
  rw [readNatural?_of_isDigit (by simp), hvalue]
  simp [Nat.isDigit_digitChar, htens, hones]

theorem read?_millis (n : Nat) : read? (toString n ++ "ms") = some (n * 10 ^ 6) := by
  have htext : (toString n ++ "ms").toList = Nat.toDigits 10 n ++ ['m', 's'] := by
    simp
  rw [read?, htext, spanNatural?_toDigits _ _ (by decide)]
  rfl

theorem read?_hundredths (seconds : Nat) (h : n < 100) :
    read? (toString seconds ++ "." ++ twoDigits n ++ "s") =
      some (seconds * 10 ^ 9 + n * 10 ^ 7) := by
  have htext : (toString seconds ++ "." ++ twoDigits n ++ "s").toList =
      Nat.toDigits 10 seconds ++ ['.', Nat.digitChar (n / 10), Nat.digitChar (n % 10), 's'] := by
    simp [toList_twoDigits h]
  rw [read?, htext, spanNatural?_toDigits _ _ (by decide)]
  simp [readNatural?_twoDigits h]

theorem read?_minutes (minutes : Nat) (h : n < 60) :
    read? (toString minutes ++ "m " ++ toString n ++ "s") =
      some ((60 * minutes + n) * 10 ^ 9) := by
  have htext : (toString minutes ++ "m " ++ toString n ++ "s").toList =
      Nat.toDigits 10 minutes ++ 'm' :: ' ' :: (Nat.toDigits 10 n ++ ['s']) := by
    simp
  have hsecond := spanNatural?_toDigits n [] (show ('s').isDigit = false by decide)
  rw [read?, htext, spanNatural?_toDigits _ _ (by decide)]
  simp [hsecond, h]

/-- What durations of a range are cut off at. -/
def step (d : Duration) : Nat :=
  if d.nanoseconds < 10 ^ 9 then 10 ^ 6 else if d.nanoseconds < 60 * 10 ^ 9 then 10 ^ 7 else 10 ^ 9

def cutOff (d : Duration) : Nat := d.nanoseconds / d.step * d.step

theorem read?_formatDuration (d : Duration) :
    read? (formatDuration d.seconds d.nanos) = some d.cutOff := by
  have hnanos : d.nanos < 10 ^ 9 := d.nanos_lt
  have hlength : d.nanoseconds = d.seconds * 10 ^ 9 + d.nanos := rfl
  simp only [formatDuration]
  split_ifs with hminutes hseconds
  · have hstep : d.step = 10 ^ 9 := by
      rw [step, if_neg (by omega), if_neg (by omega)]
    rw [read?_minutes _ (Nat.mod_lt _ (by decide)), cutOff, hstep, Option.some_inj]
    omega
  · have hstep : d.step = 10 ^ 7 := by
      rw [step, if_neg (by omega), if_pos (by omega)]
    rw [read?_hundredths _ (by omega), cutOff, hstep, Option.some_inj]
    omega
  · have hstep : d.step = 10 ^ 6 := by
      rw [step, if_pos (by omega)]
    rw [read?_millis, cutOff, hstep, Option.some_inj]
    omega

variable {d shorter : Duration}

theorem step_pos (d : Duration) : 0 < d.step := by
  unfold step
  split_ifs <;> decide

theorem cutOff_le (d : Duration) : d.cutOff ≤ d.nanoseconds := Nat.div_mul_le_self _ _

theorem lt_cutOff_add_step (d : Duration) : d.nanoseconds < d.cutOff + d.step := by
  have hrest := Nat.mod_lt d.nanoseconds d.step_pos
  have hsplit := Nat.div_add_mod' d.nanoseconds d.step
  unfold cutOff
  omega

/-- From one duration to a longer one, the step stays or the longer one passes a multiple of its
step that the shorter one does not reach. -/
theorem step_steps (h : shorter.nanoseconds ≤ d.nanoseconds) : shorter.step = d.step ∨
    ∃ k, shorter.nanoseconds < k * d.step ∧ k * d.step ≤ d.nanoseconds := by
  unfold step
  split_ifs with hmilli hmilli' hhundredth' hhundredth hmilli' hhundredth' hmilli' hhundredth'
  · exact .inl rfl
  · exact .inr ⟨100, by omega⟩
  · exact .inr ⟨1, by omega⟩
  · omega
  · exact .inl rfl
  · exact .inr ⟨60, by omega⟩
  · omega
  · omega
  · exact .inl rfl

theorem cutOff_mono (h : shorter.nanoseconds ≤ d.nanoseconds) : shorter.cutOff ≤ d.cutOff := by
  rcases step_steps h with hsame | ⟨k, hm, hn⟩
  · rw [cutOff, cutOff, hsame]
    exact Nat.mul_le_mul_right _ (Nat.div_le_div_right h)
  · calc shorter.cutOff ≤ shorter.nanoseconds := shorter.cutOff_le
      _ ≤ k * d.step := hm.le
      _ ≤ d.cutOff := Nat.mul_le_mul_right _ ((Nat.le_div_iff_mul_le d.step_pos).mpr hn)

end Duration

/-- Durations are shown cut off, and in order. A text shows its duration rounded down to a
millisecond below a second, to a hundredth of a second below a minute, and from there to a second. -/
theorem durations_cut_off (d : Duration) :
    ∃ shown, Duration.read? (formatDuration d.seconds d.nanos) = some shown ∧
      shown = d.nanoseconds / d.step * d.step ∧
      shown ≤ d.nanoseconds ∧ d.nanoseconds < shown + d.step ∧
      ∀ shorter : Duration, shorter.nanoseconds ≤ d.nanoseconds →
        ∃ less, Duration.read? (formatDuration shorter.seconds shorter.nanos) = some less ∧
          less ≤ shown :=
  ⟨d.cutOff, d.read?_formatDuration, rfl, d.cutOff_le, d.lt_cutOff_add_step,
    fun shorter h => ⟨shorter.cutOff, shorter.read?_formatDuration, Duration.cutOff_mono h⟩⟩

example : formatDuration 59 999999999 = "59.99s" ∧ formatDuration 60 0 = "1m 0s" := by decide

end Slipway
