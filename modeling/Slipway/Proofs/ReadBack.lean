import Mathlib.Tactic.Ring
import Slipway.Archive.TarReader
import Slipway.Proofs.Paths
import Slipway.Proofs.Preflight
import Slipway.Proofs.Utf8

/-!
# Archives read back

What is written into each field of a header is read from it again, so the reader finds the one entry
of an archive with the name and the content that went in, however long they are.
-/

namespace Slipway

variable {σ : Type} {width n : Nat} {name : String} {bytes field rest content : Bytes}

/-! ## Digits -/

/-- The digits of octal numbers. -/
def IsOctal (c : Char) : Prop := 48 ≤ c.toNat ∧ c.toNat < 56

theorem toNat_hexDigit {d : Nat} (h : d < 10) : (hexDigit d).toNat = 48 + d := by
  revert d
  decide

theorem isOctal_hexDigit {d : Nat} (h : d < 8) : IsOctal (hexDigit d) := by
  rw [IsOctal, toNat_hexDigit (by omega)]
  omega

theorem isOctal_of_mem_fixedDigits {c : Char} (h : c ∈ fixedDigits 8 width n) : IsOctal c := by
  induction width generalizing n with
  | zero => simp [fixedDigits] at h
  | succ width ih =>
    rcases List.mem_append.mp h with h | h
    · exact ih h
    · obtain rfl := List.mem_singleton.mp h
      exact isOctal_hexDigit (Nat.mod_lt _ (by decide))

theorem length_fixedDigits (base width n : Nat) : (fixedDigits base width n).length = width := by
  induction width generalizing n with
  | zero => rfl
  | succ width ih => simp [fixedDigits, ih]

theorem foldl_fixedDigits (width n start : Nat) :
    (fixedDigits 8 width n).foldl (fun m c => m.bind fun m =>
      if '0' ≤ c ∧ c.toNat < '0'.toNat + 8 then some (m * 8 + (c.toNat - '0'.toNat)) else none)
      (some start) = some (start * 8 ^ width + n % 8 ^ width) := by
  induction width generalizing n with
  | zero => simp [fixedDigits, Nat.mod_one]
  | succ width ih =>
    have hdigit : n % 8 < 8 := Nat.mod_lt _ (by decide)
    have hvalue := toNat_hexDigit (d := n % 8) (by omega)
    have hzero : '0'.toNat = 48 := rfl
    have hlow : '0' ≤ hexDigit (n % 8) := by
      rw [Char.le_def, UInt32.le_iff_toNat_le]
      change 48 ≤ (hexDigit (n % 8)).toNat
      omega
    rw [fixedDigits, List.foldl_append, ih]
    simp only [List.foldl_cons, List.foldl_nil, Option.bind_some]
    rw [if_pos ⟨hlow, by omega⟩, hvalue, hzero, Nat.add_sub_cancel_left, Nat.pow_succ', Nat.mod_mul]
    congr 1
    ring

theorem readWord?_fixedDigits {text : String} (ht : text.toList = fixedDigits 8 (width + 1) n)
    (hn : n < 8 ^ (width + 1)) (hw : n < 2 ^ 64) : readWord? 8 text = some n := by
  have hne : text.toList ≠ [] := by
    rw [ht, ← List.length_pos_iff, length_fixedDigits]
    omega
  have hread : readNatural? 8 text.toList = some n := by
    rw [readNatural?, if_neg (by simpa using hne), ht]
    exact (foldl_fixedDigits _ _ 0).trans (by rw [Nat.mod_eq_of_lt hn]; simp)
  unfold readWord?
  split
  · rename_i rest hplus
    have hsign : IsOctal '+' :=
      isOctal_of_mem_fixedDigits (ht ▸ hplus ▸ List.mem_cons_self : '+' ∈ fixedDigits 8 _ n)
    simp [IsOctal] at hsign
  · simp only [hread]
    simpa using hw

/-! ## Octal text -/

namespace Utf8

theorem encodeChar_ascii {c : Char} (h : c.toNat < 128) :
    String.utf8EncodeChar c = [UInt8.ofNat c.toNat] := by
  have hc : c.val.toNat ≤ 0x7f := by
    change c.toNat ≤ 127
    omega
  rw [String.utf8EncodeChar, if_pos hc]
  rfl

end Utf8

theorem IsOctal.not_blank {c : Char} (h : IsOctal c) : isBlank c = false := by
  obtain ⟨hlow, hhigh⟩ := h
  simp only [isBlank, Bool.or_eq_false_iff, Bool.and_eq_false_iff, beq_eq_false_iff_ne,
    decide_eq_false_iff_not]
  omega

theorem trimBlanks_eq_self {text : String} (h : ∀ c ∈ text.toList, isBlank c = false) :
    trimBlanks text = text := by
  have hkeep : ∀ chars : List Char, (∀ c ∈ chars, isBlank c = false) →
      chars.dropWhile isBlank = chars := by
    intro chars hchars
    cases chars with
    | nil => rfl
    | cons c rest => simp [hchars c List.mem_cons_self]
  rw [trimBlanks, hkeep _ h, hkeep _ (by simpa using h), List.reverse_reverse, String.ofList_toList]

namespace Tar

/-! ## Fields -/

theorem length_octalField (h : 0 < width) (n : Nat) : (octalField width n).length = width := by
  have hascii : ∀ chars : List Char, (∀ c ∈ chars, c.toNat < 128) →
      (chars.flatMap String.utf8EncodeChar).length = chars.length := by
    intro chars hchars
    induction chars with
    | nil => rfl
    | cons c rest ih =>
      rw [List.flatMap_cons, List.length_append, Utf8.encodeChar_ascii (hchars c List.mem_cons_self),
        ih fun d hd => hchars d (List.mem_cons_of_mem c hd)]
      simp [Nat.add_comm]
  rw [octalField, Utf8.encode, String.toList_ofList, List.length_append, hascii, length_fixedDigits]
  · simp
    omega
  · intro c hc
    have := (isOctal_of_mem_fixedDigits hc).2
    omega

theorem readText_append_zero (h : 0 ∉ bytes) : readText (bytes ++ 0 :: rest) = bytes := by
  rw [readText, List.takeWhile_append_of_pos]
  · simp
  · intro b hb
    simpa using fun hzero : b = 0 => h (hzero ▸ hb)

theorem readText_textField (h : 0 ∉ bytes) : readText (textField width bytes) = bytes := by
  rw [readText, textField, List.takeWhile_append_of_pos]
  · simp
  · intro b hb
    simpa using fun hzero : b = 0 => h (hzero ▸ hb)

theorem readOctal?_octalField (width : Nat) (hn : n < 8 ^ (width + 1)) (hw : n < 2 ^ 64) :
    readOctal? (octalField (width + 2) n) = some n := by
  have hoctal : ∀ c ∈ (String.ofList (fixedDigits 8 (width + 1) n)).toList, IsOctal c := by
    simpa using fun c => isOctal_of_mem_fixedDigits
  have hzero : (0 : UInt8) ∉ Utf8.encode (String.ofList (fixedDigits 8 (width + 1) n)) := by
    intro hmem
    obtain ⟨c, hc, hbyte⟩ := List.mem_flatMap.mp hmem
    obtain ⟨hlow, hhigh⟩ := hoctal c hc
    rw [Utf8.encodeChar_ascii (by omega), List.mem_singleton] at hbyte
    have := congrArg UInt8.toNat hbyte
    rw [UInt8.toNat_ofNat'] at this
    simp at this
    omega
  rw [readOctal?, octalField, show width + 2 - 1 = width + 1 from rfl, readText_append_zero hzero,
    Utf8.decode?_encode]
  simp only [Option.bind_eq_bind, Option.bind_some]
  rw [trimBlanks_eq_self fun c hc => (hoctal c hc).not_blank]
  exact readWord?_fixedDigits (by simp) hn hw

theorem octalField_opens (width n : Nat) : ∃ first rest, octalField (width + 2) n = first :: rest ∧ first < 0x80 := by
  obtain ⟨c, chars, hchars⟩ : ∃ c chars, fixedDigits 8 (width + 1) n = c :: chars :=
    List.exists_cons_of_length_eq_add_one (length_fixedDigits _ _ _)
  have hc : IsOctal c := isOctal_of_mem_fixedDigits (hchars ▸ List.mem_cons_self)
  have hascii : c.toNat < 128 := by have := hc.2; omega
  refine ⟨UInt8.ofNat c.toNat, Utf8.encode (String.ofList chars) ++ [0], ?_, ?_⟩
  · rw [octalField, show width + 2 - 1 = width + 1 from rfl, hchars]
    simp [Utf8.encode, Utf8.encodeChar_ascii hascii]
  · rw [UInt8.lt_iff_toNat_lt, UInt8.toNat_ofNat']
    have := hc.2
    change c.toNat % 256 < 128
    omega

theorem readNumber?_octalField (hn : n < 8 ^ (width + 1)) (hw : n < 2 ^ 64) :
    readNumber? (octalField (width + 2) n) = some n := by
  obtain ⟨first, rest, hfield, hfirst⟩ := octalField_opens width n
  rw [← readOctal?_octalField width hn hw, hfield, readNumber?, if_neg]
  simpa using hfirst

theorem length_littleEndian (width n : Nat) : (littleEndian width n).length = width := by
  induction width generalizing n with
  | zero => rfl
  | succ width ih => simp [littleEndian, ih]

theorem foldl_bigEndian (width n : Nat) :
    (bigEndian width n).foldl (fun m b => m * 256 + b.toNat) 0 = n % 256 ^ width := by
  unfold bigEndian
  induction width generalizing n with
  | zero => simp [littleEndian, Nat.mod_one]
  | succ width ih =>
    rw [littleEndian, List.reverse_cons, List.foldl_append, ih, Nat.pow_succ', Nat.mod_mul]
    simp
    ring

theorem length_binaryField (h : 8 ≤ width) (n : Nat) : (binaryField width n).length = width := by
  have hlength : (List.replicate (width - 8) (0 : UInt8) ++ bigEndian 8 (n % Nat.pow 2 64)).length
      = width := by
    simp [bigEndian, length_littleEndian]
    omega
  unfold binaryField
  split <;> simp_all

theorem length_numberField (h : 8 ≤ width) (n : Nat) : (numberField width n).length = width := by
  unfold numberField
  split
  · exact length_octalField (by omega) n
  · exact length_binaryField h n

theorem foldl_zeros (width : Nat) :
    (List.replicate width (0 : UInt8)).foldl (fun m b => m * 256 + b.toNat) 0 = 0 := by
  induction width with
  | zero => rfl
  | succ width ih => simpa [List.replicate_succ] using ih

/-- A binary field that is wider than its number is read as that number. -/
theorem readNumber?_binaryField (hw : n < 2 ^ 64) :
    readNumber? (binaryField (width + 9) n) = some n := by
  have hfield : binaryField (width + 9) n
      = 0x80 :: (List.replicate width 0 ++ bigEndian 8 n) := by
    rw [binaryField, show width + 9 - 8 = width + 1 from by omega, List.replicate_succ,
      show n % Nat.pow 2 64 = n from Nat.mod_eq_of_lt hw]
    rfl
  have hvalue : (((0x80 : UInt8) &&& 0x7f) :: (List.replicate width 0 ++ bigEndian 8 n)).foldl
      (fun m b => m * 256 + b.toNat) 0 = n := by
    rw [show ((0x80 : UInt8) &&& 0x7f) = 0 from rfl, List.foldl_cons, List.foldl_append,
      show 0 * 256 + (0 : UInt8).toNat = 0 from rfl, foldl_zeros, foldl_bigEndian]
    exact Nat.mod_eq_of_lt hw
  rw [hfield, readNumber?, if_pos (by decide), hvalue,
    show n % Nat.pow 2 64 = n from Nat.mod_eq_of_lt hw]

theorem readNumber?_numberField (hw : n < 2 ^ 64) : readNumber? (numberField 12 n) = some n := by
  unfold numberField
  split
  · rename_i hoctal
    exact readNumber?_octalField hoctal hw
  · exact readNumber?_binaryField hw

/-- Any number of an owner leaves something that can be read. -/
theorem readNumber?_owner (n : Nat) : ∃ m, readNumber? (numberField 8 n) = some m := by
  unfold numberField
  split
  · rename_i hoctal
    refine ⟨n, readNumber?_octalField hoctal ?_⟩
    exact Nat.lt_trans hoctal (by decide)
  · have hlength : (bigEndian 8 (n % Nat.pow 2 64)).length = 7 + 1 := by
      simp [bigEndian, length_littleEndian]
    obtain ⟨first, rest, hrest⟩ := List.exists_cons_of_length_eq_add_one hlength
    have hhigh : 0x80 ≤ first ||| 0x80 := by
      rw [UInt8.le_iff_toNat_le, UInt8.toNat_or]
      exact Nat.right_le_or
    refine ⟨_, by rw [binaryField, Nat.sub_self, List.replicate_zero, List.nil_append, hrest,
      readNumber?, if_pos hhigh]⟩

/-! ## Headers -/

theorem slice_skip {before : Bytes} {k : Nat} (h : before.length = k) (offset count : Nat) :
    slice (before ++ bytes) (k + offset) count = slice bytes offset count := by
  rw [slice, slice, ← h, List.drop_append, List.drop_eq_nil_of_le (by omega)]
  simp

theorem slice_left {count : Nat} (h : field.length = count) :
    slice (field ++ rest) 0 count = field := by
  simp [slice, ← h]

theorem sum_append (bytes more : Bytes) : sum (bytes ++ more) = sum bytes + sum more := by
  have hfrom : ∀ (bytes : Bytes) (start : Nat),
      bytes.foldl (fun total b => total + b.toNat) start = start + sum bytes := by
    intro bytes
    induction bytes with
    | nil => intro start; simp [sum]
    | cons b rest ih =>
      intro start
      rw [sum, List.foldl_cons, List.foldl_cons, ih, ih]
      omega
  rw [sum, List.foldl_append, hfrom]
  rfl

theorem sum_le (bytes : Bytes) : sum bytes ≤ 255 * bytes.length := by
  induction bytes with
  | nil => simp [sum]
  | cons b rest ih =>
    have hb : b.toNat < 256 := b.toNat_lt
    have hcons : sum (b :: rest) = sum [b] + sum rest := sum_append [b] rest
    rw [hcons, List.length_cons]
    simp only [sum, List.foldl_cons, List.foldl_nil] at *
    omega

/-- The dialect of GNU headers. -/
def gnuMagic : Bytes := Utf8.encode "ustar  " ++ [0]

namespace Header

variable {h : Header}

/-- A header with numbers that can be read as they are. -/
structure Fits (h : Header) : Prop where
  name : h.name.length = nameWidth
  mode : h.mode < 8 ^ 7
  size : h.size < 2 ^ 64
  modified : h.modified < 2 ^ 64

theorem length_front (hf : h.Fits) : h.front.length = 148 := by
  simp only [front, List.length_append, hf.name, nameWidth, length_octalField (show 0 < 8 by decide),
    length_numberField (show 8 ≤ 8 by decide), length_numberField (show 8 ≤ 12 by decide)]

theorem length_back : h.back.length = 356 := by
  have hmagic : (Utf8.encode "ustar  ").length = 7 := by decide
  have hdevice : (if h.deviceNumbers then octalField 8 0 else List.replicate 8 0).length = 8 := by
    split
    · exact length_octalField (by decide) 0
    · simp
  simp only [back, List.length_append, hmagic, hdevice, List.length_replicate, List.length_singleton]

theorem length_toBytes (hf : h.Fits) : h.toBytes.length = blockSize := by
  simp only [toBytes, List.length_append, length_front hf, length_back,
    length_octalField (show 0 < 8 by decide), blockSize]

theorem toBytes_eq : h.toBytes = h.name ++ (octalField 8 h.mode ++ (numberField 8 h.owner ++
    (numberField 8 h.group ++ (numberField 12 h.size ++ (numberField 12 h.modified ++
      (octalField 8 (sum h.front + 8 * 32 + sum h.back) ++ h.back)))))) := by
  simp only [toBytes, front, List.append_assoc]

theorem back_eq : ∃ tail, h.back =
    [h.type.flag] ++ (List.replicate 100 0 ++ (gnuMagic ++ tail)) :=
  ⟨_, by simp only [back, gnuMagic, List.append_assoc]; rfl⟩

theorem headerSum_toBytes (hf : h.Fits) :
    headerSum h.toBytes = sum h.front + 8 * 32 + sum h.back := by
  have hfront := length_front hf
  have hsum : (octalField 8 (sum h.front + 8 * 32 + sum h.back)).length = 8 :=
    length_octalField (by decide) _
  have htake : h.toBytes.take 148 = h.front := by
    rw [toBytes, List.append_assoc, List.take_append_of_le_length hfront.ge, ← hfront,
      List.take_length]
  have hdrop : h.toBytes.drop 156 = h.back := by
    rw [toBytes, List.drop_append, List.drop_eq_nil_of_le (by simp [hfront, hsum])]
    simp [hfront, hsum]
  rw [headerSum, htake, hdrop]

theorem hasChecksum_toBytes (hf : h.Fits) : hasChecksum h.toBytes = true := by
  have hslice : slice h.toBytes 148 8 = octalField 8 (sum h.front + 8 * 32 + sum h.back) := by
    change slice _ (148 + 0) 8 = _
    rw [toBytes, List.append_assoc, slice_skip (length_front hf),
      slice_left (length_octalField (by decide) _)]
  have hfront := sum_le h.front
  have hback := sum_le h.back
  rw [length_front hf] at hfront
  rw [length_back] at hback
  have hbound : sum h.front + 8 * 32 + sum h.back < 8 ^ 7 := by omega
  have hword : (sum h.front + 8 * 32 + sum h.back) % Nat.pow 2 32
      = sum h.front + 8 * 32 + sum h.back :=
    Nat.mod_eq_of_lt (Nat.lt_trans hbound (by decide))
  rw [hasChecksum, hslice, readOctal?_octalField 6 hbound (by omega), headerSum_toBytes hf]
  simp [hword]

theorem slice_back (hf : h.Fits) (offset count : Nat) :
    slice h.toBytes (156 + offset) count = slice h.back offset count := by
  rw [toBytes]
  refine slice_skip ?_ _ _
  rw [List.length_append, length_front hf, length_octalField (by decide)]

theorem magicOf_toBytes (hf : h.Fits) : magicOf h.toBytes = gnuMagic := by
  obtain ⟨tail, hback⟩ := back_eq (h := h)
  change slice _ (156 + (1 + (100 + 0))) 8 = _
  rw [slice_back hf, hback, slice_skip List.length_singleton, slice_skip List.length_replicate,
    slice_left (by decide)]

theorem typeOf_toBytes (hf : h.Fits) : typeOf h.toBytes = h.type.flag := by
  obtain ⟨tail, hback⟩ := back_eq (h := h)
  have hslice : slice h.toBytes (156 + 0) 1 = [h.type.flag] := by
    rw [slice_back hf, hback, slice_left List.length_singleton]
  rw [typeOf, hslice]
  cases h.type <;> rfl

theorem nameOf_toBytes (hf : h.Fits) : nameOf h.toBytes = readText h.name := by
  have hslice : slice h.toBytes 0 nameWidth = h.name := by rw [toBytes_eq, slice_left hf.name]
  have hdialect : dialectOf gnuMagic = .gnu := by decide
  simp [nameOf, hslice, magicOf_toBytes hf, hdialect]

theorem slices_toBytes (hf : h.Fits) :
    slice h.toBytes 100 8 = octalField 8 h.mode ∧ slice h.toBytes 108 8 = numberField 8 h.owner ∧
      slice h.toBytes 116 8 = numberField 8 h.group ∧
      slice h.toBytes 124 12 = numberField 12 h.size ∧
      slice h.toBytes 136 12 = numberField 12 h.modified := by
  have hname : h.name.length = 100 := hf.name
  have hmode : (octalField 8 h.mode).length = 8 := length_octalField (by decide) _
  have hnumber : ∀ n, (numberField 8 n).length = 8 := length_numberField (by decide)
  have hwide : ∀ n, (numberField 12 n).length = 12 := length_numberField (by decide)
  rw [toBytes_eq]
  refine ⟨?_, ?_, ?_, ?_, ?_⟩
  · change slice _ (100 + 0) 8 = _
    rw [slice_skip hname, slice_left hmode]
  · change slice _ (100 + (8 + 0)) 8 = _
    rw [slice_skip hname, slice_skip hmode, slice_left (hnumber _)]
  · change slice _ (100 + (8 + (8 + 0))) 8 = _
    rw [slice_skip hname, slice_skip hmode, slice_skip (hnumber _), slice_left (hnumber _)]
  · change slice _ (100 + (8 + (8 + (8 + 0)))) 12 = _
    rw [slice_skip hname, slice_skip hmode, slice_skip (hnumber _), slice_skip (hnumber _),
      slice_left (hwide _)]
  · change slice _ (100 + (8 + (8 + (8 + (12 + 0))))) 12 = _
    rw [slice_skip hname, slice_skip hmode, slice_skip (hnumber _), slice_skip (hnumber _),
      slice_skip (hwide _), slice_left (hwide _)]

/-- What a reader makes of a header and its content. The records before it may have a name for the
entry. -/
def entry (h : Header) (before : Foreword) (owner group : Nat) (content : Bytes) : Entry where
  name := before.name?.getD (readText h.name)
  mode := h.mode
  owner := owner
  group := group
  size := h.size
  modified := h.modified
  type := h.type.flag
  magic := gnuMagic
  content := content

theorem readHeader?_toBytes (hf : h.Fits) {before : Foreword} (hb : before.extensions = none) :
    ∃ owner group, readHeader? before h.toBytes = some (h.entry before owner group []) := by
  obtain ⟨owner, howner⟩ := readNumber?_owner h.owner
  obtain ⟨group, hgroup⟩ := readNumber?_owner h.group
  obtain ⟨hmode, hownerField, hgroupField, hsize, hmodified⟩ := slices_toBytes hf
  have hnone : ∀ (key : String), extendedNumber? key [] = none := fun _ => rfl
  refine ⟨owner, group, ?_⟩
  rw [readHeader?, if_neg (by simp [length_toBytes hf, hasChecksum_toBytes hf])]
  simp only [hb, Option.getD_none, hnone, Option.none_or, hmode, hownerField, hgroupField, hsize,
    hmodified, howner, hgroup, readNumber?_numberField hf.size, readNumber?_numberField hf.modified,
    readOctal?_octalField 6 hf.mode (Nat.lt_trans hf.mode (by decide)),
    typeOf_toBytes hf, magicOf_toBytes hf, nameOf_toBytes hf, entry]
  simpa using ⟨Nat.lt_trans hf.mode (by decide), Eq.symm⟩

end Header

/-! ## Records -/

theorem length_padded (bytes : Bytes) : (padded bytes).length = bytes.length + padLength bytes.length := by
  simp [padded]

theorem padded_blocks (bytes : Bytes) : (padded bytes).length % 512 = 0 := by
  rw [length_padded, padLength, blockSize]
  omega

theorem readEntry?_record {h : Header} (hf : h.Fits) (hsize : h.size = content.length)
    {before : Foreword} (hb : before.extensions = none) (rest : Bytes) :
    ∃ owner group, readEntry? before (h.toBytes ++ padded content ++ rest)
      = some (h.entry before owner group content, rest) := by
  obtain ⟨owner, group, hheader⟩ := Header.readHeader?_toBytes hf hb
  have hlength := Header.length_toBytes hf
  have htake : (h.toBytes ++ padded content ++ rest).take blockSize = h.toBytes := by
    rw [List.append_assoc, ← hlength, List.take_left]
  have hdrop : (h.toBytes ++ padded content ++ rest).drop blockSize = padded content ++ rest := by
    rw [List.append_assoc, ← hlength, List.drop_left]
  have hpadded := length_padded content
  refine ⟨owner, group, ?_⟩
  simp only [ readEntry?, htake, hheader, hdrop, hsize, Header.entry, Option.bind_eq_bind,
    Option.bind_some]
  rw [if_neg (by simp only [List.length_append, hpadded]; omega), ← hpadded, List.drop_left]
  simp [padded]

theorem atEmptyBlock_record {h : Header} (hf : h.Fits) :
    atEmptyBlock (h.toBytes ++ rest) = false := by
  have hlength := Header.length_toBytes hf
  have hflag : h.type.flag ∈ h.toBytes := by
    obtain ⟨tail, hback⟩ := Header.back_eq (h := h)
    rw [Header.toBytes, hback]
    simp
  have hne : h.type.flag ≠ 0 := by cases h.type <;> decide
  rw [atEmptyBlock, ← hlength, List.take_left]
  simp only [decide_eq_false_iff_not, not_and, Bool.not_eq_true, List.all_eq_false]
  exact fun _ => ⟨_, hflag, by simpa using hne⟩

theorem atEmptyBlock_zeros {n : Nat} (h : blockSize ≤ n) :
    atEmptyBlock (List.replicate n 0) = true := by
  simp [atEmptyBlock, h, List.take_replicate]

theorem readEntries?_terminator (fuel : Nat) :
    readEntries? (fuel + 1) {} terminator = some ([], terminator) := by
  have hempty : atEmptyBlock terminator = true := atEmptyBlock_zeros (by decide)
  rw [readEntries?, if_pos (by simp [hempty]), if_pos (show Foreword.isEmpty {} = true from rfl)]

/-- The reader goes on behind a record, whether it is an entry or tells about the next one. -/
theorem readEntries?_record {h : Header} (hf : h.Fits) (hsize : h.size = content.length)
    {before : Foreword} (hb : before.extensions = none) (rest : Bytes) (fuel : Nat) :
    ∃ owner group, readEntries? (fuel + 1) before (h.toBytes ++ padded content ++ rest) =
      match before.add? (h.entry before owner group content) with
      | some none => none
      | some (some after) => readEntries? fuel after rest
      | none => (readEntries? fuel {} rest).map
          fun (more, behind) => (h.entry before owner group content :: more, behind) := by
  obtain ⟨owner, group, hentry⟩ := readEntry?_record hf hsize hb rest
  have hlength := Header.length_toBytes hf
  have hempty : (h.toBytes ++ padded content ++ rest).isEmpty = false := by
    refine List.isEmpty_eq_false_iff.mpr (List.ne_nil_of_length_pos ?_)
    simp only [List.length_append, hlength, blockSize]
    omega
  have hblock : atEmptyBlock (h.toBytes ++ padded content ++ rest) = false := by
    rw [List.append_assoc]
    exact atEmptyBlock_record hf
  refine ⟨owner, group, ?_⟩
  rw [readEntries?, hempty, hblock, if_neg (by decide)]
  simp only [hentry, Option.bind_eq_bind, Option.bind_some]
  cases before.add? (h.entry before owner group content) with
  | some after => cases after <;> rfl
  | none => cases readEntries? fuel {} rest <;> rfl

/-! ## Names -/

/-- The only character with a zero byte is NUL. -/
theorem zero_notMem_encode {text : String} (h : '\x00' ∉ text.toList) : 0 ∉ Utf8.encode text := by
  intro hzero
  obtain ⟨c, hc, hbyte⟩ := List.mem_flatMap.mp hzero
  have hne : c.toNat ≠ 0 := fun hnul => h ((Char.toNat_inj.mp hnul : c = '\x00') ▸ hc)
  rw [← Char.ofNat_toNat c, Utf8.encodeChar_ofNat (n := c.toNat) c.valid] at hbyte
  have hnonzero : ∀ {k : Nat}, k % 256 ≠ 0 → (0 : UInt8) ≠ UInt8.ofNat k := fun hk heq => hk (by
    simpa using (congrArg UInt8.toNat heq).symm)
  change _ ∈ ite (c.toNat ≤ 0x7f) _ _ at hbyte
  split_ifs at hbyte with h₁ h₂ h₃
  all_goals
    simp only [List.mem_cons, List.not_mem_nil, or_false] at hbyte
  · exact hnonzero (by omega) hbyte
  · rcases hbyte with hbyte | hbyte <;> exact hnonzero (by omega) hbyte
  · rcases hbyte with hbyte | hbyte | hbyte <;> exact hnonzero (by omega) hbyte
  · rcases hbyte with hbyte | hbyte | hbyte | hbyte <;> exact hnonzero (by omega) hbyte

theorem nameParts_eq (h : IsName name) : nameParts name = [.text (Utf8.encode name)] := by
  have hnames : Path.names ⟨name⟩ = [name] := by
    rw [Path.names, Path.split_of_no_separator h.no_separator]
    have hdot : name.toList ≠ ['.'] := fun hdot => h.ne_dot (String.toList_inj.mp hdot)
    simp [h.ne_empty, hdot]
  simp only [nameParts, hnames, if_neg h.not_absolute]
  simp [h.ne_dots]

theorem storeParts_text (cut : Bool) (bytes : Bytes) :
    storeParts cut [] [.text bytes] = match extend [] bytes with
      | .error e => ([], some e)
      | .ok all => (all, none) := by
  cases hextend : extend [] bytes <;> simp [storeParts, NamePart.bytes, hextend]

theorem overlay_zeros (width : Nat) (bytes : Bytes) :
    overlay (List.replicate width 0) bytes = textField width bytes := by
  unfold overlay textField
  dsimp only
  rw [List.length_replicate]
  split_ifs with hroom
  · rw [List.append_assoc, List.drop_replicate, List.length_append, List.length_singleton,
      List.singleton_append, ← List.replicate_succ]
    congr 2
    omega
  · rw [List.drop_replicate]

theorem storeName_plain (h : IsName name) (hnul : '\x00' ∉ name.toList) (cut : Bool) :
    storeName cut (List.replicate nameWidth 0) name =
      if (Utf8.encode name).length ≤ nameWidth
      then (textField nameWidth (Utf8.encode name), none)
      else (List.replicate nameWidth 0, some .tooLong) := by
  have hzero : (Utf8.encode name).contains 0 = false := by
    simpa using zero_notMem_encode hnul
  have hend : Path.endsInSeparator ⟨name⟩ = false := by
    rw [Path.endsInSeparator, beq_eq_false_iff_ne]
    exact fun hlast => h.no_separator (List.mem_of_getLast? hlast)
  have hextend : extend [] (Utf8.encode name) =
      if (Utf8.encode name).length ≤ nameWidth then .ok (Utf8.encode name) else .error .tooLong := by
    rw [extend, hzero, List.length_nil, Nat.zero_add]
    by_cases hshort : (Utf8.encode name).length ≤ nameWidth
    · rw [if_neg (Nat.not_lt.mpr hshort), if_pos hshort]
      rfl
    · rw [if_pos (Nat.not_le.mp hshort), if_neg hshort]
  rw [storeName, nameParts_eq h]
  by_cases hshort : (Utf8.encode name).length ≤ nameWidth
  · rw [if_pos hshort] at hextend ⊢
    simp [storeParts_text, hextend, hend, overlay_zeros]
  · rw [if_neg hshort] at hextend ⊢
    simp [storeParts_text, hextend]

/-- The longest beginning that fits: it ends where the next character would not fit any more. -/
theorem cutName_go (room : Nat) (chars taken : List Char) :
    ∃ kept left, chars = kept ++ left ∧
      cutName.go room chars taken = String.ofList (taken.reverse ++ kept) ∧
      (kept.flatMap String.utf8EncodeChar).length ≤ room ∧
      (left ≠ [] → room < (kept.flatMap String.utf8EncodeChar).length + 4) := by
  induction chars generalizing room taken with
  | nil => exact ⟨[], [], rfl, by simp [cutName.go], by simp, by simp⟩
  | cons c rest ih =>
    have hsize : (String.utf8EncodeChar c).length = c.utf8Size := String.length_utf8EncodeChar c
    rw [cutName.go]
    split_ifs with hroom
    · obtain ⟨kept, left, rfl, hgo, hfits, hlong⟩ := ih (room - c.utf8Size) (c :: taken)
      refine ⟨c :: kept, left, rfl, by simp [hgo], ?_, fun hleft => ?_⟩
      · rw [List.flatMap_cons, List.length_append, hsize]
        omega
      · have := hlong hleft
        rw [List.flatMap_cons, List.length_append, hsize]
        omega
    · refine ⟨[], c :: rest, rfl, by simp, by simp, fun _ => ?_⟩
      have := c.utf8Size_le_four
      simp
      omega

theorem cutName_plain (h : IsName name) (hnul : '\x00' ∉ name.toList)
    (hlong : nameWidth < (Utf8.encode name).length) :
    IsName (cutName name) ∧ '\x00' ∉ (cutName name).toList ∧
      (Utf8.encode (cutName name)).length ≤ nameWidth := by
  obtain ⟨kept, left, hname, hgo, hfits, hmost⟩ := cutName_go nameWidth name.toList []
  have hcut : (cutName name).toList = kept := by
    rw [cutName, hgo]
    simp
  have hmem : ∀ c ∈ kept, c ∈ name.toList := fun c hc => hname ▸ List.mem_append_left left hc
  have hleft : left ≠ [] := by
    rintro rfl
    rw [List.append_nil] at hname
    rw [Utf8.encode, hname] at hlong
    omega
  have hsize : 96 < (Utf8.encode (cutName name)).length := by
    have := hmost hleft
    rw [Utf8.encode, hcut]
    simp only [nameWidth] at this
    omega
  refine ⟨⟨?_, ?_, ?_, ?_⟩, ?_, ?_⟩
  · rintro heq
    simp [heq, Utf8.encode] at hsize
  · rintro heq
    rw [heq] at hsize
    exact absurd hsize (by decide)
  · rintro heq
    rw [heq] at hsize
    exact absurd hsize (by decide)
  · rw [hcut]
    exact fun hslash => h.no_separator (hmem _ hslash)
  · rw [hcut]
    exact fun hzero => hnul (hmem _ hzero)
  · rw [Utf8.encode, hcut]
    exact hfits

/-- A short name stands in its field, a long one in a record before its header. -/
theorem place_plain (h : IsName name) (hnul : '\x00' ∉ name.toList) :
    place name = .ok (if (Utf8.encode name).length ≤ nameWidth
      then ([], textField nameWidth (Utf8.encode name))
      else (longNameRecord (Utf8.encode name), textField nameWidth (Utf8.encode (cutName name)))) := by
  rw [place]
  by_cases hshort : (Utf8.encode name).length ≤ nameWidth
  · simp only [storeName_plain h hnul, if_pos hshort]
  · obtain ⟨hcut, hcutNul, hfits⟩ := cutName_plain h hnul (Nat.not_le.mp hshort)
    simp only [storeName_plain h hnul, if_neg hshort, storeName_plain hcut hcutNul, if_pos hfits]
    rw [if_neg (by omega)]

theorem length_textField (h : bytes.length ≤ width) : (textField width bytes).length = width := by
  simp only [textField, List.length_append, List.length_replicate]
  omega

/-! ## Archives of one file -/

theorem dialectOf_gnuMagic : dialectOf gnuMagic = .gnu := by decide

/-- The header of the record that carries a long name. -/
def longNameHeader (bytes : Bytes) : Header where
  name := textField nameWidth (Utf8.encode "././@LongLink")
  mode := 0o644
  owner := 0
  group := 0
  size := bytes.length + 1
  modified := 0
  type := .longName
  deviceNumbers := false

theorem longNameHeader_fits (h : bytes.length + 1 < 2 ^ 64) : (longNameHeader bytes).Fits where
  name := length_textField (by decide)
  mode := show 0o644 < 8 ^ 7 by decide
  size := h
  modified := show 0 < 2 ^ 64 by decide

theorem readEntries?_longName (h : bytes.length + 1 < 2 ^ 64) (fuel : Nat) :
    readEntries? (fuel + 1) {} (longNameRecord bytes ++ rest)
      = readEntries? fuel { longName := some (bytes ++ [0]) } rest := by
  have hsize : (longNameHeader bytes).size = (bytes ++ [0]).length := by simp [longNameHeader]
  obtain ⟨owner, group, hread⟩ :=
    readEntries?_record (longNameHeader_fits h) hsize (show ({} : Foreword).extensions = none from rfl) rest fuel
  exact hread.trans (by simp [Foreword.add?, Header.entry, dialectOf_gnuMagic, longNameHeader,
    EntryType.flag])

theorem name?_longName (bytes : Bytes) :
    Foreword.name? { longName := some (bytes ++ [0]) } = some bytes := by
  simp [Foreword.name?]

theorem readEntries?_regular {h : Header} (hf : h.Fits) (hsize : h.size = content.length)
    (htype : h.type = .regular) (before : Foreword) (hb : before.extensions = none) (fuel : Nat) :
    ∃ owner group,
      readEntries? (fuel + 2) before (h.toBytes ++ padded content ++ terminator)
        = some ([h.entry before owner group content], terminator) := by
  obtain ⟨owner, group, hread⟩ := readEntries?_record hf hsize hb terminator (fuel + 1)
  refine ⟨owner, group, hread.trans ?_⟩
  simp [Foreword.add?, Header.entry, dialectOf_gnuMagic, htype, EntryType.flag,
    readEntries?_terminator]

end Tar

open FileSystem World Tar

/-- The archive of a file that the system describes with `status`. -/
def archiveFor (name : String) (status : FileStatus) (content : Bytes) :
    Except SystemError Bytes :=
  (Tar.place name).map fun (before, field) =>
    before ++ (entryHeader field status).toBytes ++ padded content ++ terminator

theorem archiveOf_eq (name : String) (data : FileData) :
    archiveOf name data = archiveFor name (statusOf 0 (.file data)) data.content := rfl

/-- A stream of whole blocks in which a reader finds one executable file, and behind it the end of
the archive and nothing else. -/
structure ReadsBack (name : String) (content stream : Bytes) : Prop where
  blocks : stream.length % 512 = 0
  entry : ∃ entry, Tar.read? stream = some ([entry], List.replicate 1024 0) ∧
    entry.name = Utf8.encode name ∧ entry.mode = 0o755 ∧ entry.size = content.length ∧
    entry.type = EntryType.regular.flag ∧ entry.content = content

theorem entryHeader_fits {status : FileStatus} (hfield : field.length = nameWidth)
    (hsize : status.size < 2 ^ 64) : (entryHeader field status).Fits where
  name := hfield
  mode := show 0o755 < 8 ^ 7 by decide
  size := by
    change ite _ _ _ < _
    split_ifs
    · decide
    · exact hsize
  modified := by
    change (status.modified % (2 ^ 64 : Nat)).toNat < 2 ^ 64
    omega

/-- The reader of a whole stream goes through at least three records or ends. -/
theorem read?_eq {stream : Bytes} (h : 512 ≤ stream.length) :
    ∃ fuel, Tar.read? stream = readEntries? (fuel + 3) {} stream := by
  refine ⟨stream.length / blockSize - 1, ?_⟩
  have hfuel : stream.length / blockSize + 2 = stream.length / blockSize - 1 + 3 := by
    rw [blockSize]
    omega
  rw [Tar.read?, hfuel]

theorem archive_blocks {h : Header} (hf : h.Fits) (before content : Bytes)
    (hb : before.length % 512 = 0) :
    512 ≤ (before ++ h.toBytes ++ padded content ++ terminator).length ∧
      (before ++ h.toBytes ++ padded content ++ terminator).length % 512 = 0 := by
  have hend : terminator.length = 1024 := List.length_replicate
  have hcontent := padded_blocks content
  simp only [List.length_append, Header.length_toBytes hf, hend, blockSize]
  omega

theorem entryHeader_size {status : FileStatus} (field : Bytes) (hkind : status.kind = .regular)
    (hsize : status.size = content.length) : (entryHeader field status).size = content.length := by
  change ite _ _ _ = _
  rw [if_neg (by simp [hkind]), hsize]

theorem entryHeader_type {status : FileStatus} (field : Bytes) (hkind : status.kind = .regular) :
    (entryHeader field status).type = .regular := by
  change entryType status.kind = _
  rw [hkind]
  rfl

theorem entry_regular {status : FileStatus} (hkind : status.kind = .regular)
    (hsize : status.size = content.length) (before : Foreword) (owner group : Nat) :
    let entry := (entryHeader field status).entry before owner group content
    entry.mode = 0o755 ∧ entry.size = content.length ∧ entry.type = EntryType.regular.flag ∧
      entry.content = content :=
  ⟨rfl, entryHeader_size field hkind hsize, congrArg EntryType.flag (entryHeader_type field hkind),
    rfl⟩

/-- Every content below eight gibibytes is read back, under every name that is one component of a
path. The size of a name has to fit into a word. -/
theorem archiveFor_reads_back (status : FileStatus) (h : IsName name)
    (hnul : '\x00' ∉ name.toList) (hname : (Utf8.encode name).length + 1 < 2 ^ 64)
    (hkind : status.kind = .regular) (hsize : status.size = content.length)
    (hcontent : content.length < 2 ^ 33) :
    ∃ stream, archiveFor name status content = .ok stream ∧ ReadsBack name content stream := by
  have hplace := place_plain h hnul
  split_ifs at hplace with hshort
  · have hf : (entryHeader (textField nameWidth (Utf8.encode name)) status).Fits :=
      entryHeader_fits (length_textField hshort) (by omega)
    obtain ⟨hlong, hblocks⟩ := archive_blocks hf [] content rfl
    obtain ⟨fuel, hfuel⟩ := read?_eq hlong
    obtain ⟨owner, group, hread⟩ := readEntries?_regular hf (entryHeader_size _ hkind hsize)
      (entryHeader_type _ hkind) {} rfl (fuel + 1)
    refine ⟨_, by rw [archiveFor, hplace]; rfl, hblocks, _, hfuel.trans hread, ?_,
      entry_regular hkind hsize _ _ _⟩
    exact readText_textField (zero_notMem_encode hnul)
  · obtain ⟨hcut, hcutNul, hfits⟩ := cutName_plain h hnul (Nat.not_le.mp hshort)
    have hf : (entryHeader (textField nameWidth (Utf8.encode (cutName name))) status).Fits :=
      entryHeader_fits (length_textField hfits) (by omega)
    have hrecord : (longNameRecord (Utf8.encode name)).length % 512 = 0 := by
      have hpadded := padded_blocks (Utf8.encode name ++ [0])
      change ((longNameHeader (Utf8.encode name)).toBytes ++ padded _).length % 512 = 0
      rw [List.length_append, Header.length_toBytes (longNameHeader_fits hname), blockSize]
      omega
    obtain ⟨hlong, hblocks⟩ := archive_blocks hf _ content hrecord
    obtain ⟨fuel, hfuel⟩ := read?_eq hlong
    obtain ⟨owner, group, hread⟩ := readEntries?_regular hf (entryHeader_size _ hkind hsize)
      (entryHeader_type _ hkind) { longName := some (Utf8.encode name ++ [0]) } rfl fuel
    rw [← readEntries?_longName hname, ← List.append_assoc, ← List.append_assoc] at hread
    refine ⟨_, by rw [archiveFor, hplace]; rfl, hblocks, _, hfuel.trans hread, ?_,
      entry_regular hkind hsize _ _ _⟩
    simp [Header.entry, name?_longName]

/-- A binary comes out of its archive as it went in, under the archive's one name, whatever the
system says of its owner, its mode and its time. The open archive is written when nothing is
refused, and whenever the writing ends well, the compressed stream is in it. -/
theorem archive_reads_back {file binary : Handle} {data : FileData} (runner : Runner σ)
    (may : Refusals) (w : World σ) (hname : IsName name) (hnul : '\x00' ∉ name.toList)
    (hfits : (Utf8.encode name).length + 1 < 2 ^ 64) (hsize : data.content.length < 2 ^ 33)
    (hbinary : w.machine.files.openNode? binary = some (.file data))
    (hfile : w.machine.files.Holds file []) :
    (∀ status : FileStatus, status.kind = .regular → status.size = data.content.length →
      ∃ stream, archiveFor name status data.content = .ok stream ∧
        ReadsBack name data.content stream) ∧
    (∀ w', w.Runs runner may (writeArchive file binary name).run (.ok ()) w' →
      ∃ stream, ReadsBack name data.content stream ∧
        w'.machine.files.Holds file (Gzip.compress stream)) ∧
    (w.run runner (writeArchive file binary name).run).1 = .ok () := by
  refine ⟨fun status hkind hstatus => ?_, fun w' hrun => ?_, ?_⟩
  · exact archiveFor_reads_back status hname hnul hfits hkind hstatus hsize
  · obtain ⟨-, content, hholds, harchived⟩ := runs_writeArchive hfile hrun
    obtain ⟨archive, harchive, rfl⟩ := (harchived rfl).archivedFrom.2 data hbinary
    obtain ⟨stream, hstream, hreads⟩ :=
      archiveFor_reads_back (statusOf 0 (.file data)) hname hnul hfits rfl rfl hsize
    rw [archiveOf_eq, hstream] at harchive
    obtain rfl := Except.ok.inj harchive
    exact ⟨stream, hreads, hholds⟩
  · obtain ⟨records, hcollect⟩ : ∃ records, w.Runs runner Refusals.never
        (collectRecords binary name) (records, .ok ()) w :=
      collectRecords_ends hbinary (place_plain hname hnul)
    obtain ⟨w', hrun, -⟩ := writeArchive_ends hfile hcollect
    rw [hrun.eq_run]

/-- A name of a hundred and twenty bytes. -/
def accentedName : String := String.ofList (List.replicate 60 'é')

/-- An open archive beside a binary of one block, which nobody but its owner may use. -/
def archivingWorld : World Unit where
  machine := {
    files := {
      entries := [
        (["binary"], .file { serial := 1, content := List.replicate 512 7, mode := 0o700, modified := -3 }),
        (["archive"], .file { serial := 2, content := [], mode := 0o644, modified := 0 })]
      nextSerial := 3 } }
  runner := ()

theorem accented_archive_reads_back :
    100 < (Utf8.encode accentedName).length ∧
      (archivingWorld.run idleRunner
        (writeArchive ⟨["archive"], 2⟩ ⟨["binary"], 1⟩ accentedName).run).1 = .ok () ∧
      ∃ stream, ReadsBack accentedName (List.replicate 512 7) stream ∧
        (archivingWorld.run idleRunner
          (writeArchive ⟨["archive"], 2⟩ ⟨["binary"], 1⟩ accentedName).run).2.machine.files.Holds
            ⟨["archive"], 2⟩ (Gzip.compress stream) := by
  have hlist : accentedName.toList = List.replicate 60 'é' := String.toList_ofList
  have hlength : (Utf8.encode accentedName).length = 120 := by
    rw [Utf8.encode, hlist]
    decide
  have hname : IsName accentedName :=
    ⟨fun h => by simp [h] at hlist, fun h => by simp [h] at hlist, fun h => by simp [h] at hlist,
      by simp [hlist]⟩
  have hbinary : archivingWorld.machine.files.openNode? ⟨["binary"], 1⟩ = some (.file
      { serial := 1, content := List.replicate 512 7, mode := 0o700, modified := -3 }) := rfl
  have hfile : archivingWorld.machine.files.Holds ⟨["archive"], 2⟩ [] := ⟨_, rfl, rfl, rfl⟩
  obtain ⟨-, hruns, hok⟩ := archive_reads_back idleRunner Refusals.never archivingWorld hname
    (by simp [hlist]) (by omega) (by rw [List.length_replicate]; decide) hbinary hfile
  exact ⟨by omega, hok, hruns _ (runs_of_run_eq hok)⟩

end Slipway
