import Slipway.Proofs.Checksums
import Slipway.Proofs.Delivery

/-!
# Hashes cut short

A hash is shown by its first twelve bytes, and a text cannot be cut inside a character. Every hash
that a program comes to is cut between digits, whatever the system replies, so the summary of a
release that has ended well never fails.
-/

namespace Slipway

variable {α β ε δ : Type} {text : String} {n : Nat}

/-! ## Cuts -/

/-- A character begins before the first `n` bytes of the text end, and ends behind them. -/
def CutsCharacter (text : String) (n : Nat) : Prop :=
  ∃ before c after, text = before ++ String.singleton c ++ after ∧
    before.utf8ByteSize < n ∧ n < before.utf8ByteSize + c.utf8Size

theorem CutsCharacter.cons (c : Char) (h : CutsCharacter text n) :
    CutsCharacter (String.singleton c ++ text) (c.utf8Size + n) := by
  obtain ⟨before, d, after, rfl, hbefore, hn⟩ := h
  refine ⟨String.singleton c ++ before, d, after, by simp only [String.append_assoc], ?_, ?_⟩
  · rw [String.utf8ByteSize_append, String.utf8ByteSize_singleton]
    omega
  · rw [String.utf8ByteSize_append, String.utf8ByteSize_singleton]
    omega

/-- Where a text is not cut between characters, a character is cut. -/
theorem exists_append_or_cutsCharacter (text : String) (h : n ≤ text.utf8ByteSize) :
    (∃ short rest, text = short ++ rest ∧ short.utf8ByteSize = n) ∨ CutsCharacter text n := by
  obtain ⟨chars, rfl⟩ : ∃ chars, text = String.ofList chars := ⟨_, String.ofList_toList.symm⟩
  induction chars generalizing n with
  | nil => exact .inl ⟨"", "", by simp, (Nat.le_zero.mp h).symm⟩
  | cons c chars ih =>
    rw [String.ofList_cons] at h ⊢
    rw [String.utf8ByteSize_append, String.utf8ByteSize_singleton] at h
    rcases Nat.lt_or_ge n c.utf8Size with hn | hn
    · rcases n.eq_zero_or_pos with rfl | hpos
      · exact .inl ⟨"", _, String.empty_append.symm, rfl⟩
      · exact .inr ⟨"", c, _, by rw [String.empty_append], hpos, by simpa using hn⟩
    · obtain ⟨k, rfl⟩ := Nat.exists_eq_add_of_le hn
      rcases ih (Nat.le_of_add_le_add_left h) with ⟨short, rest, hparts, rfl⟩ | hcut
      · refine .inl ⟨String.singleton c ++ short, rest, ?_, ?_⟩
        · rw [hparts, String.append_assoc]
        · rw [String.utf8ByteSize_append, String.utf8ByteSize_singleton]
      · exact .inr (hcut.cons c)

theorem eq_append_ofList {s t : String} {more : List Char} (h : s.toList = t.toList ++ more) :
    s = t ++ String.ofList more :=
  String.toList_inj.mp (by rw [h, String.toList_append, String.toList_ofList])

theorem not_cutsCharacter_append (short rest : String) :
    ¬ CutsCharacter (short ++ rest) short.utf8ByteSize := by
  rintro ⟨before, c, after, htext, hbefore, hafter⟩
  have hchars : short.toList ++ rest.toList = before.toList ++ c :: after.toList := by
    simpa using congrArg String.toList htext
  rcases List.append_eq_append_iff.mp hchars with ⟨more, hlonger, -⟩ | ⟨more, hshort, hmore⟩
  · rw [eq_append_ofList hlonger, String.utf8ByteSize_append] at hbefore
    omega
  · -- The prefix holds what stands before the character, so all of the character or nothing of it.
    rw [eq_append_ofList hshort, String.utf8ByteSize_append] at hbefore hafter
    cases more with
    | nil => simp at hbefore
    | cons d more =>
      obtain ⟨rfl, -⟩ := List.cons.inj hmore
      rw [String.ofList_cons, String.utf8ByteSize_append, String.utf8ByteSize_singleton] at hafter
      omega

/-! ## The bytes of a part -/

namespace Utf8

theorem encode_append (s t : String) : encode (s ++ t) = encode s ++ encode t := by
  rw [encode, String.toList_append, List.flatMap_append]
  rfl

theorem toByteArray_encode (text : String) : (encode text).toByteArray = text.toByteArray :=
  String.utf8Encode_toList

theorem length_encode (text : String) : (encode text).length = text.utf8ByteSize := by
  rw [← String.size_toByteArray, ← toByteArray_encode, List.size_toByteArray]

theorem decode?_eq_some_iff {bytes : Bytes} : decode? bytes = some text ↔ bytes = encode text := by
  constructor
  · exact decode?_sound
  · rintro rfl
    exact decode?_encode text

theorem take_encode_eq_iff {short : String} (h : n ≤ text.utf8ByteSize) :
    (encode text).take n = encode short ↔
      (∃ rest, text = short ++ rest) ∧ short.utf8ByteSize = n := by
  constructor
  · intro htake
    have hvalid : (⟨n⟩ : String.Pos.Raw).IsValid text := by
      rw [String.Pos.Raw.isValid_iff_isValidUTF8_extract_zero]
      refine ⟨h, ?_⟩
      have hextract : text.toByteArray.extract 0 n = short.toByteArray := by
        rw [← toByteArray_encode text, ← toByteArray_encode short, ← htake]
        ext1
        simp
      rw [hextract]
      exact short.isValidUTF8
    obtain ⟨part, rest, rfl, hn⟩ := String.Pos.Raw.isValid_iff_exists_append.mp hvalid
    obtain rfl : n = part.utf8ByteSize := congrArg String.Pos.Raw.byteIdx hn
    rw [encode_append, List.take_left' (length_encode part)] at htake
    obtain rfl : part = short := by
      rw [← Option.some_inj, ← decode?_encode part, ← decode?_encode short, htake]
    exact ⟨⟨rest, rfl⟩, rfl⟩
  · rintro ⟨⟨rest, rfl⟩, rfl⟩
    rw [encode_append, List.take_left' (length_encode short)]

end Utf8

/-! ## Short hashes -/

namespace ContentHash

variable {hash : ContentHash} {short : String}

theorem short?_eq_some_iff : hash.short? = some short ↔
    (∃ rest, hash.digits = short ++ rest) ∧
      short.utf8ByteSize = min 12 hash.digits.utf8ByteSize := by
  unfold short?
  split_ifs with hsize
  · rw [min_eq_right hsize, Option.some_inj]
    constructor
    · rintro rfl
      exact ⟨⟨"", String.append_empty.symm⟩, rfl⟩
    · rintro ⟨⟨rest, hdigits⟩, hall⟩
      rw [hdigits, String.utf8ByteSize_append, Nat.left_eq_add] at hall
      rw [hdigits, String.utf8ByteSize_eq_zero_iff.mp hall, String.append_empty]
  · have hsize' : 12 ≤ hash.digits.utf8ByteSize := Nat.le_of_not_le hsize
    rw [min_eq_left hsize', Utf8.decode?_eq_some_iff, Utf8.take_encode_eq_iff hsize']

theorem short?_eq_none_iff : hash.short? = none ↔
    12 < hash.digits.utf8ByteSize ∧ CutsCharacter hash.digits 12 := by
  constructor
  · intro hnone
    have hcut : ∀ part rest, hash.digits = part ++ rest →
        part.utf8ByteSize ≠ min 12 hash.digits.utf8ByteSize := by
      intro part rest hparts hsize
      have hsome := short?_eq_some_iff.mpr ⟨⟨rest, hparts⟩, hsize⟩
      rw [hnone] at hsome
      nomatch hsome
    have hsize : 12 < hash.digits.utf8ByteSize := by
      by_contra hsize
      exact hcut hash.digits "" String.append_empty.symm (by omega)
    refine ⟨hsize, (exists_append_or_cutsCharacter hash.digits hsize.le).resolve_left ?_⟩
    rintro ⟨part, rest, hparts, hpart⟩
    exact hcut part rest hparts (by omega)
  · rintro ⟨hsize, hcut⟩
    refine Option.eq_none_iff_forall_ne_some.mpr fun part hpart => ?_
    obtain ⟨⟨rest, hparts⟩, hlength⟩ := short?_eq_some_iff.mp hpart
    rw [min_eq_left hsize.le] at hlength
    rw [hparts, ← hlength] at hcut
    exact not_cutsCharacter_append part rest hcut

example : (ContentHash.mk "0123456789aé").short? = none := by decide

/-- The hash is shown by its first twelve digits. -/
def Shortens (hash : ContentHash) : Prop :=
  ∃ short, hash.short? = some short ∧ short.toList = hash.digits.toList.take 12 ∧
    short.length = 12 ∧ ∀ c ∈ short.toList, c ∈ lowerHexDigits

theorem utf8ByteSize_ofList_ascii {chars : List Char} (h : ∀ c ∈ chars, c.toNat < 128) :
    (String.ofList chars).utf8ByteSize = chars.length := by
  induction chars with
  | nil => rfl
  | cons c rest ih =>
    obtain ⟨hc, hrest⟩ := List.forall_mem_cons.mp h
    have hone : c.utf8Size = 1 := Char.utf8Size_eq_one_iff.mpr (Nat.le_of_lt_succ hc)
    rw [String.ofList_cons, String.utf8ByteSize_append, String.utf8ByteSize_singleton, ih hrest,
      hone, List.length_cons, Nat.add_comm]

theorem Computed.shortens (h : hash.Computed) : hash.Shortens := by
  have hascii : ∀ c ∈ hash.digits.toList, c.toNat < 128 := fun c hc =>
    lowerHexDigits_ascii c (h.lowercase c hc)
  have hlength : (hash.digits.toList.take 12).length = 12 := by
    rw [List.length_take, h.length]
    rfl
  have hall := utf8ByteSize_ofList_ascii hascii
  rw [String.ofList_toList, h.length] at hall
  refine ⟨String.ofList (hash.digits.toList.take 12), short?_eq_some_iff.mpr ⟨?_, ?_⟩,
    String.toList_ofList, ?_, ?_⟩
  · refine ⟨String.ofList (hash.digits.toList.drop 12), ?_⟩
    rw [← String.ofList_append, List.take_append_drop, String.ofList_toList]
  · rw [utf8ByteSize_ofList_ascii fun c hc => hascii c (List.mem_of_mem_take hc), hlength, hall]
    rfl
  · rw [String.length_ofList, hlength]
  · intro c hc
    rw [String.toList_ofList] at hc
    exact h.lowercase c (List.mem_of_mem_take hc)

end ContentHash

/-! ## What a stage comes to -/

namespace Stage

variable {s : Stage ε α} {post : α → Prop}

/-- Whatever the replies are, the condition is true of what the stage comes to, unless it fails. -/
def Yields (s : Stage ε α) (post : α → Prop) : Prop :=
  ∀ exchanges a, s.run.Transcript exchanges (.ok a) → post a

theorem yields_pure {a : α} (h : post a) : (pure a : Stage ε α).Yields post := by
  rintro _ _ ⟨-, hok⟩
  obtain rfl := Except.ok.inj hok
  exact h

theorem yields_throw (e : ε) : (throw e : Stage ε α).Yields post := by
  rintro _ _ ⟨-, herror⟩
  nomatch herror

theorem yields_bind {f : α → Stage ε β} {post : β → Prop}
    (h : s.Yields fun a => (f a).Yields post) : (s >>= f).Yields post := by
  intro exchanges b hrun
  rw [ExceptT.run_bind, Program.transcript_bind] at hrun
  obtain ⟨first, later, e | a, rfl, hfirst, hlater⟩ := hrun
  · obtain ⟨-, herror⟩ := hlater
    nomatch herror
  · exact h first a hfirst later b hlater

theorem yields_next {f : α → Stage ε β} {post : β → Prop} (h : ∀ a, (f a).Yields post) :
    (s >>= f).Yields post :=
  yields_bind fun _ a _ => h a

theorem yields_lift_bind {p : Program α} {f : α → Stage ε β} {post : β → Prop}
    (h : ∀ exchanges a, p.Transcript exchanges a → (f a).Yields post) :
    (ExceptT.lift p >>= f : Stage ε β).Yields post := by
  intro exchanges b hrun
  obtain ⟨first, later, a, rfl, hfirst, hlater⟩ := transcript_lift_bind.mp hrun
  exact h first a hfirst later b hlater

theorem Yields.orElse (h : s.Yields post) (wrap : ε → δ) : (s.orElse wrap).Yields post := by
  intro exchanges a hrun
  obtain ⟨first, later, e | b, rfl, hfirst, hlater⟩ := Program.transcript_bind.mp hrun
  · obtain ⟨-, herror⟩ := hlater
    nomatch herror
  · obtain ⟨-, hok⟩ := hlater
    obtain rfl := Except.ok.inj hok
    exact h first a hfirst

end Stage

theorem World.Runs.transcript {σ : Type} {runner : Runner σ} {may : Refusals} {w w' : World σ}
    {p : Program α} {r : α} (h : w.Runs runner may p r w') :
    ∃ exchanges, p.Transcript exchanges r := by
  induction p generalizing w with
  | done a => exact ⟨[], rfl, h.1⟩
  | ask action next ih =>
    obtain ⟨reply, w₁, -, hrest⟩ := h
    obtain ⟨exchanges, hexchanges⟩ := ih reply hrest
    exact ⟨_, reply, exchanges, rfl, hexchanges⟩

theorem hashFile_yields (path : Path) : (hashFile path).Yields ContentHash.Computed :=
  fun _ _ hrun => .file hrun

theorem writeChecksum_yields (settings : Settings) (path : Path) (name : String) :
    (writeChecksum settings path name).Yields fun written => written.1.Computed := by
  refine Stage.yields_bind fun exchanges hash hrun => ?_
  have hhash : hash.Computed := (hashFile_yields path).orElse _ exchanges hash hrun
  refine Stage.yields_next fun file => ?_
  refine Stage.yields_next fun written => ?_
  rcases written with e | ⟨⟩
  · exact Stage.yields_next fun _ => Stage.yields_throw _
  · exact Stage.yields_next fun _ => Stage.yields_pure hhash

/-- A hash was computed and written when it was wanted, and neither otherwise. -/
structure Package.Hashed (p : Package) (wanted : Bool) : Prop where
  hash : p.sha256.isSome = wanted
  file : p.checksumPath.isSome = wanted
  computed : ∀ hash ∈ p.sha256, hash.Computed

theorem fillPackage_yields (settings : Settings) (file binary : Handle) (artifact path : Path)
    (name entryName : String) :
    (fillPackage settings file binary artifact path name entryName).Yields fun filled =>
      filled.2.isSome = settings.checksum ∧ ∀ written ∈ filled.2, written.1.Computed := by
  refine Stage.yields_next fun _ => ?_
  refine Stage.yields_next fun status => ?_
  split_ifs with hchecksum
  · refine Stage.yields_bind fun exchanges written hrun => Stage.yields_pure ⟨hchecksum.symm, ?_⟩
    rintro _ ⟨⟩
    exact writeChecksum_yields settings path name exchanges written hrun
  · exact Stage.yields_pure ⟨(Bool.eq_false_of_not_eq_true hchecksum).symm, nofun⟩

theorem package_yields (settings : Settings) (verified : VerifiedArtifact) :
    (package settings verified).Yields fun p => p.Hashed settings.checksum := by
  rw [package_opened]
  refine Stage.yields_next fun opened => ?_
  refine Stage.yields_lift_bind fun exchanges filled hfill => ?_
  rcases filled with e | ⟨size, written⟩
  · exact Stage.yields_next fun _ => Stage.yields_next fun _ => Stage.yields_throw _
  · obtain ⟨hwanted, hcomputed⟩ := fillPackage_yields _ _ _ _ _ _ _ exchanges _ hfill
    refine Stage.yields_next fun _ => Stage.yields_pure ?_
    refine ⟨?_, ?_, ?_⟩
    · simpa using hwanted
    · simpa using hwanted
    · intro hash hhash
      obtain ⟨pair, hpair, rfl⟩ := Option.map_eq_some_iff.mp hhash
      exact hcomputed pair hpair

theorem release_yields (settings : Settings) (toolchain : Path) (host : Host) (arch : Arch) :
    (release settings toolchain host arch).Yields fun report =>
      report.package.Hashed settings.checksum := by
  rcases host with name | os
  · exact Stage.yields_bind (Stage.yields_throw _)
  refine Stage.yields_bind (Stage.yields_pure ?_)
  refine Stage.yields_next fun version => ?_
  refine Stage.yields_next fun _ => ?_
  refine Stage.yields_next fun _ => ?_
  refine Stage.yields_next fun artifact => ?_
  refine Stage.yields_next fun verified => ?_
  refine Stage.yields_bind fun exchanges p hrun => ?_
  have hpackage := (package_yields settings verified).orElse _ exchanges p hrun
  exact Stage.yields_next fun _ => Stage.yields_pure hpackage

theorem configure_yields (env : Environment) (request : ReleaseRequest) :
    (configure env request).Yields fun configured => configured.1.checksum = request.checksum := by
  refine Stage.yields_next fun root => ?_
  refine Stage.yields_next fun settings => ?_
  refine Stage.yields_next fun toolchain => ?_
  exact Stage.yields_next fun _ => Stage.yields_pure rfl

theorem releaseFor_yields (env : Environment) (host : Host) (request : ReleaseRequest) :
    (releaseFor env host request).Yields fun report =>
      report.package.Hashed request.checksum := by
  refine Stage.yields_next fun arch => ?_
  refine Stage.yields_bind fun exchanges configured hrun => ?_
  obtain ⟨settings, toolchain⟩ := configured
  have hchecksum := (configure_yields env request).orElse _ exchanges _ hrun
  rw [← hchecksum]
  exact (release_yields settings toolchain host arch).orElse _

/-! ## Summaries -/

/-- The lines about a hash, if it is cut between characters. -/
def Package.checksumLines? (p : Package) (palette : Palette) : Option (List String) :=
  match p.sha256, p.checksumPath with
  | some sha256, some path =>
    sha256.short?.map fun short =>
      [palette.stat "SHA-256" short, palette.stat "Checksum" path.text]
  | _, _ => some []

theorem Package.checksumLines?_eq {p : Package} (h : ∀ hash ∈ p.sha256, hash.Shortens)
    (palette : Palette) : p.checksumLines? palette = some (p.checksumLines palette) := by
  unfold checksumLines? checksumLines
  cases hsha256 : p.sha256 with
  | none => rfl
  | some sha256 =>
    cases p.checksumPath with
    | none => rfl
    | some path =>
      obtain ⟨short, hshort, -⟩ := h sha256 hsha256
      simp only [hshort, Option.map_some, Option.getD_some]

theorem Package.Hashed.shortens {p : Package} {wanted : Bool} (h : p.Hashed wanted) :
    ∀ hash ∈ p.sha256, hash.Shortens :=
  fun hash hmem => (h.computed hash hmem).shortens

/-- Hashes are shortened without harm. A text is cut to its first twelve bytes, or not at all just
when a character stands across them. The hash of any content, and whatever hashing a file comes to,
gives its first twelve digits. So does the hash of every package that is made, and the summary of a
release always has its lines. -/
theorem hashes_shorten_safely :
    (∀ hash : ContentHash,
      (∀ short, hash.short? = some short ↔ (∃ rest, hash.digits = short ++ rest) ∧
        short.utf8ByteSize = min 12 hash.digits.utf8ByteSize) ∧
      (hash.short? = none ↔ 12 < hash.digits.utf8ByteSize ∧ CutsCharacter hash.digits 12)) ∧
    (∀ content, (ContentHash.ofBytes content).Shortens) ∧
    (∀ path, (hashFile path).Yields ContentHash.Shortens) ∧
    (∀ settings verified, (package settings verified).Yields fun p =>
      p.sha256.isSome = settings.checksum ∧ ∀ hash ∈ p.sha256, hash.Shortens) ∧
    ∀ env host request, (releaseFor env host request).Yields fun report =>
      report.package.sha256.isSome = request.checksum ∧
      report.package.checksumPath.isSome = request.checksum ∧
      (∀ hash ∈ report.package.sha256, hash.Shortens) ∧
      ∀ palette, report.package.checksumLines? palette =
        some (report.package.checksumLines palette) := by
  refine ⟨fun hash => ⟨fun short => ContentHash.short?_eq_some_iff, ContentHash.short?_eq_none_iff⟩,
    fun content => (ContentHash.Computed.bytes content).shortens, ?_, ?_, ?_⟩
  · intro path exchanges hash hrun
    exact (hashFile_yields path exchanges hash hrun).shortens
  · intro settings verified exchanges p hrun
    have hhashed := package_yields settings verified exchanges p hrun
    exact ⟨hhashed.hash, hhashed.shortens⟩
  · intro env host request exchanges report hrun
    have hhashed := releaseFor_yields env host request exchanges report hrun
    exact ⟨hhashed.hash, hhashed.file, hhashed.shortens,
      Package.checksumLines?_eq hhashed.shortens⟩

theorem packed_hash_shortens :
    ∃ exchanges p, (package (rootSettings ["work"] .overwrite true) unpackagedBinary).run.Transcript
        exchanges (.ok p) ∧ ∃ hash, p.sha256 = some hash ∧ hash.Shortens := by
  obtain ⟨p, w', hrun⟩ := unpackagedBinary_packs .overwrite true
  obtain ⟨exchanges, hexchanges⟩ := hrun.transcript
  obtain ⟨-, -, -, hpackage, -⟩ := hashes_shorten_safely
  obtain ⟨hsome, hshortens⟩ := hpackage _ _ exchanges p hexchanges
  obtain ⟨hash, hhash⟩ := Option.isSome_iff_exists.mp hsome
  exact ⟨exchanges, p, hexchanges, hash, hhash, hshortens hash hhash⟩

end Slipway
