import Mathlib.Data.Bool.AllAny
import Slipway.Proofs.Progress
import Slipway.Proofs.ReadBack
import Slipway.Proofs.Setup
import Slipway.Tool.Sums

/-!
# Hashes of files and their lines

A file is hashed as it is read, a piece at a time. However it gives its bytes, the hash is that of
all of them together, and a step that fails is reported instead. A hash is written as sixty-four
digits, from which its thirty-two bytes can be read again.

A line of a checksum file quotes nothing. It can be read again because every hash has as many digits
and because a name has no line end: what stands behind the digits and the two spaces is the name,
whatever it looks like.
-/

namespace Slipway

open FileSystem World
open Shell (Text)

variable {α β ε : Type} {hash : ContentHash}

/-! ## Hexadecimal digits -/

/-- The digits that bytes are written with. -/
def lowerHexDigits : List Char := "0123456789abcdef".toList

/-- The bytes that pairs of hexadecimal digits write. -/
def bytesOfHex? : List Char → Option Bytes
  | [] => some []
  | [_] => none
  | high :: low :: rest => do
    let h ← hexDigitValue? high
    let l ← hexDigitValue? low
    let bytes ← bytesOfHex? rest
    pure (UInt8.ofNat (16 * h + l) :: bytes)

theorem hexDigitValue?_hexDigit {n : Nat} (h : n < 16) : hexDigitValue? (hexDigit n) = some n := by
  revert n
  decide

theorem hexDigit_mem {n : Nat} (h : n < 16) : hexDigit n ∈ lowerHexDigits := by
  revert n
  decide

theorem toList_hex (bytes : Bytes) : (hex bytes).toList = bytes.flatMap hexOfByte :=
  String.toList_ofList

theorem bytesOfHex?_hex (bytes : Bytes) : bytesOfHex? (hex bytes).toList = some bytes := by
  rw [toList_hex]
  induction bytes with
  | nil => rfl
  | cons b rest ih =>
    have hb : b.toNat < 256 := b.toNat_lt
    have hhigh := hexDigitValue?_hexDigit (n := b.toNat / 16) (by omega)
    have hlow := hexDigitValue?_hexDigit (n := b.toNat % 16) (by omega)
    have hbyte : UInt8.ofNat (16 * (b.toNat / 16) + b.toNat % 16) = b := by
      rw [Nat.div_add_mod, UInt8.ofNat_toNat]
    rw [List.flatMap_cons, hexOfByte, List.cons_append, List.cons_append, List.nil_append,
      bytesOfHex?, hhigh, hlow, ih]
    exact congrArg (fun b => some (b :: rest)) hbyte

theorem length_hex (bytes : Bytes) : (hex bytes).toList.length = 2 * bytes.length := by
  rw [toList_hex]
  induction bytes with
  | nil => rfl
  | cons b rest ih =>
    rw [List.flatMap_cons, List.length_append, ih, List.length_cons, hexOfByte]
    simp
    omega

theorem mem_hex {bytes : Bytes} {c : Char} (h : c ∈ (hex bytes).toList) : c ∈ lowerHexDigits := by
  rw [toList_hex, List.mem_flatMap] at h
  obtain ⟨b, -, hc⟩ := h
  have hb : b.toNat < 256 := b.toNat_lt
  rw [hexOfByte, List.mem_pair] at hc
  rcases hc with rfl | rfl
  · exact hexDigit_mem (by omega)
  · exact hexDigit_mem (by omega)

/-! ## Digests -/

theorem Sha256.length_finish (h : Hasher) : h.finish.length = 32 := by
  simp [Hasher.finish, State.toBytes, wordBytes, bigEndian, littleEndian]

/-- The text of a hash of thirty-two bytes. -/
structure ContentHash.Spells (hash : ContentHash) (digest : Bytes) : Prop where
  length : hash.digits.toList.length = 64
  lowercase : ∀ c ∈ hash.digits.toList, c ∈ lowerHexDigits
  size : digest.length = 32
  decodes : bytesOfHex? hash.digits.toList = some digest

theorem ContentHash.ofBytes_spells (content : Bytes) :
    (ContentHash.ofBytes content).Spells (Sha256.digest content) where
  length := by
    change (hex (Sha256.digest content)).toList.length = 64
    rw [length_hex, Sha256.digest, Sha256.length_finish]
  lowercase _ hc := mem_hex hc
  size := Sha256.length_finish _
  decodes := bytesOfHex?_hex _

/-! ## What a program asks and is told -/

/-- An action and the reply to it. -/
abbrev Exchange := (a : Action) × a.Reply

namespace Program

/-- Given these replies, the program asks for these actions, one after the other, and ends with the
result. -/
def Transcript : Program α → List Exchange → α → Prop
  | .done a, exchanges, r => exchanges = [] ∧ r = a
  | .ask action next, exchanges, r =>
    ∃ reply rest, exchanges = ⟨action, reply⟩ :: rest ∧ (next reply).Transcript rest r

theorem transcript_bind {p : Program α} {f : α → Program β} {exchanges : List Exchange} {r : β} :
    (p >>= f).Transcript exchanges r ↔ ∃ first later a, exchanges = first ++ later ∧
      p.Transcript first a ∧ (f a).Transcript later r := by
  change (p.bind f).Transcript exchanges r ↔ _
  induction p generalizing exchanges with
  | done a =>
    constructor
    · intro h
      exact ⟨[], exchanges, a, rfl, ⟨rfl, rfl⟩, h⟩
    · rintro ⟨_, later, _, rfl, ⟨rfl, rfl⟩, h⟩
      exact h
  | ask action next ih =>
    simp only [Program.bind, Transcript, ih]
    constructor
    · rintro ⟨reply, _, rfl, first, later, a, rfl, hp, hf⟩
      exact ⟨_, later, a, rfl, ⟨reply, first, rfl, hp⟩, hf⟩
    · rintro ⟨_, later, a, rfl, ⟨reply, first, rfl, hp⟩, hf⟩
      exact ⟨reply, _, rfl, first, later, a, rfl, hp, hf⟩

theorem transcript_file {a : FileAction} {exchanges : List Exchange} {r : a.Reply} :
    (Program.file a).Transcript exchanges r ↔ exchanges = [⟨.file a, r⟩] := by
  constructor
  · rintro ⟨reply, _, rfl, rfl, rfl⟩
    rfl
  · rintro rfl
    exact ⟨r, [], rfl, rfl, rfl⟩

end Program

theorem Stage.transcript_lift_bind {p : Program α} {f : α → Stage ε β} {exchanges : List Exchange}
    {r : Except ε β} :
    (ExceptT.lift p >>= f : Stage ε β).run.Transcript exchanges r ↔ ∃ first later a,
      exchanges = first ++ later ∧ p.Transcript first a ∧ (f a).run.Transcript later r := by
  rw [← Program.transcript_bind, ExceptT.run_bind_lift]

/-! ## Reading in pieces -/

/-- Reads that give these pieces, one after the other. -/
def readsOf (file : Handle) : (offset : Nat) → List Bytes → List Exchange
  | _, [] => []
  | offset, piece :: rest =>
    ⟨.file (.read file offset pieceSize), .ok piece⟩ :: readsOf file (offset + piece.length) rest

/-- The error of a step of hashing that failed. -/
def Exchange.failure? : Exchange → Option SystemError
  | ⟨.file (.openRead _), .error e⟩ => some e
  | ⟨.file (.describeOpen _), .error e⟩ => some e
  | ⟨.file (.read _ _ _), .error e⟩ => some e
  | _ => none

/-- The bytes that a read gave. -/
def Exchange.piece : Exchange → Bytes
  | ⟨.file (.read _ _ _), .ok piece⟩ => piece
  | _ => []

/-- What hashing comes to: the error of the first step that fails, or the hash of the bytes that
were read. -/
def hashOutcome (exchanges : List Exchange) : Except SystemError ContentHash :=
  (exchanges.findSome? Exchange.failure?).elim
    (.ok (.ofBytes (exchanges.flatMap Exchange.piece))) .error

theorem hashOutcome_cons {x : Exchange} (rest : List Exchange) (hfailure : x.failure? = none)
    (hpiece : x.piece = []) : hashOutcome (x :: rest) = hashOutcome rest := by
  simp [hashOutcome, hfailure, hpiece]

/-- While a file is read in pieces, each byte is fed to the digest, up to the first failure. -/
theorem transcript_readPieces {file : Handle} {fuel offset : Nat} {hasher hasher' : Sha256.Hasher}
    {exchanges : List Exchange} {r : Except SystemError Unit}
    (h : (readPieces file Sha256.Hasher.update fuel offset hasher).Transcript exchanges
      (hasher', r)) :
    hasher' = hasher.update (exchanges.flatMap Exchange.piece) ∧
      r = (exchanges.findSome? Exchange.failure?).elim (.ok ()) .error := by
  induction fuel generalizing offset hasher exchanges with
  | zero =>
    obtain ⟨rfl, hr⟩ := h
    exact Prod.mk.inj hr
  | succ fuel ih =>
    rw [readPieces, Program.transcript_bind] at h
    obtain ⟨first, later, reply, rfl, hread, hrest⟩ := h
    obtain rfl := Program.transcript_file.mp hread
    rcases reply with e | _ | ⟨b, piece⟩
    · obtain ⟨rfl, hr⟩ := hrest
      exact Prod.mk.inj hr
    · obtain ⟨rfl, hr⟩ := hrest
      exact Prod.mk.inj hr
    · obtain ⟨hhasher, hr⟩ := ih hrest
      refine ⟨?_, hr⟩
      rw [hhasher, ← Sha256.Hasher.update_append]
      rfl

theorem transcript_hashOpen {file : Handle} {exchanges : List Exchange}
    {r : Except SystemError ContentHash}
    (h : (hashOpen file).run.Transcript exchanges r) : r = hashOutcome exchanges := by
  rw [hashOpen, ExceptT.run_bind, Program.transcript_bind] at h
  obtain ⟨first, reads, described, rfl, hdescribe, h⟩ := h
  obtain rfl := Program.transcript_file.mp hdescribe
  rcases described with e | status
  · obtain ⟨rfl, rfl⟩ := h
    rfl
  · obtain ⟨pieces, _, ⟨hasher, result⟩, rfl, hread, hrest⟩ := Stage.transcript_lift_bind.mp h
    obtain ⟨rfl, hresult⟩ := transcript_readPieces hread
    rw [List.singleton_append, hashOutcome_cons _ rfl rfl]
    cases hfailure : pieces.findSome? Exchange.failure? with
    | some e =>
      obtain rfl : result = .error e := hresult.trans (by rw [hfailure]; rfl)
      obtain ⟨rfl, rfl⟩ := hrest
      simp [hashOutcome, hfailure]
    | none =>
      obtain rfl : result = .ok () := hresult.trans (by rw [hfailure]; rfl)
      obtain ⟨rfl, rfl⟩ := hrest
      simp [hashOutcome, hfailure, ContentHash.ofBytes, Sha256.digest]

/-- Whatever the replies are, the hash is that of the bytes that were read, and no failure is passed
over. -/
theorem transcript_hashFile {path : Path} {exchanges : List Exchange}
    {r : Except SystemError ContentHash} (h : (hashFile path).run.Transcript exchanges r) :
    r = hashOutcome exchanges := by
  rw [hashFile, ExceptT.run_bind, Program.transcript_bind] at h
  obtain ⟨first, later, opened, rfl, hopen, h⟩ := h
  obtain rfl := Program.transcript_file.mp hopen
  rcases opened with e | file
  · obtain ⟨rfl, rfl⟩ := h
    rfl
  · rw [List.singleton_append, hashOutcome_cons _ rfl rfl]
    exact transcript_hashOpen h

/-! ## Any way to split a file -/

theorem readPieces_transcript {τ : Type} {file : Handle} {step : τ → Bytes → τ}
    {pieces : List Bytes} {fuel : Nat} (offset : Nat) (state : τ) (last : Except SystemError Unit)
    (hpieces : ∀ piece ∈ pieces, piece ≠ []) (hfuel : pieces.length < fuel) :
    (readPieces file step fuel offset state).Transcript
      (readsOf file offset pieces ++
        [⟨.file (.read file (offset + pieces.flatten.length) pieceSize), last.map fun _ => []⟩])
      (pieces.foldl step state, last) := by
  induction pieces generalizing fuel offset state with
  | nil =>
    obtain ⟨fuel, rfl⟩ := Nat.exists_eq_succ_of_ne_zero (Nat.ne_of_gt hfuel)
    rw [readPieces, Program.transcript_bind]
    refine ⟨_, [], _, (List.append_nil _).symm, Program.transcript_file.mpr rfl, ?_⟩
    rcases last with e | ⟨⟩
    · exact ⟨rfl, rfl⟩
    · exact ⟨rfl, rfl⟩
  | cons piece rest ih =>
    obtain ⟨hpiece, hrest⟩ := List.forall_mem_cons.mp hpieces
    obtain ⟨fuel, rfl⟩ := Nat.exists_eq_succ_of_ne_zero (Nat.ne_of_gt (Nat.zero_lt_of_lt hfuel))
    obtain ⟨b, more, rfl⟩ := List.exists_cons_of_ne_nil hpiece
    rw [readPieces, Program.transcript_bind]
    refine ⟨[⟨.file (.read file offset pieceSize), .ok (b :: more)⟩], _, _, rfl,
      Program.transcript_file.mpr rfl, ?_⟩
    have hnext := ih (offset + (b :: more).length) (step state (b :: more)) hrest
      (Nat.lt_of_succ_lt_succ hfuel)
    rw [Nat.add_assoc, ← List.length_append, ← List.flatten_cons] at hnext
    exact hnext

/-- What is exchanged while a file that gives these pieces is hashed, up to the read that finds its
end or fails. -/
def hashExchanges (path : Path) (file : Handle) (status : FileStatus) (pieces : List Bytes)
    (last : Except SystemError Unit) : List Exchange :=
  ⟨.file (.openRead path), .ok file⟩ :: ⟨.file (.describeOpen file), .ok status⟩ ::
    (readsOf file 0 pieces ++
      [⟨.file (.read file pieces.flatten.length pieceSize), last.map fun _ => []⟩])

theorem length_le_flatten {pieces : List Bytes} (h : ∀ piece ∈ pieces, piece ≠ []) :
    pieces.length ≤ pieces.flatten.length := by
  induction pieces with
  | nil => exact Nat.le_refl _
  | cons piece rest ih =>
    obtain ⟨hpiece, hrest⟩ := List.forall_mem_cons.mp h
    have hpos := List.length_pos_iff.mpr hpiece
    have hle := ih hrest
    rw [List.flatten_cons, List.length_append, List.length_cons]
    omega

/-- A file is hashed in whatever pieces it is read. A read that fails is reported. -/
theorem hashFile_transcript {pieces : List Bytes} {status : FileStatus} (path : Path)
    (file : Handle) (last : Except SystemError Unit) (hpieces : ∀ piece ∈ pieces, piece ≠ [])
    (hsize : pieces.flatten.length ≤ status.size) :
    (hashFile path).run.Transcript (hashExchanges path file status pieces last)
      (last.map fun _ => ContentHash.ofBytes pieces.flatten) := by
  have hfuel : pieces.length < status.size + 1 :=
    Nat.lt_succ_of_le ((length_le_flatten hpieces).trans hsize)
  have hread : (readPieces file Sha256.Hasher.update (status.size + 1) 0 {}).Transcript _ _ :=
    readPieces_transcript 0 ({} : Sha256.Hasher) last hpieces hfuel
  rw [Nat.zero_add, update_pieces] at hread
  rw [hashFile, ExceptT.run_bind, Program.transcript_bind]
  refine ⟨[_], _, _, rfl, Program.transcript_file.mpr rfl, ?_⟩
  change (hashOpen file).run.Transcript _ _
  rw [hashOpen, ExceptT.run_bind, Program.transcript_bind]
  refine ⟨[_], _, _, rfl, Program.transcript_file.mpr rfl, ?_⟩
  refine Stage.transcript_lift_bind.mpr ⟨_, [], _, (List.append_nil _).symm, hread, ?_⟩
  rcases last with e | ⟨⟩
  · exact ⟨rfl, rfl⟩
  · exact ⟨rfl, rfl⟩

theorem hashFile_of_offers {m : Machine} {path : Path} {content : Bytes}
    (h : m.Offers path content) :
    m.answers (hashFile path).run = .ok (ContentHash.ofBytes content) := by
  obtain ⟨place, data, hfind, hreads, rfl⟩ := h
  let w : World Unit := { machine := m, runner := () }
  obtain ⟨hash, hrun⟩ : ∃ hash, w.Runs idleRunner Refusals.never (hashFile path).run (.ok hash) w :=
    hashFile_ends hfind hreads
  obtain ⟨place', node, hfind', hhash⟩ := runs_hashFile hrun
  obtain ⟨rfl, rfl⟩ := Prod.mk.inj (Except.ok.inj (hfind'.symm.trans hfind))
  rw [← hrun.answers Refusals.never_candid (hashFile_only path), hhash _ (holds_of_find hfind)]

/-- A full piece, a short one and another, as a file of this size may be read. -/
def shortReads : List Bytes := [List.replicate pieceSize 0x61, [0x62], [0x63, 0x64]]

def shortReadsStatus : FileStatus := ⟨.regular, pieceSize + 3, 0, 0, 0⟩

/-- What a line of a checksum file says. -/
structure ChecksumEntry where
  hash : ContentHash
  name : String
  deriving DecidableEq

namespace ChecksumEntry

def line (entry : ChecksumEntry) : String := entry.hash.checksumLine entry.name

/-- A line without its end: sixty-four hexadecimal digits, two spaces, and the name. -/
def ofLine? (line : List Char) : Option ChecksumEntry :=
  let digits := line.take 64
  match line.drop 64 with
  | ' ' :: ' ' :: name =>
    if digits.all fun c => (hexDigitValue? c).isSome then
      some ⟨⟨String.ofList digits⟩, String.ofList name⟩
    else none
  | _ => none

/-- The entry of a text that is one line. -/
def read? (text : String) : Option ChecksumEntry :=
  match Tool.linesOf text.toList with
  | [line] => ofLine? line
  | _ => none

/-- The entries of a text, one for each line. -/
def readAll? (text : String) : Option (List ChecksumEntry) :=
  (Tool.linesOf text.toList).mapM ofLine?

end ChecksumEntry

/-! ## Hashes that were computed -/

/-- A hash of bytes, or one that hashing a file came to. -/
inductive ContentHash.Computed : ContentHash → Prop
  | bytes (content : Bytes) : Computed (.ofBytes content)
  | file {path : Path} {exchanges : List Exchange} {hash : ContentHash}
    (h : (hashFile path).run.Transcript exchanges (.ok hash)) : Computed hash

theorem ContentHash.Computed.exists_content (h : hash.Computed) :
    ∃ content, hash = .ofBytes content := by
  cases h with
  | bytes content => exact ⟨content, rfl⟩
  | @file _ exchanges _ h =>
    have hok := transcript_hashFile h
    rw [hashOutcome] at hok
    cases hfailure : exchanges.findSome? Exchange.failure? with
    | none =>
      rw [hfailure] at hok
      exact ⟨_, Except.ok.inj hok⟩
    | some e =>
      rw [hfailure] at hok
      nomatch hok

theorem ContentHash.Computed.length (h : hash.Computed) : hash.digits.toList.length = 64 := by
  obtain ⟨content, rfl⟩ := h.exists_content
  exact (ofBytes_spells content).length

theorem ContentHash.Computed.lowercase (h : hash.Computed) :
    ∀ c ∈ hash.digits.toList, c ∈ lowerHexDigits := by
  obtain ⟨content, rfl⟩ := h.exists_content
  exact (ofBytes_spells content).lowercase

theorem lowerHexDigits_hex : ∀ c ∈ lowerHexDigits, isHexChar c = true :=
  List.all_eq_true.mp (by decide)

theorem lowerHexDigits_value : ∀ c ∈ lowerHexDigits, (hexDigitValue? c).isSome = true :=
  List.all_eq_true.mp (by decide)

theorem lowerHexDigits_ascii : ∀ c ∈ lowerHexDigits, c.toNat < 128 :=
  List.all_iff_forall_prop.mp (by decide)

theorem lineFeed_not_mem_lowerHexDigits : '\n' ∉ lowerHexDigits := by decide

/-! ## Lines one after the other -/

theorem Tool.linesOf_append {line : List Char} (rest : List Char) (h : '\n' ∉ line) :
    Tool.linesOf (line ++ '\n' :: rest) = line :: Tool.linesOf rest := by
  induction line with
  | nil => simp [Tool.linesOf, Tool.splitAtChar]
  | cons c line ih =>
    obtain ⟨hc, hline⟩ := not_or.mp (List.mem_cons.not.mp h)
    have hsplit : Tool.splitAtChar '\n' (line ++ '\n' :: rest) = line :: Tool.linesOf rest :=
      ih hline
    rw [Tool.linesOf, List.cons_append, Tool.splitAtChar, if_neg (Ne.symm hc), hsplit]

/-- Where each item is written as one line, a reader of lines reads a list of items one by one. -/
theorem mapM_linesOf {α β : Type} {write : α → List Char} {read : List Char → Option β} {f : α → β}
    {items : List α} (hline : ∀ item ∈ items, '\n' ∉ write item)
    (hread : ∀ item ∈ items, read (write item) = some (f item)) :
    (Tool.linesOf (items.flatMap fun item => write item ++ ['\n'])).mapM read =
      some (items.map f) := by
  induction items with
  | nil => rfl
  | cons item rest ih =>
    obtain ⟨hitem, hrest⟩ := List.forall_mem_cons.mp hline
    obtain ⟨hfirst, hothers⟩ := List.forall_mem_cons.mp hread
    rw [List.flatMap_cons, List.append_assoc, List.singleton_append, Tool.linesOf_append _ hitem,
      List.mapM_cons, hfirst, ih hrest hothers]
    rfl

/-! ## Entries -/

namespace ChecksumEntry

variable {entry : ChecksumEntry}

/-- A computed hash with a name that fits on a line. -/
structure Listable (entry : ChecksumEntry) : Prop where
  hash : entry.hash.Computed
  name : '\n' ∉ entry.name.toList

/-- A line without its end. -/
def body (entry : ChecksumEntry) : List Char :=
  entry.hash.digits.toList ++ ' ' :: ' ' :: entry.name.toList

theorem toList_line (entry : ChecksumEntry) : entry.line.toList = entry.body ++ ['\n'] := by
  simp [line, ContentHash.checksumLine, body]

theorem toList_join_line (entries : List ChecksumEntry) :
    (String.join (entries.map line)).toList =
      entries.flatMap fun entry => entry.body ++ ['\n'] := by
  rw [String.toList_join, List.flatMap_map]
  simp only [toList_line]

theorem Listable.lineFeed_not_mem_digits (h : entry.Listable) :
    '\n' ∉ entry.hash.digits.toList := by
  intro hmem
  exact lineFeed_not_mem_lowerHexDigits (h.hash.lowercase _ hmem)

theorem Listable.lineFeed_not_mem_body (h : entry.Listable) : '\n' ∉ entry.body := by
  simp [body, h.lineFeed_not_mem_digits, h.name]

theorem Listable.ofLine?_body (h : entry.Listable) : ofLine? entry.body = some entry := by
  have hlength := h.hash.length
  have htake : entry.body.take 64 = entry.hash.digits.toList := List.take_left' hlength
  have hdrop : entry.body.drop 64 = ' ' :: ' ' :: entry.name.toList := List.drop_left' hlength
  have hhex : entry.hash.digits.toList.all (fun c => (hexDigitValue? c).isSome) = true :=
    List.all_eq_true.mpr fun c hc => lowerHexDigits_value c (h.hash.lowercase c hc)
  simp only [ofLine?, htake, hdrop, hhex, if_true, String.ofList_toList]

theorem Listable.read?_line (h : entry.Listable) : read? entry.line = some entry := by
  have hlines : Tool.linesOf entry.line.toList = [entry.body] := by
    rw [toList_line]
    exact Tool.linesOf_append [] h.lineFeed_not_mem_body
  rw [read?, hlines]
  exact h.ofLine?_body

end ChecksumEntry

/-! ## What programs read -/

namespace Shell.Text

theorem ofString_append (s t : String) :
    Text.ofString (s ++ t) = Text.ofString s ++ Text.ofString t := by
  simp [Text.ofString, Text.ofBytes, Utf8.encode]

theorem ofString_join (parts : List String) :
    Text.ofString (String.join parts) = parts.flatMap Text.ofString := by
  have hpart : Text.ofString = fun s =>
      (s.toList.flatMap String.utf8EncodeChar).map fun b => Char.ofNat b.toNat := rfl
  rw [hpart]
  simp [String.toList_join, List.flatMap_assoc, List.map_flatMap]

theorem ofString_ascii {s : String} (h : ∀ c ∈ s.toList, c.toNat < 128) :
    Text.ofString s = s.toList := by
  rw [Text.ofString, Text.ofBytes, Utf8.encode]
  generalize s.toList = chars at h ⊢
  induction chars with
  | nil => rfl
  | cons c rest ih =>
    obtain ⟨hc, hrest⟩ := List.forall_mem_cons.mp h
    rw [List.flatMap_cons, List.map_append, Utf8.encodeChar_ascii hc, ih hrest, List.map_singleton,
      UInt8.toNat_ofNat', Nat.mod_eq_of_lt (by omega), Char.ofNat_toNat]
    rfl

theorem lineFeed_mem_ofString {s : String} (h : '\n' ∈ Text.ofString s) : '\n' ∈ s.toList := by
  obtain ⟨b, hb, hchar⟩ := List.mem_map.mp h
  have hvalid : b.toNat.isValidChar := Or.inl (b.toNat_lt.trans (by decide))
  have hvalue := congrArg Char.toNat hchar
  rw [Char.ofNat, dif_pos hvalid] at hvalue
  have hbyte : b = lineFeed := UInt8.toNat_inj.mp hvalue
  exact lineFeed_mem_encode.mp (hbyte ▸ hb)

theorem ofString_ne_nil {s : String} (h : s ≠ "") : Text.ofString s ≠ [] := by
  intro hnil
  have hdecode := Utf8.decode?_encode s
  rw [List.map_eq_nil_iff.mp hnil] at hdecode
  exact h (Option.some.inj hdecode).symm

end Shell.Text

/-- A line that begins with a digit has no blanks before it and no mark of an escaped name, and does
not name its kind. -/
theorem lowerHexDigits_plain :
    ∀ c ∈ lowerHexDigits, Shell.isBlankChar c = false ∧ c ≠ '\\' ∧ c ≠ 'S' :=
  List.all_iff_forall_prop.mp (by decide)

theorem readSumLine?_digits {sum name : Text} (hlength : sum.length = 64)
    (hsum : ∀ c ∈ sum, c ∈ lowerHexDigits) (hname : name ≠ []) :
    Tool.readSumLine? Tool.sha256Kind (sum ++ ' ' :: ' ' :: name) = some (sum, name) := by
  have htake : (sum ++ ' ' :: ' ' :: name).takeWhile isHexChar = sum := by
    rw [List.takeWhile_append_of_pos fun c hc => lowerHexDigits_hex c (hsum c hc),
      List.takeWhile_cons_of_neg (by decide), List.append_nil]
  have hdrop : (sum ++ ' ' :: ' ' :: name).drop sum.length = ' ' :: ' ' :: name := List.drop_left
  obtain ⟨c, rest, rfl⟩ := List.exists_cons_of_length_pos (l := sum) (by omega)
  obtain ⟨hblank, hescaped, hS⟩ := lowerHexDigits_plain c (hsum c List.mem_cons_self)
  have hstart : (c :: rest ++ ' ' :: ' ' :: name).dropWhile Shell.isBlankChar =
      c :: rest ++ ' ' :: ' ' :: name := List.dropWhile_cons_of_neg (by simp [hblank])
  have htag : Tool.readTaggedLine? Tool.sha256Kind (c :: rest ++ ' ' :: ' ' :: name) = none := by
    have hprefix :
        Tool.sha256Kind.tag.toList.isPrefixOf (c :: rest ++ ' ' :: ' ' :: name) = false := by
      change (('S' == c) && _) = false
      rw [beq_eq_false_iff_ne.mpr hS.symm, Bool.false_and]
    rw [Tool.readTaggedLine?, hprefix]
    rfl
  have hplain : ((c :: rest ++ ' ' :: ' ' :: name).head? = some '\\') = False := by
    simp [hescaped]
  simp only [Tool.readSumLine?, hstart, hplain, if_false, htag, htake, hdrop]
  simp [hlength, hname, Tool.sha256Kind]

namespace ChecksumEntry

variable {entry : ChecksumEntry}

/-- A line without its end, as programs are given it. -/
def text (entry : ChecksumEntry) : Text :=
  entry.hash.digits.toList ++ ' ' :: ' ' :: Text.ofString entry.name

theorem Listable.ofString_line (h : entry.Listable) :
    Text.ofString entry.line = entry.text ++ ['\n'] := by
  have hdigits : Text.ofString entry.hash.digits = entry.hash.digits.toList :=
    Text.ofString_ascii fun c hc => lowerHexDigits_ascii c (h.hash.lowercase c hc)
  have hspaces : Text.ofString "  " = [' ', ' '] := by decide
  have hend : Text.ofString "\n" = ['\n'] := by decide
  rw [line, ContentHash.checksumLine, Text.ofString_append, Text.ofString_append,
    Text.ofString_append, hdigits, hspaces, hend, text]
  simp

theorem Listable.lineFeed_not_mem_text (h : entry.Listable) : '\n' ∉ entry.text := by
  have hname : '\n' ∉ Text.ofString entry.name := fun hmem =>
    h.name (Text.lineFeed_mem_ofString hmem)
  simp [text, h.lineFeed_not_mem_digits, hname]

theorem mapM_readSumLine? {entries : List ChecksumEntry} (h : ∀ entry ∈ entries, entry.Listable)
    (hname : ∀ entry ∈ entries, entry.name ≠ "") :
    (Tool.linesOf (Text.ofString (String.join (entries.map line)))).mapM
        (Tool.readSumLine? Tool.sha256Kind) =
      some (entries.map fun entry => (entry.hash.digits.toList, Text.ofString entry.name)) := by
  have htext : Text.ofString (String.join (entries.map line)) =
      entries.flatMap fun entry => entry.text ++ ['\n'] := by
    rw [Text.ofString_join, List.flatMap_map]
    exact List.flatMap_congr fun entry hentry => (h entry hentry).ofString_line
  rw [htext]
  refine mapM_linesOf (fun entry hentry => (h entry hentry).lineFeed_not_mem_text) ?_
  intro entry hentry
  exact readSumLine?_digits (h entry hentry).hash.length (h entry hentry).hash.lowercase
    (Text.ofString_ne_nil (hname entry hentry))

end ChecksumEntry

/-- Checksum lines are read back. For computed hashes and names without line ends, a list of lines
gives the entries that were written, each line on its own gives its entry, and so two lines are the
same only if hash and name are. The sum program that checks such lists takes the same digits and
names from their bytes. -/
theorem checksum_lines_read_back {entries : List ChecksumEntry}
    (h : ∀ entry ∈ entries, entry.Listable) :
    ChecksumEntry.readAll? (String.join (entries.map ChecksumEntry.line)) = some entries ∧
      (∀ entry ∈ entries, ChecksumEntry.read? entry.line = some entry) ∧
      (∀ entry ∈ entries, ∀ other ∈ entries, entry.line = other.line ↔
        entry.hash = other.hash ∧ entry.name = other.name) ∧
      ((∀ entry ∈ entries, entry.name ≠ "") →
        (Tool.linesOf (Text.ofString (String.join (entries.map ChecksumEntry.line)))).mapM
            (Tool.readSumLine? Tool.sha256Kind) =
          some (entries.map fun entry =>
            (entry.hash.digits.toList, Text.ofString entry.name))) := by
  refine ⟨?_, fun entry hentry => (h entry hentry).read?_line, ?_,
    ChecksumEntry.mapM_readSumLine? h⟩
  · have hread := mapM_linesOf (f := id)
      (fun entry hentry => (h entry hentry).lineFeed_not_mem_body)
      fun entry hentry => (h entry hentry).ofLine?_body
    rw [ChecksumEntry.readAll?, ChecksumEntry.toList_join_line, hread, List.map_id]
  · intro entry hentry other hother
    constructor
    · intro hline
      have hread := (h entry hentry).read?_line
      rw [hline, (h other hother).read?_line, Option.some.injEq] at hread
      exact ⟨congrArg ChecksumEntry.hash hread.symm, congrArg ChecksumEntry.name hread.symm⟩
    · rintro ⟨hhash, hname⟩
      rw [ChecksumEntry.line, ChecksumEntry.line, hhash, hname]

/-- Names that look like other parts of a line. -/
def deceptiveEntries : List ChecksumEntry :=
  [⟨.ofBytes [], "  *two  spaces"⟩, ⟨.ofBytes [0x61], "\\n0123456789abcdef  "⟩,
    ⟨.ofBytes [], "SHA256 (é) = 0"⟩]

theorem deceptive_entries_read_back :
    (∀ entry ∈ deceptiveEntries, entry.Listable) ∧
      ChecksumEntry.readAll? (String.join (deceptiveEntries.map ChecksumEntry.line)) =
        some deceptiveEntries := by
  have h : ∀ entry ∈ deceptiveEntries, entry.Listable := by
    simp only [deceptiveEntries, List.forall_mem_cons]
    exact ⟨⟨.bytes [], by decide⟩, ⟨.bytes [0x61], by decide⟩, ⟨.bytes [], by decide⟩, by simp⟩
  exact ⟨h, (checksum_lines_read_back h).1⟩

end Slipway
