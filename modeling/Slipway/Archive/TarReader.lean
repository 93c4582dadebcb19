import Slipway.Archive.Tar
import Slipway.Text.Basic

/-!
# Reading tar archives

A reader that checks the checksum of each header and ends at the first empty block, or where the
stream ends between two blocks. Records about the next entry are not entries of their own: they
carry a name that is too long for its field, or extensions with a name, a size or an owner.
-/

namespace Slipway.Tar

structure Entry where
  name : Bytes
  mode : Nat
  owner : Nat
  group : Nat
  size : Nat
  modified : Nat
  type : UInt8
  /-- The eight bytes that tell the dialect of the header. -/
  magic : Bytes
  content : Bytes
  deriving DecidableEq

/-! ## Fields -/

/-- The bytes before the first NUL. -/
def readText (field : Bytes) : Bytes := field.takeWhile (· ≠ 0)

/-- A number in octal digits, with blanks around it. -/
def readOctal? (field : Bytes) : Option Nat := do
  let text ← Utf8.decode? (readText field)
  readWord? 8 (trimBlanks text)

/-- A number in octal digits, or in binary when the highest bit of the field is set. -/
def readNumber? (field : Bytes) : Option Nat :=
  match field with
  | [] => none
  | first :: rest =>
    if 0x80 ≤ first then
      some (((first &&& 0x7f) :: rest).foldl (fun n b => n * 256 + b.toNat) 0 % Nat.pow 2 64)
    else readOctal? field

def slice (bytes : Bytes) (offset count : Nat) : Bytes := (bytes.drop offset).take count

/-! ## Dialects -/

inductive Dialect
  | plain
  /-- A name may have a part of its own before it. -/
  | ustar
  | gnu
  deriving DecidableEq

def magicOf (block : Bytes) : Bytes := slice block 257 8

def dialectOf (magic : Bytes) : Dialect :=
  if magic = Utf8.encode "ustar" ++ [0, 48, 48] then .ustar
  else if magic = Utf8.encode "ustar  " ++ [0] then .gnu
  else .plain

/-- The name in a header. -/
def nameOf (block : Bytes) : Bytes :=
  let name := readText (slice block 0 nameWidth)
  let before := readText (slice block 345 155)
  if dialectOf (magicOf block) = .ustar ∧ !before.isEmpty then before ++ [47] ++ name else name

/-! ## Extensions -/

/-- The bytes between line ends. -/
def splitLines : Bytes → List Bytes
  | [] => [[]]
  | b :: rest =>
    match splitLines rest with
    | [] => [[b]]
    | line :: more => if b = 10 then [] :: line :: more else (b :: line) :: more

/-- A key and its value. The line starts with its own length, the line end included. -/
def readExtension? (line : Bytes) : Option (Bytes × Bytes) := do
  let digits := line.takeWhile (· ≠ 32)
  let rest := line.drop (digits.length + 1)
  let count ← (Utf8.decode? digits).bind (readWord? 10)
  if line.length ≤ digits.length ∨ count ≠ line.length + 1 then failure
  let key := rest.takeWhile (· ≠ 61)
  if rest.length ≤ key.length then failure
  pure (key, rest.drop (key.length + 1))

/-- The extensions up to the first empty line; `none` stands for a line that is none. -/
def extensionsOf (content : Bytes) : List (Option (Bytes × Bytes)) :=
  ((splitLines content).takeWhile (!·.isEmpty)).map readExtension?

/-- The first name among the extensions. -/
def extendedName? (extensions : List (Option (Bytes × Bytes))) : Option Bytes :=
  ((extensions.filterMap id).find? (·.1 = Utf8.encode "path")).map (·.2)

/-- The first number for a key, unless a line before it is broken. -/
def extendedNumber? (key : String) : List (Option (Bytes × Bytes)) → Option Nat
  | some (k, value) :: rest =>
    if k = Utf8.encode key then (Utf8.decode? value).bind (readWord? 10)
    else extendedNumber? key rest
  | _ => none

/-! ## Headers and entries -/

/-- What the records before an entry say about it. -/
structure Foreword where
  longName : Option Bytes := none
  longTarget : Option Bytes := none
  extensions : Option (List (Option (Bytes × Bytes))) := none

def Foreword.isEmpty (f : Foreword) : Bool :=
  f.longName.isNone && f.longTarget.isNone && f.extensions.isNone

/-- The sum of a header's bytes, with the checksum's field counted as blanks. -/
def headerSum (block : Bytes) : Nat :=
  sum (block.take 148) + 8 * 32 + sum (block.drop 156)

def hasChecksum (block : Bytes) : Bool :=
  (readOctal? (slice block 148 8)).map (· % Nat.pow 2 32) = some (headerSum block)

/-- The long name, without the NUL behind it. -/
def Foreword.name? (f : Foreword) : Option Bytes :=
  match f.longName with
  | some name => some (if name.getLast? = some 0 then name.dropLast else name)
  | none => f.extensions.bind extendedName?

/-- The type of an old file is that of a file. -/
def typeOf (block : Bytes) : UInt8 :=
  match slice block 156 1 with
  | [] | [0] => EntryType.regular.flag
  | flag :: _ => flag

/-- An entry without its content, from its header's block. -/
def readHeader? (before : Foreword) (block : Bytes) : Option Entry := do
  if block.length ≠ blockSize ∨ !hasChecksum block then failure
  let extensions := before.extensions.getD []
  let size ← readNumber? (slice block 124 12)
  pure {
    name := before.name?.getD (nameOf block)
    mode := (← readOctal? (slice block 100 8)) % Nat.pow 2 32
    owner := ← (extendedNumber? "uid" extensions).or (readNumber? (slice block 108 8))
    group := ← (extendedNumber? "gid" extensions).or (readNumber? (slice block 116 8))
    size := if size = 0 then (extendedNumber? "size" extensions).getD 0 else size
    modified := ← readNumber? (slice block 136 12)
    type := typeOf block
    magic := magicOf block
    content := [] }

/-- The next entry and what follows it. -/
def readEntry? (before : Foreword) (stream : Bytes) : Option (Entry × Bytes) := do
  let entry ← readHeader? before (stream.take blockSize)
  let body := stream.drop blockSize
  if body.length < entry.size + padLength entry.size then failure
  pure ({ entry with content := body.take entry.size },
    body.drop (entry.size + padLength entry.size))

/-- What an entry says about the next one, if it is a record of that kind. There is only one of
each kind for an entry. -/
def Foreword.add? (before : Foreword) (entry : Entry) : Option (Option Foreword) :=
  if dialectOf entry.magic = .plain then none
  else if entry.type = 76 then
    some (if before.longName.isSome then none else some { before with longName := entry.content })
  else if entry.type = 75 then
    some (if before.longTarget.isSome then none
      else some { before with longTarget := entry.content })
  else if entry.type = 120 then
    some (if before.extensions.isSome then none
      else some { before with extensions := extensionsOf entry.content })
  else none

/-- Whether the stream goes on with an empty block. -/
def atEmptyBlock (stream : Bytes) : Bool :=
  blockSize ≤ stream.length ∧ (stream.take blockSize).all (· = 0)

/-- The entries up to the end, and the rest of the stream from there on. -/
def readEntries? : (fuel : Nat) → Foreword → Bytes → Option (List Entry × Bytes)
  | 0, _, _ => none
  | fuel + 1, before, stream =>
    if stream.isEmpty || atEmptyBlock stream then
      if before.isEmpty then some ([], stream) else none
    else do
      let (entry, rest) ← readEntry? before stream
      match before.add? entry with
      | some none => none
      | some (some before) => readEntries? fuel before rest
      | none =>
        let (more, behind) ← readEntries? fuel {} rest
        pure (entry :: more, behind)

/-- The entries of an archive, and what follows them. -/
def read? (stream : Bytes) : Option (List Entry × Bytes) :=
  readEntries? (stream.length / blockSize + 2) {} stream

end Slipway.Tar
