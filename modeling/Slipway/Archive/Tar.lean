import Slipway.Path
import Slipway.SystemError
import Slipway.Text.Basic

/-!
# Tar archives

Writing one file into an archive with GNU headers. A name that is too long for its field goes into
a record of its own before the file's header.
-/

namespace Slipway.Tar

def blockSize : Nat := 512

/-- Zeros that fill up the last block of `n` bytes. -/
def padLength (n : Nat) : Nat := (blockSize - n % blockSize) % blockSize

def padded (bytes : Bytes) : Bytes := bytes ++ List.replicate (padLength bytes.length) 0

/-- Two empty blocks end an archive. -/
def terminator : Bytes := List.replicate (2 * blockSize) 0

/-! ## Fields -/

/-- A number in octal digits with a NUL behind them. -/
def octalField (width n : Nat) : Bytes :=
  Utf8.encode (String.ofList (fixedDigits 8 (width - 1) n)) ++ [0]

/-- A number in binary, the highest byte first, with the highest bit of the field set. -/
def binaryField (width n : Nat) : Bytes :=
  match List.replicate (width - 8) 0 ++ bigEndian 8 (n % Nat.pow 2 64) with
  | [] => []
  | first :: rest => (first ||| 0x80) :: rest

/-- Octal digits while they fit, the binary form for larger numbers. -/
def numberField (width n : Nat) : Bytes :=
  if n < Nat.pow 8 (width - 1) then octalField width n else binaryField width n

/-- `bytes` in a field of `width` zeros. -/
def textField (width : Nat) (bytes : Bytes) : Bytes :=
  bytes ++ List.replicate (width - bytes.length) 0

/-! ## Headers -/

inductive EntryType
  | regular
  | directory
  | device
  | longName
  deriving DecidableEq

def EntryType.flag : EntryType → UInt8
  | .regular => 48
  | .device => 51
  | .directory => 53
  | .longName => 76

structure Header where
  /-- The name field, all of its hundred bytes. -/
  name : Bytes
  mode : Nat
  owner : Nat
  group : Nat
  size : Nat
  modified : Nat
  type : EntryType
  /-- Whether the two device number fields are filled in. -/
  deviceNumbers : Bool

/-- The part of a header before its checksum. -/
def Header.front (h : Header) : Bytes :=
  h.name ++ octalField 8 h.mode ++ numberField 8 h.owner ++ numberField 8 h.group
    ++ numberField 12 h.size ++ numberField 12 h.modified

/-- The part of a header behind its checksum. -/
def Header.back (h : Header) : Bytes :=
  let device := if h.deviceNumbers then octalField 8 0 else List.replicate 8 0
  [h.type.flag] ++ List.replicate 100 0 ++ Utf8.encode "ustar  " ++ [0] ++ List.replicate 64 0
    ++ device ++ device ++ List.replicate 167 0

def sum (bytes : Bytes) : Nat := bytes.foldl (fun total b => total + b.toNat) 0

/-- The header's block. Its checksum counts the checksum's own field as blanks. -/
def Header.toBytes (h : Header) : Bytes :=
  let total := sum h.front + 8 * 32 + sum h.back
  h.front ++ octalField 8 total ++ h.back

/-! ## Names -/

def nameWidth : Nat := 100

/-- A part of a name that has to be stored. -/
inductive NamePart
  | text (bytes : Bytes)
  | up
  | root
  deriving DecidableEq

/-- The parts of a name; `.` is only a part when it is the whole name. -/
def nameParts (name : String) : List NamePart :=
  let path : Path := ⟨name⟩
  let parts := path.names.map
    (fun n => if n = ".." then NamePart.up else .text (Utf8.encode n))
  if path.isAbsolute then .root :: parts
  else if parts.isEmpty ∧ path.start = ['.'] then [.text (Utf8.encode ".")]
  else parts

/-- Why a name cannot be stored. -/
inductive NameError
  | notRelative
  | goesUp
  | tooLong
  | holdsNul
  | empty
  deriving DecidableEq

def NameError.message : NameError → String
  | .notRelative => "paths in archives must be relative"
  | .goesUp => "paths in archives must not have `..`"
  | .tooLong => "provided value is too long"
  | .holdsNul => "provided value contains a nul byte"
  | .empty => "paths in archives must have at least one component"

/-- Appends `more` to what is written of a field. -/
def extend (written more : Bytes) : Except NameError Bytes :=
  if nameWidth < written.length + more.length then .error .tooLong
  else if more.contains 0 then .error .holdsNul
  else .ok (written ++ more)

/-- What a part puts into the field. With `cut` the name is the beginning of a longer one, so
`..` may stand at its end. -/
def NamePart.bytes (cut isLast : Bool) : NamePart → Except NameError Bytes
  | .root => .error .notRelative
  | .up => if cut && isLast then .ok (Utf8.encode "..") else .error .goesUp
  | .text bytes => .ok bytes

/-- Writes the parts with a slash between each two. The result is what got written, and the error
that stopped it. -/
def storeParts (cut : Bool) : (written : Bytes) → List NamePart → Bytes × Option NameError
  | written, [] => (written, none)
  | written, part :: rest =>
    match part.bytes cut rest.isEmpty with
    | .error e => (written, some e)
    | .ok bytes =>
      match (if written.isEmpty then .ok written else extend written [47]) with
      | .error e => (written, some e)
      | .ok opened =>
        match extend opened bytes with
        | .error e => (opened, some e)
        | .ok all => storeParts cut all rest

/-- Lays `written` over the beginning of a field, with a NUL behind it if there is room. -/
def overlay (field written : Bytes) : Bytes :=
  let ended := if written.length < field.length then written ++ [0] else written
  ended ++ field.drop ended.length

/-- The field after an attempt to store `name` in it. -/
def storeName (cut : Bool) (field : Bytes) (name : String) : Bytes × Option NameError :=
  let parts := nameParts name
  match storeParts cut [] parts with
  | (written, some e) => (if written.isEmpty then field else overlay field written, some e)
  | (written, none) =>
    if parts.isEmpty then (field, some .empty)
    else if Path.endsInSeparator ⟨name⟩ then
      match extend written [47] with
      | .ok all => (overlay field all, none)
      | .error e => (overlay field written, some e)
    else (overlay field written, none)

/-- The error of a refused name tells what its field holds. -/
def refusal (e : NameError) (field : Bytes) : SystemError :=
  .described .other
    (e.message ++ " when setting path for " ++ Utf8.decodeLossy (field.takeWhile (· ≠ 0)))

/-! ## Entries -/

def longNameRecord (name : Bytes) : Bytes :=
  let header : Header := {
    name := textField nameWidth (Utf8.encode "././@LongLink"), mode := 0o644, owner := 0
    group := 0, size := name.length + 1, modified := 0, type := .longName
    deviceNumbers := false }
  header.toBytes ++ padded (name ++ [0])

/-- The longest beginning of at most a hundred bytes that ends between two characters. -/
def cutName (name : String) : String :=
  go nameWidth (name.toList) []
where
  go : (room : Nat) → List Char → List Char → String
    | _, [], taken => String.ofList taken.reverse
    | room, c :: rest, taken =>
      if c.utf8Size ≤ room then go (room - c.utf8Size) rest (c :: taken)
      else String.ofList taken.reverse

/-- The records before an entry's header and the entry's name field, or the refusal. -/
def place (name : String) : Except SystemError (Bytes × Bytes) :=
  let empty := List.replicate nameWidth 0
  match storeName false empty name with
  | (field, none) => .ok ([], field)
  | (field, some e) =>
    let bytes := Utf8.encode name
    if bytes.length < nameWidth then .error (refusal e field)
    else
      match storeName true field (cutName name) with
      | (field, none) => .ok (longNameRecord bytes, field)
      | (field, some e) => .error (refusal e field)

end Slipway.Tar
