import Slipway.Archive.TarReader

/-!
# Members of tar archives

A member as an archiver keeps it: links among files and the names of owners included. A long name or
target goes into a record of its own before the header. The reader takes the members off a stream
one by one and tells how the stream ends.
-/

namespace Slipway.Tar

inductive MemberKind
  | file
  | hardLink
  | symbolicLink
  | directory
  | other (flag : UInt8)
  deriving DecidableEq

def MemberKind.flag : MemberKind → UInt8
  | .file => 48
  | .hardLink => 49
  | .symbolicLink => 50
  | .directory => 53
  | .other flag => flag

def MemberKind.ofFlag (flag : UInt8) : MemberKind :=
  if flag = 48 then .file else if flag = 49 then .hardLink else if flag = 50 then .symbolicLink
  else if flag = 53 then .directory else .other flag

structure Member where
  name : Bytes
  kind : MemberKind
  mode : Nat
  owner : Nat := 0
  group : Nat := 0
  ownerName : Bytes := []
  groupName : Bytes := []
  modified : Nat := 0
  /-- Where a link leads. -/
  target : Bytes := []
  content : Bytes := []

namespace Member

/-! ## Writing -/

/-- The header's block. The sum of its bytes has six digits, a NUL and a blank. -/
def header (m : Member) : Bytes :=
  let front := textField 100 (m.name.take 100) ++ octalField 8 m.mode ++ numberField 8 m.owner
    ++ numberField 8 m.group ++ numberField 12 m.content.length ++ numberField 12 m.modified
  let back := m.kind.flag :: textField 100 (m.target.take 100) ++ Utf8.encode "ustar  " ++ [0]
    ++ textField 32 (m.ownerName.take 31) ++ textField 32 (m.groupName.take 31)
    ++ List.replicate 183 0
  let total := sum front + 8 * 32 + sum back
  front ++ octalField 7 total ++ [32] ++ back

def longRecord (flag : UInt8) (text : Bytes) : Bytes :=
  let root := Utf8.encode "root"
  let record : Member := { name := Utf8.encode "././@LongLink", kind := .other flag, mode := 0o644,
                           ownerName := root, groupName := root, content := text ++ [0] }
  record.header ++ padded record.content

def toBytes (m : Member) : Bytes :=
  (if 100 < m.target.length then longRecord 75 m.target else [])
    ++ (if 100 < m.name.length then longRecord 76 m.name else [])
    ++ m.header ++ padded m.content

end Member

/-- Archives are written in records of twenty blocks. -/
def recordSize : Nat := 20 * blockSize

/-- An archive of members, given by their bytes, with its end. -/
def closeArchive (members : Bytes) : Bytes :=
  let whole := members ++ terminator
  whole ++ List.replicate ((recordSize - whole.length % recordSize) % recordSize) 0

/-! ## Reading -/

/-- A member with the bytes that it takes in its archive. -/
structure Stored where
  member : Member
  bytes : Bytes
  /-- The archive ends before the content does. -/
  isCut : Bool := false

/-- What is wrong with an archive. -/
inductive Flaw
  | noArchive
  | skipped
  /-- The archive ends within a member. -/
  | cut
  /-- There is one empty block where two should be. -/
  | loneBlock (number : Nat)
  deriving DecidableEq

/-- What comes before a member may tell its name and target. -/
def memberOf (before : Foreword) (entry : Entry) (block content : Bytes) : Member :=
  let target := match before.longTarget with
    | some target => if target.getLast? = some 0 then target.dropLast else target
    | none =>
      match (before.extensions.getD []).findSome? (fun extension =>
        extension.bind (fun (key, value) =>
          if key = Utf8.encode "linkpath" then some value else none)) with
      | some target => target
      | none => readText (slice block 157 100)
  let kind := MemberKind.ofFlag entry.type
  { name := entry.name, mode := entry.mode % 0o10000, owner := entry.owner, group := entry.group,
    kind := if kind = .file ∧ entry.name.getLast? = some 47 then .directory else kind,
    ownerName := readText (slice block 265 32), groupName := readText (slice block 297 32),
    modified := entry.modified, target, content }

/-- What was read so far, the latest first. -/
structure Reading where
  stored : List Stored := []
  flaws : List Flaw := []
  before : Foreword := {}
  /-- The bytes of records that belong to the next member. -/
  pending : Bytes := []
  blocks : Nat := 0
  /-- The last header was none. -/
  isLost : Bool := false

/-- Reads up to the end, or past empty blocks too. -/
def readMembers (pastEnd : Bool) : (fuel : Nat) → Reading → Bytes → Reading
  | 0, r, _ => r
  | fuel + 1, r, stream =>
    let block := stream.take blockSize
    let behind := stream.drop blockSize
    let isFirst := r.blocks = 0
    if stream.isEmpty then r
    else if block.length < blockSize then
      if isFirst then { r with flaws := .noArchive :: r.flaws } else r
    else if block.all (· = 0) then
      if pastEnd then readMembers pastEnd fuel { r with blocks := r.blocks + 1 } behind
      else if behind.take blockSize = List.replicate blockSize 0 ∨ isFirst ∧ behind.isEmpty then r
      else { r with flaws := .loneBlock (r.blocks + 1) :: r.flaws }
    else
      match readHeader? r.before block with
      | none =>
        let found := if r.isLost then [] else if isFirst then [.skipped, .noArchive] else [.skipped]
        readMembers pastEnd fuel
          { r with flaws := found ++ r.flaws, isLost := true, blocks := r.blocks + 1 } behind
      | some entry =>
        let kind := MemberKind.ofFlag entry.type
        let size := if kind = .hardLink ∨ kind = .symbolicLink ∨ kind = .directory then 0
          else entry.size
        let length := size + padLength size
        let content := behind.take size
        let taken := r.pending ++ block ++ behind.take length
        let entry := { entry with content }
        match r.before.add? entry with
        | some before =>
          readMembers pastEnd fuel { r with
            before := before.getD {}, pending := taken, isLost := false
            blocks := r.blocks + 1 + length / blockSize } (behind.drop length)
        | none =>
          let isCut := content.length < size || behind.length < length && 0 < size
          let stored : Stored :=
            { member := memberOf r.before entry block content, bytes := taken, isCut }
          let next : Reading :=
            { r with stored := stored :: r.stored, before := {}, pending := [], isLost := false
                     blocks := r.blocks + 1 + length / blockSize }
          if isCut then { next with flaws := .cut :: next.flaws }
          else readMembers pastEnd fuel next (behind.drop length)

/-- The members of an archive in their order, and what is wrong with it. -/
def readArchive (pastEnd : Bool) (stream : Bytes) : List Stored × List Flaw :=
  let r := readMembers pastEnd (stream.length / blockSize + 2) {} stream
  (r.stored.reverse, r.flaws.reverse)

end Slipway.Tar
