import Std.Data.HashMap
import Slipway.Records.Reading
import Slipway.Records.Value
import Slipway.Shell.Channels

/-!
# What a program over records works on

Its slots and tables, the record with its fields, and its inputs and outputs. A record is split
into fields when one is asked for, and joined again when a field was changed. The keys of a table
are gone through bucket by bucket, where a key's bucket comes from a sum over its bytes, and in a
bucket the key that was looked for last comes first. Keys that are numbers get their place among the
texts only when it is asked for.
-/

namespace Slipway.Records

open Shell (Text)

/-! ## Tables -/

structure Entry where
  value : Value := .unset
  /-- The time when the key was last looked for as a text, if it has a place among them. -/
  asText : Option Nat := none
  /-- The key as a number, and the time when it was last looked for as one. -/
  asNumber : Option (Int × Nat) := none

structure Table where
  entries : Std.HashMap Text Entry := {}
  clock : Nat := 0
  /-- Whether all keys have places among the texts. -/
  hasTexts : Bool := false

namespace Table

/-- The sum over the bytes of a key. -/
def hashOf (key : Text) : Nat :=
  key.foldl (fun h c => (h ^^^ (c.toNat % 256)) * 16777619 % 4294967296) 2166136261

/-- So many buckets for so many keys. -/
def bucketCount (keys : Nat) : (fuel : Nat) → (count : Nat) → Nat
  | 0, count => count
  | fuel + 1, count => if count * 12 < keys then bucketCount keys fuel (count * 2) else count

def buckets (t : Table) : Nat := bucketCount t.entries.size 40 64

def size (t : Table) : Nat := t.entries.size

def contains (t : Table) (key : Text) : Bool := t.entries.contains key

/-- Gives the keys that are numbers their places among the texts. -/
def placed (t : Table) : Table :=
  if t.hasTexts then t
  else
    let count := t.buckets
    let waiting := t.entries.toList.filterMap fun (key, e) =>
      match e.asText, e.asNumber with
      | none, some (n, time) => some ((n % (count : Int)).toNat, time, key)
      | _, _ => none
    let sorted := waiting.mergeSort (fun a b =>
      if a.1 = b.1 then b.2.1 ≤ a.2.1 else a.1 ≤ b.1)
    sorted.foldl (fun (t : Table) (_, _, key) =>
      { t with
        entries := t.entries.modify key (fun e => { e with asText := some (t.clock + 1) })
        clock := t.clock + 1 }) { t with hasTexts := true }

/-- Looks for a key that is a text, and adds it if it is not there. -/
def touchText (t : Table) (key : Text) : Table :=
  let t := t.placed
  let e := (t.entries.get? key).getD {}
  { t with
    entries := t.entries.insert key { e with asText := some (t.clock + 1) }, clock := t.clock + 1 }

/-- Looks for a key that is a number, and adds it if it is not there. -/
def touchNumber (t : Table) (n : Int) : Table :=
  let key := (toString n).toList
  match t.entries.get? key with
  | some e =>
    { t with
      entries := t.entries.insert key { e with
        asNumber := some (n, t.clock + 1)
        asText := if e.asNumber.isNone then some (t.clock + 1) else e.asText }
      clock := t.clock + 1 }
  | none =>
    { t with
      entries := t.entries.insert key {
        asNumber := some (n, t.clock + 1), asText := if t.hasTexts then some (t.clock + 1) else none }
      clock := t.clock + 1 }

def get (t : Table) (key : Text) : Value := ((t.entries.get? key).map (·.value)).getD .unset

def set (t : Table) (key : Text) (value : Value) : Table :=
  { t with entries := t.entries.modify key (fun e => { e with value }) }

def erase (t : Table) (key : Text) : Table := { t with entries := t.entries.erase key }

/-- The keys in their order, and the table with all of them in their places. -/
def keys (t : Table) : List Text × Table :=
  let t := t.placed
  let count := t.buckets
  let found := t.entries.toList.map fun (key, e) => (hashOf key % count, e.asText.getD 0, key)
  let sorted := found.mergeSort (fun a b => if a.1 = b.1 then b.2.1 ≤ a.2.1 else a.1 ≤ b.1)
  (sorted.map (·.2.2), t)

end Table

end Slipway.Records

namespace Slipway.Records

open Shell (Text Eval)

/-! ## The state -/

/-- Why a statement does not go on to the next one. -/
inductive Jump
  | next
  | nextFile
  | exit
  | giveBack (value : Value)
  | leave
  | again
  /-- There was an error, nothing of the program is carried out any more. -/
  | failed

/-- What a call of a function has for itself. -/
inductive Cell
  | value (v : Value)
  | table (id : Nat)

/-- An input with what was read of it and not used. -/
structure Input where
  channel : Nat
  buffer : Text := []
  ended : Bool := false

/-- An output with what was written to it, the latest piece first. -/
structure Output where
  name : Text
  /-- The channel of a file; the text of a command is kept to its end. -/
  channel : Option Nat
  pieces : List Text := []

structure Store where
  program : Program
  shared : Array Value := #[]
  tables : Std.HashMap Nat Table := {}
  nextTable : Nat
  frame : Array Cell := #[]
  record : Text := []
  fields : Array Value := #[]
  /-- Whether the fields are those of the record. -/
  isSplit : Bool := true
  /-- Whether the record is that of the fields. -/
  isJoined : Bool := true
  /-- The rules for ranges that are in one. -/
  inRange : List Nat := []
  inputs : List (Text × Bool × Input) := []
  outputs : List Output := []
  main : Option Input := none
  /-- The argument that comes next. -/
  nextArg : Nat := 1
  usedFile : Bool := false
  code : Nat := 0
  seed : Nat := 0
  lastSeed : Float := 0
  /-- Bytes of the standard output that were collected. -/
  collected : Nat := 0
  depth : Nat := 0

abbrev Run (α : Type) := ExceptT Jump (StateT Store Eval) α

namespace Store

def value (s : Store) (slot : Nat) : Value := s.shared.getD slot .unset

def setValue (s : Store) (slot : Nat) (v : Value) : Store :=
  { s with shared := s.shared.setIfInBounds slot v }

/-- How numbers become texts. -/
def conversion (s : Store) : Text :=
  match s.value slotConvfmt with
  | .text t => t
  | v => v.toText "%.6g".toList

def textOf (s : Store) (v : Value) : Text := v.toText s.conversion

def slotText (s : Store) (slot : Nat) : Text := s.textOf (s.value slot)

def table (s : Store) (id : Nat) : Table := (s.tables.get? id).getD {}

def setTable (s : Store) (id : Nat) (t : Table) : Store :=
  { s with tables := s.tables.insert id t }

/-! ## Fields -/

/-- The pieces of a text between blanks. -/
def words (text : Text) : List Text :=
  let isBlank := fun (c : Char) => c = ' ' || c = '\t' || c = '\n'
  let rec go : (fuel : Nat) → Text → List Text
    | 0, _ => []
    | fuel + 1, text =>
      match text.dropWhile isBlank with
      | [] => []
      | rest =>
        let word := rest.takeWhile (fun c => !isBlank c)
        word :: go fuel (rest.drop word.length)
  go (text.length + 1) text

/-- The pieces of a text between what an expression fits. -/
def piecesBetween (p : Pattern) (text : Array Char) : (fuel : Nat) → (start from_ : Nat) → List Text
  | 0, start, _ => [(text.extract start text.size).toList]
  | fuel + 1, start, from_ =>
    match p.find? text from_ with
    | none => [(text.extract start text.size).toList]
    | some (first, last) =>
      if last = first then
        if text.size ≤ first then [(text.extract start text.size).toList]
        else piecesBetween p text fuel start (first + 1)
      else (text.extract start first).toList :: piecesBetween p text fuel last last

def piecesAt (separator : Char) : Text → List Text
  | [] => [[]]
  | c :: rest =>
    if c = separator then [] :: piecesAt separator rest
    else
      match piecesAt separator rest with
      | [] => [[c]]
      | first :: others => (c :: first) :: others

/-- How a text is taken apart. -/
inductive Separator
  | blanks
  | each
  | char (c : Char)
  | pattern (p : Pattern)

def Separator.pieces (s : Separator) (text : Text) : List Text :=
  if text.isEmpty then []
  else
    match s with
    | .blanks => words text
    | .each => text.map ([·])
    | .char c => piecesAt c text
    | .pattern p =>
      let chars := text.toArray
      piecesBetween p chars (chars.size + 2) 0 0

/-- What the text of a separator stands for; an error if it is no good expression. -/
def Separator.ofText (text : Text) : Except String Separator :=
  match text with
  | [] => .ok .each
  | [' '] => .ok .blanks
  | [c] => .ok (.char c)
  | text => (Pattern.read text).map .pattern

/-- The fields of the record by a separator; a line break separates as well where records are
paragraphs. -/
def split (s : Store) : Except String Store := do
  if s.isSplit then return s
  let separator ← Separator.ofText (s.slotText slotFS)
  let pieces := if (s.slotText slotRS).isEmpty then
      match separator with
      | .char c => (piecesAt '\n' s.record).flatMap (fun line => (Separator.char c).pieces line)
      | .pattern p => (piecesAt '\n' s.record).flatMap (fun line => (Separator.pattern p).pieces line)
      | other => other.pieces s.record
    else separator.pieces s.record
  let fields := (pieces.map Value.input).toArray
  return { s with fields, isSplit := true }.setValue slotNF (.number (Float.ofNat fields.size))

/-- The text of the record, joined from the fields if one was changed. -/
def joined (s : Store) : Store :=
  if s.isJoined then s
  else
    let between := s.slotText slotOFS
    let texts := s.fields.toList.map s.textOf
    { s with record := List.intercalate between texts, isJoined := true }

def setRecord (s : Store) (text : Text) : Store :=
  { s with record := text, isSplit := false, isJoined := true, fields := #[] }

/-- Gives the record so many fields. -/
def setCount (s : Store) (count : Nat) : Store :=
  let fields := if s.fields.size < count then
      s.fields ++ (Array.replicate (count - s.fields.size) Value.unset)
    else s.fields.extract 0 count
  { s with fields, isJoined := false }.setValue slotNF (.number (Float.ofNat count))

end Store

/-! ## Errors -/

/-- The name that messages begin with, without directories. -/
def messageName (p : Shell.Process) : String :=
  Text.toString ((p.name.reverse.takeWhile (· ≠ '/')).reverse)

/-- A message about an error while the program runs. -/
def stopWith {α : Type} (message : String) : Run α := do
  let s ← get
  let number (slot : Nat) : String := Text.toString (s.slotText slot)
  let name := messageName (← (Shell.self : Eval Shell.Process))
  Shell.complain (name ++ ": run time error: " ++ message ++ "\n\tFILENAME=\""
    ++ number slotFilename ++ "\" FNR=" ++ number slotFNR ++ " NR=" ++ number slotNR ++ "\n")
  set { s with code := 2 }
  throw .failed

/-- A message without the place, for what cannot be opened. -/
def stopPlainly {α : Type} (message : String) : Run α := do
  let name := messageName (← (Shell.self : Eval Shell.Process))
  Shell.complain (name ++ ": " ++ message ++ "\n")
  modify (fun s => { s with code := 2 })
  throw .failed

def splitRecord : Run Unit := do
  match (← get).split with
  | .ok s => set s
  | .error e => stopWith ("regular expression compile failed (" ++ e ++ ")\n"
      ++ Text.toString ((← get).slotText slotFS))

def wholeRecord : Run Text := do
  let s := (← get).joined
  set s
  pure s.record

end Slipway.Records
