import Slipway.Archive.Gzip
import Slipway.Tool.Moving

/-!
# Compressed files

A program that puts files into gzip members and takes them out again.
-/

namespace Slipway.Tool

open Shell

/-! ## Members -/

/-- What was found in some members, and what is wrong with them: a text behind a line end or not,
and the code for it. -/
structure Unpacked where
  content : Bytes := []
  problem : Option (String × Nat) := none

def brokenOff (content : Bytes) : Unpacked := { content, problem := some ("unexpected end of file", 1) }

/-- What is wrong with the trailer of a member. -/
def trailerProblem? (content trailer : Bytes) : Option (String × Nat) :=
  if trailer.take 4 ≠ littleEndian 4 (Crc32.checksum content).toNat then
    some ("invalid compressed data--crc error", 1)
  else if trailer ≠ Gzip.trailer content then some ("invalid compressed data--length error", 1)
  else none

/-- Takes everything out of the members that follow each other in a file. -/
def unpackMembers : (fuel : Nat) → (isFirst : Bool) → Bytes → Unpacked
  | 0, _, _ => {}
  | fuel + 1, isFirst, bytes =>
    if isFirst ∧ (bytes.isEmpty ∨ (bytes.length = 1 ∧ bytes ≠ [0])) then brokenOff []
    else if !isFirst ∧ bytes.all (· = 0) then {}
    else if bytes.take 2 ≠ [0x1f, 0x8b] then
      if isFirst then { problem := some ("not in gzip format", 1) }
      else { problem := some ("decompression OK, trailing garbage ignored", 2) }
    else
      match bytes[2]? with
      | none => brokenOff []
      | some form =>
        if form ≠ 8 then
          { problem := some ("unknown method " ++ toString form.toNat ++ " -- not supported", 1) }
        else
          match Gzip.afterHeader? bytes with
          | none => brokenOff []
          | some rest =>
            match Inflate.decompress? rest with
            | none =>
              match Inflate.decompressSoFar? rest with
              | some content => brokenOff content
              | none => { problem := some ("invalid compressed data--format violated", 1) }
            | some (content, behind) =>
              if behind.length < 8 then brokenOff content
              else
                match trailerProblem? content (behind.take 8) with
                | some problem => { content, problem := some problem }
                | none =>
                  let more := unpackMembers fuel false (behind.drop 8)
                  { more with content := content ++ more.content }

def unpack (bytes : Bytes) : Unpacked := unpackMembers (bytes.length + 1) true bytes

/-- A member with a name and a time. -/
def packMember (level : Nat) (name : Option Text) (modified : Int) (content : Bytes) : Bytes :=
  let flags : UInt8 := if name.isSome then 8 else 0
  let effort : UInt8 := if level = 9 then 2 else if level = 1 then 4 else 0
  [0x1f, 0x8b, 8, flags] ++ littleEndian 4 modified.toNat ++ [effort, 3]
    ++ (match name with
      | some name => name.toBytes ++ [0]
      | none => [])
    ++ Deflate.compress content ++ Gzip.trailer content

/-! ## Messages -/

def sayOfMember (text : String) : Eval Unit := complain ("gzip: " ++ text ++ "\n")

/-- Tells what is wrong with a file, and gives the code. -/
def tellProblem (shown : String) (problem : Option (String × Nat)) : Eval Nat := do
  match problem with
  | none => pure 0
  | some (text, code) => do
    let start := if startsWith text "unknown method" then "" else "\n"
    complain (start ++ "gzip: " ++ shown ++ ": " ++ text ++ "\n")
    pure code

/-- By how much something is smaller than it was. -/
def savedText (before after : Nat) : String :=
  let thousandths : Int := if before = 0 then 0
    else
      let scaled : Int := ((before : Int) - after) * 2000
      let n : Int := before
      (if 0 ≤ scaled then (scaled + n) / (2 * n) else -((n - scaled) / (2 * n)))
  let sign := if thousandths < 0 then "-" else ""
  let n := thousandths.natAbs
  let text := sign ++ toString (n / 10) ++ "." ++ toString (n % 10)
  "".pushn ' ' (5 - text.length) ++ text ++ "%"

/-! ## Files -/

def compressFlags : List Flag := [
  flag 'a' "ascii", flag 'c' "stdout", longFlag "to-stdout", flag 'd' "decompress",
  longFlag "uncompress", flag 'f' "force", flag 'h' "help", flag 'k' "keep", flag 'l' "list",
  flag 'L' "license", flag 'n' "no-name", flag 'N' "name", flag 'q' "quiet", longFlag "silent",
  flag 'r' "recursive", setting 'S' "suffix", flag 't' "test", flag 'v' "verbose",
  flag 'V' "version", longFlag "rsyncable", longFlag "synchronous", setting 'b', flag '1' "fast",
  flag '2', flag '3', flag '4', flag '5', flag '6', flag '7', flag '8', flag '9' "best"]

namespace Packing

def writesOut (a : Arguments) : Bool := a.has "stdout" || a.has "to-stdout" || a.has "test"

def unpacks (a : Arguments) : Bool :=
  a.has "decompress" || a.has "uncompress" || a.has "test" || a.has "list"

def isQuiet (a : Arguments) : Bool := a.has "quiet" || a.has "silent"

def levelOf (a : Arguments) : Nat :=
  match a.lastOf ["fast", "2", "3", "4", "5", "6", "7", "8", "best"] with
  | some "fast" => 1
  | some "best" => 9
  | some digit => (String.toNat? digit).getD 6
  | none => 6

def suffixOf (a : Arguments) : Text := (a.value? "suffix").getD ".gz".toList

/-- The endings of names of compressed files, and what stands there without compression. -/
def knownSuffixes (a : Arguments) : List (Text × Text) :=
  [(suffixOf a, []), (".tgz".toList, ".tar".toList), (".taz".toList, ".tar".toList)]
    ++ (if a.has "suffix" then [] else
      [".gz", ".z", "-gz", "-z", "_z", ".Z"].map (fun ending => (ending.toList, [])))

/-- The name of a file without the ending. -/
def plainName? (a : Arguments) (name : Text) : Option Text :=
  (knownSuffixes a).findSome? fun (ending, instead) =>
    if ending.isSuffixOf name ∧ ending.length < (lastName name).length then
      some (name.take (name.length - ending.length) ++ instead)
    else none

/-- Tells of something that is wrong with the arguments, if anything may be told. -/
def note (a : Arguments) (text : String) : Eval Nat := do
  if !isQuiet a then sayOfMember text
  pure 2

/-- Writes to the standard output, or tells why that cannot be. -/
def put (bytes : Bytes) : Eval Nat := do
  match ← (if bytes.isEmpty then pure (.ok ()) else emit 1 bytes) with
  | .ok () => pure 0
  | .error e => do
    complain ("\ngzip: stdout: " ++ errorText e ++ "\n")
    pure 1

def listTitle : String := "         compressed        uncompressed  ratio uncompressed_name"

/-- The number of bytes around the compressed data of a member. -/
def wrapping (bytes : Bytes) : Nat :=
  match Gzip.afterHeader? bytes with
  | some rest => bytes.length - rest.length + 8
  | none => 18

/-- The size that the end of a file tells. -/
def toldSize (bytes : Bytes) : Nat :=
  (bytes.drop (bytes.length - 4)).foldr (fun b n => n * 256 + b.toNat) 0

/-- A line about some sizes. -/
def sizesLine (before after compressed : Nat) (name : Text) : Text :=
  padLeft 19 (naturalText compressed) ++ ' ' :: padLeft 19 (naturalText before)
    ++ ' ' :: (savedText before after).toList ++ ' ' :: name

/-- Tells the sizes of a compressed file. -/
def list (isTitled : Bool) (name shown : Text) (bytes : Bytes) : Eval Nat := do
  match (unpack bytes).problem with
  | some (text, 1) => tellProblem (Text.toString shown) (some (text, 1))
  | _ => do
    if isTitled then printLine listTitle.toList
    let size := toldSize bytes
    printLine (sizesLine size (bytes.length - wrapping bytes) bytes.length name)
    pure 0

/-- Compresses or unpacks the standard input. -/
def onInput (a : Arguments) : Eval Nat := do
  match (← get).channel? 0 with
  | none => do
    sayOfMember ("stdin: " ++ errorText badDescriptor)
    pure 1
  | some id => do
    let s ← get
    let modified : Int := match s.channels.lookup id with
      | some (.file file _ _) =>
        match s.machine.files.openNode? file with
        | some (.file data) => data.modified
        | _ => 0
      | _ => 0
    match ← readAll id with
    | .error e => do
      complain ("\ngzip: stdin: " ++ errorText e ++ "\n")
      pure 1
    | .ok bytes =>
      if a.has "list" then list (!isQuiet a) "stdout".toList "stdin".toList bytes
      else if unpacks a then
        if a.has "force" ∧ writesOut a ∧ bytes.take 2 ≠ [0x1f, 0x8b] then put bytes
        else
          let unpacked := unpack bytes
          let code ← if a.has "test" then pure 0 else put unpacked.content
          if code ≠ 0 then pure code else tellProblem "stdin" unpacked.problem
      else put (packMember (levelOf a) none modified bytes)

/-- Makes a file with the mode and the time of another one, which is removed. -/
def replace (a : Arguments) (source target : Text) (data : FileData) (content : Bytes) :
    Eval Nat := do
  if (← nodeAt? target).isOk then
    if a.has "force" then
      let _ ← act (.remove (pathOf target))
    else
      complain ("gzip: " ++ Text.toString target ++ " already exists;\tnot overwritten\n")
      return 2
  match ← openFile .write target with
  | .error e => do
    sayOfMember (Text.toString target ++ ": " ++ errorText e)
    pure 1
  | .ok id => do
    let _ ← writeTo id content
    setMode target data.mode
    setModified target data.modified
    if !a.has "keep" then
      let _ ← act (.remove (pathOf source))
    pure 0

def tellReplaced (a : Arguments) (source target : Text) (before after : Nat) : Eval Unit := do
  if a.has "verbose" then
    let verb := if a.has "keep" then " -- created " else " -- replaced with "
    complain (Text.toString source ++ ":\t" ++ savedText before after ++ verb
      ++ Text.toString target ++ "\n")

/-- The path of a file to be unpacked, with the ending that it needs. -/
def findPacked (a : Arguments) (name : Text) : Eval (Except SystemError Text) := do
  match ← nodeAt? name true with
  | .ok _ => pure (.ok name)
  | .error e =>
    if !unpacks a ∨ (plainName? a name).isSome then pure (.error e)
    else
      let candidates := [suffixOf a, ".z".toList, "-z".toList, ".Z".toList]
      match ← candidates.findM? (fun ending => return (← nodeAt? (name ++ ending) true).isOk) with
      | some ending => pure (.ok (name ++ ending))
      | none => pure (.error e)

/-- Compresses or unpacks the file at a path. -/
def onFile (a : Arguments) (isFirst : Bool) (name : Text) (data : FileData) : Eval Nat := do
  let bytes := data.content
  if a.has "list" then list (isFirst && !isQuiet a) ((plainName? a name).getD name) name bytes
  else if unpacks a then
    if writesOut a then
      if a.has "force" ∧ bytes.take 2 ≠ [0x1f, 0x8b] then return ← put bytes
      let unpacked := unpack bytes
      let code ← if a.has "test" then pure 0 else put unpacked.content
      if code ≠ 0 then return code
      let code ← tellProblem (Text.toString name) unpacked.problem
      if a.has "test" ∧ a.has "verbose" ∧ code = 0 then
        complain (Text.toString name ++ ":\t OK\n")
      pure code
    else
      match plainName? a name with
      | none => note a (Text.toString name ++ ": unknown suffix -- ignored")
      | some target => do
        let unpacked := unpack bytes
        match unpacked.problem with
        | some (text, 1) => tellProblem (Text.toString name) (some (text, 1))
        | problem => do
          let code ← replace a name target data unpacked.content
          if code ≠ 0 then return code
          tellReplaced a name target unpacked.content.length (bytes.length - wrapping bytes)
          tellProblem (Text.toString name) problem
  else
    let kept := if a.has "no-name" then none else some (lastName name)
    let member := packMember (levelOf a) kept (if a.has "no-name" then 0 else data.modified) bytes
    if writesOut a then put member
    else if ((plainName? a name).isSome) ∧ !a.has "force" then
      if !isQuiet a then
        let ending := ((knownSuffixes a).find? (fun known => known.1.isSuffixOf name)).map (·.1)
        sayOfMember (Text.toString name ++ " already has " ++ Text.toString (ending.getD [])
          ++ " suffix -- unchanged")
      pure 0
    else
      let target := name ++ suffixOf a
      let code ← replace a name target data member
      if code ≠ 0 then return code
      let header := 18 + (match kept with
        | some name => name.length + 1
        | none => 0)
      tellReplaced a name target bytes.length (member.length - header)
      pure 0

/-- Does what is wanted with what is at a path; directories can be gone through. -/
def onPath (a : Arguments) : (fuel : Nat) → (isFirst : Bool) → Text → Eval Nat
  | 0, _, _ => pure 1
  | fuel + 1, isFirst, given => do
    if given = ['-'] then return ← onInput a
    match ← findPacked a given with
    | .error e => do
      let name := if unpacks a ∧ (plainName? a given).isNone then given ++ suffixOf a else given
      sayOfMember (Text.toString name ++ ": " ++ errorText e)
      pure 1
    | .ok name =>
      match ← nodeAt? name (writesOut a || a.has "force") with
      | .ok (.file data) => onFile a isFirst name data
      | .ok (.link _) => do
        sayOfMember (Text.toString name ++ ": Too many levels of symbolic links")
        pure 1
      | .ok (.directory _) =>
        if a.has "recursive" then
          (← sortedNames name).foldlM (fun code inner => do
            return max code (← onPath a fuel false (joinName name inner))) 0
        else note a (Text.toString name ++ " is a directory -- ignored")
      | .ok _ => note a (Text.toString name ++ " is not a directory or a regular file - ignored")
      | .error e => do
        sayOfMember (Text.toString name ++ ": " ++ errorText e)
        pure 1

/-- Tells the sizes of all files together. -/
def listTotals (a : Arguments) : Eval Unit := do
  let sizes ← a.operands.filterMapM fun name => do
    match ← findPacked a name with
    | .error _ => pure none
    | .ok name =>
      match ← nodeAt? name true with
      | .ok (.file data) =>
        match (unpack data.content).problem with
        | some (_, 1) => pure none
        | _ => pure (some data.content)
      | _ => pure none
  let compressed := sizes.foldl (fun n bytes => n + bytes.length) 0
  let before := sizes.foldl (fun n bytes => n + toldSize bytes) 0
  let wrapped := (sizes.getLast?.map wrapping).getD 0
  printLine (sizesLine before (compressed - wrapped) compressed "(totals)".toList)

end Packing

/-- Compresses files or unpacks them, with some options in front. -/
def gzipWith (before : List Text) (args : List Text) : Eval Nat := do
  match readArguments compressFlags true (before.length + args.length + 1) {} (before ++ args) with
  | .error text => do
    sayOfMember text
    complain "Try \x60gzip --help' for more information.\n"
    pure 1
  | .ok a =>
    if a.operands.isEmpty then Packing.onInput a
    else
      let code ← a.operands.zipIdx.foldlM (fun code (name, i) => do
        let found ← Packing.onPath a maxDepth (i = 0) name
        pure (if code = 1 ∨ found = 0 then code else found)) 0
      if a.has "list" ∧ 1 < a.operands.length ∧ !Packing.isQuiet a then Packing.listTotals a
      pure code

end Slipway.Tool
