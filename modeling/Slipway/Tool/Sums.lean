import Slipway.Digest.Checksum
import Slipway.Digest.FourRounds
import Slipway.Digest.Wide
import Slipway.Tool.Lines

/-!
# Programs that sum up files

Digests and check sums of files, and lists of them that are checked.
-/

namespace Slipway.Tool

open Shell

/-! ## Digests by their names -/

/-- A digest that a program computes. -/
structure DigestKind where
  /-- How lines call it that name it. -/
  tag : String
  /-- How many hexadecimal digits it has. -/
  digits : Nat
  digest : Bytes → Bytes

def DigestKind.of (k : DigestKind) (text : Text) : Text := (hex (k.digest text.toBytes)).toList

def md5Kind : DigestKind := ⟨"MD5", 32, Md5.digest⟩
def sha1Kind : DigestKind := ⟨"SHA1", 40, Sha1.digest⟩
def sha224Kind : DigestKind := ⟨"SHA224", 56, Sha512.digest224⟩
def sha256Kind : DigestKind := ⟨"SHA256", 64, Sha256.digest⟩
def sha384Kind : DigestKind := ⟨"SHA384", 96, Sha512.digest384⟩
def sha512Kind : DigestKind := ⟨"SHA512", 128, Sha512.digest⟩

/-- Lines name the length of a shorter one. -/
def blakeKind (bits : Nat) : DigestKind :=
  ⟨if bits = 512 then "BLAKE2b" else "BLAKE2b-" ++ toString bits, bits / 4, Blake2.digest (bits / 8)⟩

/-! ## Lines -/

/-- A name whose line ends are written out, and whether there were any or backslashes. -/
def escapedName (name : Text) : Text × Bool :=
  (name.flatMap (fun c =>
      match c with
      | '\n' => ['\\', 'n']
      | '\r' => ['\\', 'r']
      | '\\' => ['\\', '\\']
      | c => [c]),
    name.any (fun c => c = '\n' ∨ c = '\r' ∨ c = '\\'))

/-- The name that was written out. -/
def unescapedName : Text → Text
  | '\\' :: 'n' :: rest => '\n' :: unescapedName rest
  | '\\' :: 'r' :: rest => '\r' :: unescapedName rest
  | '\\' :: '\\' :: rest => '\\' :: unescapedName rest
  | c :: rest => c :: unescapedName rest
  | [] => []

/-- A line that names the kind of its sum. -/
def readTaggedLine? (k : DigestKind) (line : Text) : Option (Text × Text) :=
  let tag := k.tag.toList
  if !tag.isPrefixOf line then none
  else
    let rest := line.drop tag.length
    let rest := if rest.head? = some ' ' then rest.drop 1 else rest
    let sum := (line.reverse.takeWhile isHexChar).reverse
    let between := rest.take (rest.length - sum.length)
    let before := between.take (between.length - 4)
    if sum.length = k.digits ∧ between.drop before.length = ") = ".toList ∧ before.head? = some '(' then
      some (sum, before.drop 1)
    else none

/-- A line of a list of sums: the sum and the name of the file. -/
def readSumLine? (k : DigestKind) (line : Text) : Option (Text × Text) :=
  let line := line.dropWhile isBlankChar
  let escaped := line.head? = some '\\'
  let line := if escaped then line.drop 1 else line
  let found := (readTaggedLine? k line).orElse fun _ =>
    let sum := line.takeWhile isHexChar
    match line.drop sum.length with
    | ' ' :: mark :: name =>
      if sum.length = k.digits ∧ (mark = ' ' ∨ mark = '*') ∧ !name.isEmpty then some (sum, name)
      else none
    | _ => none
  found.map (fun (sum, name) => (sum, if escaped then unescapedName name else name))

/-! ## Checking -/

/-- What came of a line that was checked. -/
inductive Checked
  | fits
  | differs
  | unreadable
  | skipped
  deriving DecidableEq

/-- Checks the sum of one file. -/
def checkSum (a : Arguments) (k : DigestKind) (sum name : Text) : Eval Checked := do
  let isQuiet := a.has "status"
  let (shownName, isEscaped) := escapedName name
  let start := if isEscaped then '\\' :: shownName else shownName
  match ← readText name with
  | .error e =>
    if a.has "ignore-missing" ∧ e = .noEntry then pure .skipped
    else do
      say (shown name ++ ": " ++ errorText e)
      if !isQuiet then printLine (start ++ ": FAILED open or read".toList)
      pure .unreadable
  | .ok content => do
    let fits := k.of content = sum.map Char.toLower
    if !isQuiet ∧ !(fits ∧ a.has "quiet") then
      printLine (start ++ (if fits then ": OK" else ": FAILED").toList)
    pure (if fits then .fits else .differs)

def checkSums (a : Arguments) (k : DigestKind) (listName text : Text) : Eval Bool := do
  let listShown := if listName = ['-'] then quoted "standard input".toList else shown listName
  let lines := (linesOf text).zipIdx.filter (fun (line, _) => !line.isEmpty && line.head? ≠ some '#')
  let results ← lines.mapM fun (line, i) => do
    match readSumLine? k line with
    | some (sum, name) => some <$> checkSum a k sum name
    | none => do
      if a.has "warn" then
        say (listShown ++ ": " ++ toString (i + 1) ++ ": improperly formatted "
          ++ String.ofList (k.tag.toList.takeWhile (· ≠ '-')) ++ " checksum line")
      pure none
  let count (result : Option Checked) : Nat := results.count result
  let plural (n : Nat) (one many : String) : String := toString n ++ " " ++ if n = 1 then one else many
  if results.all Option.isNone then
    say (listShown ++ ": no properly formatted checksum lines found")
    pure false
  else
    let (bad, missing, wrong) := (count none, count (some .unreadable), count (some .differs))
    if !a.has "status" then
      if 0 < bad then
        say ("WARNING: " ++ plural bad "line is improperly formatted" "lines are improperly formatted")
      if 0 < missing then
        say ("WARNING: " ++ plural missing "listed file could not be read"
          "listed files could not be read")
      if 0 < wrong then
        say ("WARNING: " ++ plural wrong "computed checksum did NOT match"
          "computed checksums did NOT match")
    let verified := 0 < count (some .fits) || 0 < wrong || 0 < missing
    if !verified then say (listShown ++ ": no file was verified")
    pure (verified && missing = 0 && wrong = 0 && (bad = 0 || !a.has "strict"))

/-! ## Programs -/

def sumFlags : List Flag := [
  flag 'b' "binary", flag 'c' "check", flag 't' "text", flag 'z' "zero", longFlag "tag",
  longFlag "quiet", longFlag "status", longFlag "strict", flag 'w' "warn",
  longFlag "ignore-missing"]

/-- The line for the sum of a file. -/
def sumLine (k : DigestKind) (tagged binary zeroEnded : Bool) (name text : Text) : Text :=
  let (escaped, isEscaped) := if zeroEnded then (name, false) else escapedName name
  let start := if isEscaped then ['\\'] else []
  let body := if tagged then k.tag.toList ++ " (".toList ++ escaped ++ ") = ".toList ++ k.of text
    else k.of text ++ (if binary then " *" else "  ").toList ++ escaped
  start ++ body ++ (if zeroEnded then ['\x00'] else ['\n'])

/-- The first option that only makes sense where sums are checked. -/
def strayOption? (a : Arguments) : Option String :=
  ["ignore-missing", "status", "warn", "quiet", "strict"].find? a.has

/-- Prints or checks digests of one kind. -/
def sumWith (k : DigestKind) (tagged : Bool) (a : Arguments) : Eval Nat := do
  if a.has "tag" ∧ a.has "check" then
    misuse "the --tag option is meaningless when verifying checksums"
  else
    match if a.has "check" then none else strayOption? a with
    | some option =>
      misuse ("the --" ++ option ++ " option is meaningful only when verifying checksums")
    | none =>
      forEach (inputsOf a) fun name => do
        match ← readText name with
        | .error e => blameInput name e
        | .ok text =>
          if a.has "check" then checkSums a k name text
          else do
            print (sumLine k (tagged || a.has "tag") (a.has "binary") (a.has "zero") name text)
            pure true

/-- A program for digests of one kind. -/
def digestSum (k : DigestKind) (args : List Text) : Eval Nat :=
  withArguments sumFlags args (sumWith k false)

/-- The length of a digest in bits that is asked for, or what is wrong with it. -/
def blakeBits (a : Arguments) : Except (List String) Nat :=
  match a.value? "length" with
  | none => .ok 512
  | some text =>
    match decimal? text with
    | none => .error ["invalid length: " ++ emphasized text]
    | some n =>
      if 512 < n then .error ["invalid length: " ++ emphasized text,
        "maximum digest length for " ++ emphasized "BLAKE2b".toList ++ " is 512 bits"]
      else if n % 8 ≠ 0 then .error ["invalid length: " ++ emphasized text,
        "length is not a multiple of 8"]
      else .ok (if n = 0 then 512 else n)

def b2sum (args : List Text) : Eval Nat :=
  withArguments (setting 'l' "length" :: sumFlags) args fun a => do
    match blakeBits a with
    | .error lines => do
      lines.forM say
      pure 1
    | .ok bits => sumWith (blakeKind bits) false a

/-- Blocks of so many bytes that a content fills, the last one in part. -/
def wholeBlocks (size count : Nat) : Nat := (count + size - 1) / size

/-- The old sums: with rotated bits and blocks of a kilobyte, or plain with blocks of half of one. -/
def oldSum (isPlain : Bool) (a : Arguments) : Eval Nat :=
  forEach (inputsOf a) fun name => do
    match ← readText name with
    | .error e => blameInput name e
    | .ok text => do
      let bytes := text.toBytes
      let behind := if a.operands.isEmpty then [] else ' ' :: name
      if isPlain then
        printLine (naturalText (Checksum.plain bytes) ++ ' ' :: naturalText (wholeBlocks 512 bytes.length)
          ++ behind)
      else
        printLine (fixedDigits 10 5 (Checksum.rotating bytes)
          ++ ' ' :: padLeft 5 (naturalText (wholeBlocks 1024 bytes.length)) ++ behind)
      pure true

def oldSums (args : List Text) : Eval Nat :=
  withArguments [flag 'r', flag 's' "sysv"] args fun a =>
    oldSum (a.lastOf ["r", "sysv"] = some "sysv") a

/-- The kinds of sums that can be asked for by name. -/
def digestKinds : List (String × DigestKind) := [
  ("md5", md5Kind), ("sha1", sha1Kind), ("sha224", sha224Kind), ("sha256", sha256Kind),
  ("sha384", sha384Kind), ("sha512", sha512Kind)]

def sumNames : List String :=
  ["bsd", "sysv", "crc", "md5", "sha1", "sha224", "sha256", "sha384", "sha512", "blake2b", "sm3"]

def cksum (args : List Text) : Eval Nat :=
  withArguments ([setting 'a' "algorithm", setting 'l' "length", longFlag "untagged",
      longFlag "debug"] ++ sumFlags) args fun a => do
    let algorithm := String.ofList ((a.value? "algorithm").getD "crc".toList)
    let tagged := a.lastOf ["tag", "untagged"] ≠ some "untagged"
    let a := { a with options := a.options.filter (·.1 ≠ "tag") }
    match algorithm, digestKinds.lookup algorithm with
    | "crc", _ =>
      forEach (inputsOf a) fun name => do
        match ← readText name with
        | .error e => blameInput name e
        | .ok text => do
          let bytes := text.toBytes
          printLine (naturalText (Checksum.cyclic bytes).toNat ++ ' ' :: naturalText bytes.length
            ++ (if a.operands.isEmpty then [] else ' ' :: name))
          pure true
    | "bsd", _ => oldSum false a
    | "sysv", _ => oldSum true a
    | "blake2b", _ =>
      match blakeBits a with
      | .error lines => do
        lines.forM say
        pure 1
      | .ok bits => sumWith (blakeKind bits) tagged a
    | _, some kind => sumWith kind tagged a
    | name, none => do
      say ("invalid argument " ++ emphasized name.toList ++ " for " ++ emphasized "--algorithm".toList)
      complain ("Valid arguments are:\n"
        ++ String.join (sumNames.map (fun name => "  - " ++ emphasized name.toList ++ "\n")))
      recommendHelp
      pure 1

end Slipway.Tool
