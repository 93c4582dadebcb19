import Slipway.Calendar.Format
import Slipway.Tool.Moving

/-!
# Programs that describe files

Lists of what is in directories, and what is known about single files. Everything belongs to one
user.
-/

namespace Slipway.Tool

open Shell

/-! ## What is known of a node -/

def kindLetter : Node → Char
  | .directory _ => 'd'
  | .link _ => 'l'
  | .device _ => 'c'
  | _ => '-'

def kindName (node : Node) : String :=
  match node with
  | .directory _ => "directory"
  | .link _ => "symbolic link"
  | .device _ => "character special file"
  | node => if node.size = 0 then "regular empty file" else "regular file"

/-- How many names a node has. -/
def nameCount (fs : FileSystem) (place : Location) (node : Node) : Nat :=
  match node with
  | .directory _ => 2 + ((fs.children place).filter (·.2.isDirectory)).length
  | .file data => (fs.entries.filter (fun entry => FileSystem.serialOf entry.2 = data.serial)).length
  | _ => 1

/-- Blocks of 1024 bytes that a node takes. -/
def blocksOf (node : Node) : Nat :=
  match node with
  | .directory _ => 4
  | .file data => (data.content.length + 4095) / 4096 * 4
  | _ => 0

def timeOf (m : Machine) (node : Node) : Int := (FileSystem.statusOf m.now node).modified

/-- A size in at most four characters. -/
def humanSize (n : Nat) : Text :=
  let rec go : (fuel : Nat) → (units : List Char) → (n : Nat) → Text
    | 0, _, n => naturalText n
    | fuel + 1, units, n =>
      match units with
      | [] => naturalText (n / 1024)
      | unit :: units =>
        -- `n` counts in units 1024 times smaller; the result is rounded up.
        let tenths := (n * 10 + 1023) / 1024
        if tenths < 100 then naturalText (tenths / 10) ++ '.' :: naturalText (tenths % 10) ++ [unit]
        else
          let whole := (n + 1023) / 1024
          if whole < 1024 then naturalText whole ++ [unit] else go fuel units whole
  if n < 1024 then naturalText n else go 8 "KMGTPE".toList n

/-! ## ls -/

def listFlags : List Flag := [
  flag 'a' "all", flag 'A' "almost-all", flag 'l', flag '1', flag 'd' "directory",
  flag 'R' "recursive", flag 'r' "reverse", flag 't', flag 'S', flag 'U', flag 'X', flag 'v',
  flag 'F', flag 'p', longFlag "file-type", flag 'i' "inode", flag 's' "size",
  flag 'h' "human-readable", flag 'n' "numeric-uid-gid", flag 'g', flag 'o', flag 'G' "no-group",
  flag 'Q' "quote-name", flag 'b' "escape", flag 'N' "literal", flag 'q', flag 'C', flag 'x',
  flag 'm', flag 'L' "dereference", flag 'H', flag 'c', flag 'u', flag 'f', flag 'k', flag 'B',
  setting 'I' "ignore", setting 'w' "width", setting 'T' "tabsize", longFlag "color" .optional,
  longFlag "sort" .value, longFlag "time-style" .value, longFlag "full-time",
  longFlag "group-directories-first", longFlag "time" .value, longFlag "format" .value,
  longFlag "indicator-style" .value, longFlag "classify" .optional, longFlag "hide" .value,
  longFlag "show-control-chars", longFlag "si"]

/-- Something to be listed under a name. -/
structure Listed where
  name : Text
  place : Location
  node : Node
  /-- What is behind a link, if its target is there. -/
  target : Option Node := none

/-- The order of lists. -/
def listLe (m : Machine) (a : Arguments) (x y : Listed) : Bool :=
  let byName := textLe x.name y.name
  let key := match a.lastOf ["t", "S", "sort", "v", "X", "U", "f"] with
    | some "sort" => String.ofList ((a.value? "sort").getD [])
    | some "t" => "time"
    | some "S" => "size"
    | some "X" => "extension"
    | _ => "name"
  let le := match key with
    | "time" =>
      let p := timeOf m x.node
      let q := timeOf m y.node
      if p = q then byName else q < p
    | "size" => if x.node.size = y.node.size then byName else y.node.size < x.node.size
    | "extension" =>
      let ending := fun (t : Text) => if t.contains '.' then
        (t.reverse.takeWhile (· ≠ '.')).reverse else []
      if ending x.name = ending y.name then byName else textLe (ending x.name) (ending y.name)
    | _ => byName
  le

def sortListed (m : Machine) (a : Arguments) (items : List Listed) : List Listed :=
  let sorted := if a.has "U" ∨ a.has "f" then items else items.mergeSort (listLe m a)
  let sorted := if a.has "reverse" then sorted.reverse else sorted
  if a.has "group-directories-first" then
    sorted.filter (·.node.isDirectory) ++ sorted.filter (fun l => !l.node.isDirectory)
  else sorted

/-- The sign behind a name that says what it is. -/
def indicator (a : Arguments) (node : Node) : Text :=
  let classifies := a.has "F" || a.has "classify"
  match node with
  | .directory _ =>
    if classifies || a.has "p" || a.has "file-type" then ['/'] else []
  | .link _ => if classifies || a.has "file-type" then ['@'] else []
  | node =>
    if classifies ∧ node.isRegular ∧ node.mode &&& 0o111 ≠ 0 then ['*'] else []

/-- A date in lists: with the time if it is near, otherwise with the year. -/
def listDate (m : Machine) (a : Arguments) (time : Int) : Text :=
  let moment := Moment.ofSeconds time
  let isNear := m.now - 15778476 < time ∧ time ≤ m.now
  let template := if a.has "full-time" then "%Y-%m-%d %H:%M:%S.%N %z" else
    match (a.value? "time-style").map String.ofList with
    | some "long-iso" => "%Y-%m-%d %H:%M"
    | some "full-iso" => "%Y-%m-%d %H:%M:%S.%N %z"
    | some "iso" => if isNear then "%m-%d %H:%M" else "%Y-%m-%d "
    | some style =>
      if startsWith style "+" then String.ofList (style.toList.drop 1)
      else if isNear then "%b %e %H:%M" else "%b %e  %Y"
    | none => if isNear then "%b %e %H:%M" else "%b %e  %Y"
  moment.format 0 template.toList

def shownName (a : Arguments) (name : Text) : Text :=
  if a.has "quote-name" then '"' :: name ++ ['"'] else name

def sizeText (a : Arguments) (n : Nat) : Text :=
  if a.has "human-readable" then humanSize n else naturalText n

def isLong (a : Arguments) : Bool :=
  a.has "l" || a.has "g" || a.has "o" || a.has "numeric-uid-gid" || a.has "full-time"

def listLines (m : Machine) (a : Arguments) (items : List Listed) : List Text :=
  let widest (texts : List Text) : Nat := (texts.map List.length).foldl max 0
  let count (l : Listed) : Text := naturalText (nameCount m.files l.place l.node)
  let size (l : Listed) : Text := match l.node with
    | .device _ => "1, 3".toList
    | node => sizeText a node.size
  let blocks (l : Listed) : Text := if a.has "human-readable" then
      humanSize (blocksOf l.node * 1024) else naturalText (blocksOf l.node)
  let countWidth := widest (items.map count)
  let sizeWidth := widest (items.map size)
  let blockWidth := widest (items.map blocks)
  let owner := if a.has "numeric-uid-gid" then "0".toList else "root".toList
  items.map fun l =>
    let start := if a.has "size" then padLeft blockWidth (blocks l) ++ [' '] else []
    let name := shownName a l.name
    if !isLong a then start ++ name ++ indicator a l.node
    else
      let owners := (if a.has "g" then [] else owner ++ [' '])
        ++ (if a.has "o" || a.has "no-group" then [] else owner ++ [' '])
      let name := match l.node with
        | .link target => name ++ " -> ".toList ++ Text.ofString target
            ++ (match l.target with
              | some node => indicator a node
              | none => [])
        | node => name ++ indicator a node
      start ++ Mode.listing (kindLetter l.node) l.node.mode ++ ' ' :: padLeft countWidth (count l)
        ++ ' ' :: owners ++ padLeft sizeWidth (size l) ++ ' ' :: listDate m a (timeOf m l.node)
        ++ ' ' :: name

/-- Shows items, one a line or in a row. -/
def showListed (a : Arguments) (items : List Listed) : Eval Unit := do
  let m := (← get).machine
  let lines := listLines m a items
  if a.has "m" then
    if !lines.isEmpty then printLine (List.intercalate ", ".toList lines)
  else if (a.has "C" ∨ a.has "x") ∧ !isLong a ∧ !a.has "1" then
    if !lines.isEmpty then printLine (List.intercalate "  ".toList lines)
  else lines.forM printLine

def listedAt (path name : Text) (follows : Bool) : Eval (Except SystemError Listed) := do
  match ← findNode (pathOf path) follows with
  | .error e =>
    if follows then
      match ← findNode (pathOf path) false with
      | .ok (place, node) =>
        pure (if e = .noEntry then .ok { name, place, node } else .error e)
      | .error e => pure (.error e)
    else pure (.error e)
  | .ok (place, node) => do
    let target := (← nodeAt? path true).toOption
    pure (.ok { name, place, node, target })

/-- What is in a directory, as far as it is to be shown. -/
def listedIn (a : Arguments) (path : Text) : Eval (List Listed) := do
  let m := (← get).machine
  let all := a.has "all" || a.has "f"
  let names := (if all then ["..".toList, ".".toList] else []) ++ namesIn m path
  let ignored (name : Text) : Bool := (a.values "ignore" ++ a.values "hide").any fun glob =>
    matchesPattern (patternOf (glob.map (fun c => ⟨c, false⟩))) name
  let names := names.filter fun name =>
    (all || a.has "almost-all" || name.head? ≠ some '.') && !ignored name
      && !(a.has "B" && name.getLast? = some '~')
  let items ← names.mapM (fun name => listedAt (joinName path name) name (a.has "dereference"))
  pure (sortListed m a (items.filterMap Except.toOption))

/-- Lists directories, each below its name if there are several, and those in them if wanted. -/
def listDirectories (a : Arguments) (withNames : Bool) : (fuel : Nat) → (isFirst : Bool) →
    List Text → Eval Bool
  | 0, _, _ => pure true
  | _, _, [] => pure true
  | fuel + 1, isFirst, path :: rest => do
    if withNames then
      if !isFirst then print ['\n']
      printLine (shownName a path ++ [':'])
    let items ← listedIn a path
    if isLong a ∨ a.has "size" then
      let total := (items.map (fun l => blocksOf l.node)).foldl (· + ·) 0
      printLine ("total ".toList ++ if a.has "human-readable" then humanSize (total * 1024)
        else naturalText total)
    showListed a items
    let inner := if a.has "recursive" then
        (items.filter (fun l => l.node.isDirectory ∧ l.name ≠ ['.'] ∧ l.name ≠ ['.', '.'])).map
          (fun l => joinName path l.name)
      else []
    listDirectories a withNames fuel false (inner ++ rest)

def ls (args : List Text) : Eval Nat :=
  withArguments listFlags args (fun a => do
    let m := (← get).machine
    let paths := if a.operands.isEmpty then [['.']] else a.operands
    let follows := a.has "dereference" || a.has "H" || !(isLong a || a.has "directory"
      || a.has "F")
    let found ← paths.mapM fun path => do
      match ← listedAt path path follows with
      | .ok l => pure (some l)
      | .error e => do
        let _ ← blame ("cannot access " ++ quoted path ++ ": " ++ errorText e)
        pure none
    let items := sortListed m a (found.filterMap id)
    let isOpened := fun (l : Listed) => l.node.isDirectory && !a.has "directory"
    let plain := items.filter (fun l => !isOpened l)
    showListed a plain
    let directories := (items.filter isOpened).map (·.name)
    if !plain.isEmpty ∧ !directories.isEmpty then print ['\n']
    let ok ← listDirectories a (1 < paths.length || a.has "recursive") maxDepth true directories
    pure (if found.all Option.isSome ∧ ok then 0 else 2)) true 2

/-! ## stat -/

/-- A part of what is known, for a letter. -/
def statPart (m : Machine) (path : Text) (place : Location) (node : Node) (c : Char) : Text :=
  let time := Moment.ofSeconds (timeOf m node)
  let text (s : String) : Text := s.toList
  match c with
  | 'n' => path
  | 'N' => Text.ofString (quoted path ++ match node with
      | .link target => " -> " ++ quoted (Text.ofString target)
      | _ => "")
  | 's' => naturalText node.size
  | 'a' => Nat.toDigits 8 node.mode
  | 'A' => Mode.listing (kindLetter node) node.mode
  | 'f' =>
    let kind := match node with
      | .directory _ => 0o040000
      | .link _ => 0o120000
      | .device _ => 0o020000
      | _ => 0o100000
    Nat.toDigits 16 (kind + node.mode)
  | 'F' => text (kindName node)
  | 'u' => text "0"
  | 'g' => text "0"
  | 'U' => text "root"
  | 'G' => text "root"
  | 'h' => naturalText (nameCount m.files place node)
  | 'b' => naturalText (blocksOf node * 2)
  | 'B' => text "512"
  | 'o' => text "4096"
  | 'i' => naturalText (FileSystem.serialOf node)
  | 'd' => text "1"
  | 'X' => textOfInt time.toSeconds
  | 'Y' => textOfInt time.toSeconds
  | 'Z' => textOfInt time.toSeconds
  | 'W' => text "0"
  | 'w' => text "-"
  | 't' => text "0"
  | 'T' => text "0"
  | 'x' => time.format 0 "%Y-%m-%d %H:%M:%S.%N %z".toList
  | 'y' => time.format 0 "%Y-%m-%d %H:%M:%S.%N %z".toList
  | 'z' => time.format 0 "%Y-%m-%d %H:%M:%S.%N %z".toList
  | 'm' => text "/"
  | 'C' => text "?"
  | _ => text "?"

/-- Fills in a format. Escapes count only where they are asked for. -/
def statText (escapes : Bool) (part : Char → Text) : (fuel : Nat) → Text → Text
  | 0, _ => []
  | fuel + 1, text =>
    match text with
    | [] => []
    | '%' :: '%' :: rest => '%' :: statText escapes part fuel rest
    | '%' :: rest =>
      let flags := rest.takeWhile (fun c => "-0+ #".toList.contains c)
      let rest := rest.drop flags.length
      let digits := rest.takeWhile isDigitChar
      match rest.drop digits.length with
      | [] => '%' :: flags ++ digits
      | c :: rest =>
        let width := valueOfDigits 10 digits
        let value := part c
        let shownValue := if flags.contains '-' then padRight width value
          else if flags.contains '0' then List.replicate (width - value.length) '0' ++ value
          else padLeft width value
        shownValue ++ statText escapes part fuel rest
    | '\\' :: c :: rest =>
      if escapes then
        let d := match c with
          | 'n' => '\n'
          | 't' => '\t'
          | c => c
        d :: statText escapes part fuel rest
      else '\\' :: c :: statText escapes part fuel rest
    | c :: rest => c :: statText escapes part fuel rest

/-- What is told of a file when no format is given. -/
def statLines : String :=
  "  File: %N\n  Size: %-10s\tBlocks: %-10b IO Block: %-6o %F\nDevice: 0,1\tInode: %-11i Links: %h\n"
    ++ "Access: (%04a/%A)  Uid: (%5u/%8U)   Gid: (%5g/%8G)\n"
    ++ "Access: %x\nModify: %y\nChange: %z\n Birth: -"

def stat (args : List Text) : Eval Nat :=
  withArguments [flag 'L' "dereference", flag 'f' "file-system", setting 'c' "format", flag 't' "terse",
      longFlag "printf" .value, longFlag "cached" .value] args fun a => do
    if a.operands.isEmpty then missingOperand
    else
      let template := match a.lastOf ["format", "printf"] with
        | some key => (a.value? key).getD []
        | none => if a.has "terse" then "%n %s %b %f %u %g 1 %i %h 0 0 %X %Y %Z %W %o".toList
            else statLines.toList
      let escapes := a.lastOf ["format", "printf"] = some "printf"
      forEach a.operands fun path => do
        match ← findNode (pathOf path) (a.has "dereference") with
        | .error e => blame ("cannot statx " ++ quoted path ++ ": " ++ errorText e)
        | .ok (place, node) => do
          let part := statPart (← get).machine path place node
          print (statText escapes part (template.length + 1) template
            ++ if escapes then [] else ['\n'])
          pure true

end Slipway.Tool
