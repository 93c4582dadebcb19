import Slipway.Rich.Builtin.Declarations

/-!
# Builtins of rich scripts for input

Reading lines into variables and lists, and the options of a script.
-/

namespace Slipway.Rich

open Shell (Text Eval self modifySelf setStatus naturalText)

/-! ## Reading -/

/-- How input is read. -/
structure ReadPlan where
  raw : Bool := false
  /-- The byte that ends it. -/
  delimiter : Char := '\n'
  /-- At most so many characters are read. -/
  most : Option Nat := none
  /-- The delimiter means nothing. -/
  exact : Bool := false
  descriptor : Nat := 0

/-- Bytes up to the delimiter, each with whether it was escaped, and whether the delimiter or the
count was reached. `missing` bytes belong to the character that was begun. -/
def readBytes (plan : ReadPlan) : (fuel : Nat) → (isEscaped : Bool) → (count missing : Nat) →
    (found : List (Char × Bool)) → Eval (List (Char × Bool) × Bool)
  | 0, _, _, _, found => pure (found.reverse, false)
  | fuel + 1, isEscaped, count, missing, found => do
    if missing = 0 ∧ plan.most = some count then return (found.reverse, true)
    let read ← match (← get).channel? plan.descriptor with
      | some id => Shell.readFrom id 1
      | none => pure (.ok [])
    match read with
    | .ok [b] =>
      let c := Char.ofNat b.toNat
      let n := b.toNat
      let missing := if n < 0x80 then 0 else if n < 0xC0 then missing - 1
        else if n < 0xE0 then 1 else if n < 0xF0 then 2 else 3
      let count := if n < 0x80 ∨ 0xC0 ≤ n then count + 1 else count
      if isEscaped then
        let found := if c = '\n' then found else (c, true) :: found
        readBytes plan fuel false (if c = '\n' then count - 2 else count - 1) missing found
      else if c = '\\' ∧ !plan.raw ∧ !plan.exact then
        readBytes plan fuel true count missing found
      else if c = plan.delimiter ∧ !plan.exact then pure (found.reverse, true)
      else if b = 0 then readBytes plan fuel false count missing found
      else readBytes plan fuel false count missing ((c, false) :: found)
    | _ => pure (found.reverse, false)

/-- More bytes than are ever read. -/
def maxInput : Nat := 100000000

/-- Whether a byte separates fields; escaped ones do not. -/
def separates (separators : Text) (c : Char × Bool) : Bool := !c.2 && separators.contains c.1

def isBlankSeparator (separators : Text) (c : Char × Bool) : Bool :=
  separates separators c && (c.1 = ' ' || c.1 = '\t' || c.1 = '\n')

/-- The first field of a line, and what is left behind the separator. -/
def firstField (separators : Text) (line : List (Char × Bool)) :
    List (Char × Bool) × List (Char × Bool) :=
  let field := line.takeWhile (fun c => !separates separators c)
  let rest := line.drop field.length
  let rest := rest.dropWhile (isBlankSeparator separators)
  match rest with
  | c :: more =>
    if separates separators c then (field, more.dropWhile (isBlankSeparator separators))
    else (field, rest)
  | [] => (field, [])

def withoutLastBlanks (separators : Text) (line : List (Char × Bool)) : List (Char × Bool) :=
  (line.reverse.dropWhile (isBlankSeparator separators)).reverse

/-- What so many variables get of a line; the last one takes the rest. -/
def splitLine (separators : Text) : (count : Nat) → List (Char × Bool) → List Text
  | 0, _ => []
  | 1, line =>
    let (field, rest) := firstField separators line
    [((if rest.isEmpty then field else withoutLastBlanks separators line)).map (·.1)]
  | count + 1, line =>
    let (field, rest) := firstField separators line
    field.map (·.1) :: splitLine separators count rest

/-- All fields of a line. -/
def allFields (separators : Text) : (fuel : Nat) → List (Char × Bool) → List Text
  | 0, _ => []
  | _, [] => []
  | fuel + 1, line =>
    let (field, rest) := firstField separators line
    field.map (·.1) :: allFields separators fuel rest

/-- The descriptor that an argument names. -/
def descriptorArg (text : Text) : Eval Nat := do
  match Shell.number? 10 text with
  | some n =>
    if n < 0 ∨ text.isEmpty then refuse (Text.toString text ++ ": invalid file descriptor specification")
    if ((← get).channel? n.toNat).isNone then
      refuse (Text.toString text ++ ": invalid file descriptor: Bad file descriptor")
    pure n.toNat
  | none => refuse (Text.toString text ++ ": invalid file descriptor specification")

def smallCount (text : Text) (what : String) : Eval Nat := do
  match Shell.number? 10 text with
  | some n =>
    if n < 0 ∨ text.isEmpty then refuse (Text.toString text ++ what)
    pure n.toNat
  | none => refuse (Text.toString text ++ what)

section

variable (r : Shell.Runner)

/-- Processes in the background that write to what is read have their turn first. -/
def letOthersRun (descriptor : Nat) : Eval Unit := do
  let s ← get
  match s.channelOf? descriptor with
  | some (.pipe [] [] _) => if !s.self.background.isEmpty then r.catchUp
  | _ => pure ()

def readBuiltin (args : List Text) : Eval Nat := do
  let (options, names) ← readOptions "ersa:d:i:n:N:p:t:u:" args
  let descriptor ← match optionArg? options 'u' with
    | some text => descriptorArg text
    | none => pure 0
  let badNumber := ": invalid number"
  let counted ← match optionArg? options 'n', optionArg? options 'N' with
    | _, some text => do pure (some (← smallCount text badNumber))
    | some text, none => do pure (some (← smallCount text badNumber))
    | none, none => pure none
  if let some text := optionArg? options 't' then
    if !(text.all (fun c => c.isDigit || c = '.')) ∨ text.isEmpty then
      refuse (Text.toString text ++ ": invalid timeout specification")
    if text.all (fun c => c = '0' || c = '.') then return 0
  let array := optionArg? options 'a'
  for name in array.toList ++ names do
    if !Shell.isName (splitReference name).1 then refuse (notValid name)
  let plan : ReadPlan :=
    { raw := hasOption options 'r', most := counted, exact := hasOption options 'N', descriptor
      delimiter := match optionArg? options 'd' with
        | some (c :: _) => c
        | some [] => '\x00'
        | none => '\n' }
  letOthersRun r descriptor
  if ((← get).channel? descriptor).isNone then
    modifySelf (fun p => { p with builtin := some "read".toList })
    warn ("read error: " ++ toString descriptor ++ ": Bad file descriptor")
    return 1
  let (line, ended) ← readBytes plan maxInput false 0 0 []
  let separators ← separators
  let inner := line.dropWhile (isBlankSeparator separators)
  let status := if ended then 0 else 1
  match array, names with
  | some name, _ => do
    let (name, _) ← resolved name
    if (((← context).find? name).map (·.content.isKeyed)).getD false then
      refuse (Text.toString name ++ ": cannot convert associative to indexed array")
    assignList name (listContent (allFields separators (line.length + 1) inner))
  | none, [] => assign "REPLY".toList none (line.map (·.1))
  | none, names =>
    if plan.exact then
      (names.zip (line.map (·.1) :: names.map (fun _ => []))).forM fun (name, value) =>
        assignNamed name value
    else
      (names.zip (splitLine separators names.length inner)).forM fun (name, value) =>
        assignNamed name value
  pure status

/-- The pieces of a text that end with a delimiter; the last one may lack it. -/
def piecesOf (delimiter : Char) : Text → List Text
  | [] => []
  | c :: rest =>
    if c = delimiter then [c] :: piecesOf delimiter rest
    else
      match piecesOf delimiter rest with
      | [] => [[c]]
      | piece :: others => (c :: piece) :: others

def mapfileBuiltin (args : List Text) : Eval Nat := do
  let (options, names) ← readOptions "d:n:O:s:tu:C:c:" args
  let descriptor ← match optionArg? options 'u' with
    | some text => descriptorArg text
    | none => pure 0
  let number (letter : Char) (what : String) : Eval (Option Nat) := do
    match optionArg? options letter with
    | some text => return some (← smallCount text what)
    | none => pure none
  let most ← number 'n' ": invalid line count"
  let skipped ← number 's' ": invalid line count"
  let origin ← number 'O' ": invalid array origin"
  let quantum ← number 'c' ": invalid callback quantum"
  let name := names.headD "MAPFILE".toList
  if !Shell.isName name then refuse (notValid name)
  letOthersRun r descriptor
  let bytes ← match (← get).channel? descriptor with
    | some id => do
      match ← Shell.readAll id with
      | .ok bytes => pure bytes
      | .error _ => pure []
    | none => pure []
  let delimiter := match optionArg? options 'd' with
    | some (c :: _) => c
    | some [] => '\x00'
    | none => '\n'
  let pieces := (piecesOf delimiter (Text.ofBytes bytes)).drop (skipped.getD 0)
  let pieces := match most with
    | some (n + 1) => pieces.take (n + 1)
    | _ => pieces
  let clean (piece : Text) : Text :=
    if (hasOption options 't' || delimiter = '\x00') && piece.getLast? = some delimiter
    then piece.dropLast else piece
  let (name, _) ← resolved name
  let found := ((← context).find? name).getD {}
  if found.readonly then refuseReadOnly name
  if found.content.isKeyed then
    refuse (Text.toString name ++ ": not an indexed array")
  if origin.isNone then assignList name (.indexed [])
  for (piece, i) in pieces.zipIdx do
    let index := i + origin.getD 0
    if let some callback := optionArg? options 'C' then
      if (i + 1) % quantum.getD 5000 = 0 then
        let _ ← r.script (callback ++ ' ' :: naturalText index ++ ' ' :: quotedArgument (clean piece)) {}
    putAt name index (clean piece)
  pure 0

end

/-! ## Options of a script -/

/-- Gives variables the option that was read, and remembers the place behind it. -/
def tellOption (name : Text) (option : Char) (place : Shell.OptionPlace) : Eval Unit := do
  putText "OPTIND".toList (naturalText place.index)
  modifySelf (fun p => { p with optionPlace := place })
  assignNamed name [option]

/-- An option that is not allowed or lacks its argument. With a colon in front of the allowed ones
the script is told of it, otherwise the user. -/
def refuseOption (isSilent : Bool) (option : Char) (message : String) : Eval Unit := do
  if isSilent then putText "OPTARG".toList [option]
  else do
    if (← text? "OPTERR") ≠ some ['0'] then
      Shell.complain (Text.toString (← self).name ++ ": " ++ message ++ " -- "
        ++ Text.toString [option] ++ "\n")
    removeVariable "OPTARG".toList

/-- Reads the next option of arguments. `letters` are left of the argument in front of `place`. -/
def readOption (spec name : Text) (args : List Text) (index : Nat) (letters : Text) :
    Eval Nat := do
  match letters with
  | [] => do
    removeVariable "OPTARG".toList
    tellOption name '?' { index }
    pure 1
  | c :: letters => do
    let isSilent := spec.head? = some ':'
    let here := index - 1
    let place : Shell.OptionPlace :=
      if letters.isEmpty then { index }
      else { index := here, offset := some ((args.getD (here - 1) []).length - letters.length) }
    match (Shell.optionsOf (if isSilent then spec.drop 1 else spec)).lookup c with
    | none => do
      refuseOption isSilent c "illegal option"
      tellOption name '?' place
    | some false => do
      removeVariable "OPTARG".toList
      tellOption name c place
    | some true =>
      if !letters.isEmpty then do
        putText "OPTARG".toList letters
        tellOption name c { index }
      else
        match args[index - 1]? with
        | some arg => do
          putText "OPTARG".toList arg
          tellOption name c { index := index + 1 }
        | none => do
          refuseOption isSilent c "option requires an argument"
          tellOption name (if isSilent then ':' else '?') { index }
    pure 0

def getoptsBuiltin (args : List Text) : Eval Nat := do
  match ← plainArgs args with
  | spec :: name :: operands => do
    let p ← self
    let args := if operands.isEmpty then p.args else operands
    let place := if args.length + 1 < p.optionPlace.index then {} else p.optionPlace
    match place.offset with
    | some n => readOption spec name args (place.index + 1) ((args.getD (place.index - 1) []).drop n)
    | none =>
      match args[place.index - 1]? with
      | some ['-', '-'] => readOption spec name args (place.index + 1) []
      | some ('-' :: c :: letters) => readOption spec name args (place.index + 1) (c :: letters)
      | _ => readOption spec name args place.index []
  | _ => showUsage

end Slipway.Rich
