import Slipway.Regex.Parser
import Slipway.Tool.Listing
import Slipway.Tool.Starting

/-!
# Finding files

The program `find` walks through directories and tries an expression on everything that it meets.
-/

namespace Slipway.Tool

open Shell

namespace Finding

/-- What an expression is tried on. -/
structure Item where
  path : Text
  /-- The path that the walk began at. -/
  start : Text
  depth : Nat
  place : Location
  node : Node

inductive Test
  | always (value : Bool)
  | not (test : Test)
  | and (first second : Test)
  | or (first second : Test)
  /-- Both are tried, the second one counts. -/
  | both (first second : Test)
  | holds (test : Machine → Item → Bool)
  | print (mark : Char)
  | printAs (format : Text)
  | list
  | delete
  | prune
  | quit
  /-- Starts a command, with the path in the places of braces. -/
  | start (command : List Text) (inDirectory : Bool)
  /-- Starts a command once for all paths, at the end. -/
  | collect (number : Nat) (command : List Text)

/-- What holds for the whole walk. -/
structure Plan where
  least : Nat := 0
  most : Option Nat := none
  insideFirst : Bool := false
  /-- How many commands are started at the end. -/
  commands : Nat := 0
  /-- Whether the expression says what is done. -/
  acts : Bool := false

/-- A parser of the arguments that make the expression. -/
abbrev Reader := StateT (List Text × Plan) (Except String)

def next? : Reader (Option Text) := do
  match ← get with
  | (arg :: rest, plan) => do
    set (rest, plan)
    pure (some arg)
  | ([], _) => pure none

def peek : Reader (Option Text) := return (← get).1.head?

def argument (predicate : Text) : Reader Text := do
  match ← next? with
  | some arg => pure arg
  | none => throw ("missing argument to \x60" ++ predicate.toString ++ "'")

def setPlan (f : Plan → Plan) : Reader Unit := modify (fun (args, plan) => (args, f plan))

/-- A count that may be meant as more or less than it. -/
def readCount (predicate text : Text) : Reader (Nat → Bool) := do
  let (sign, digits) := match text with
    | '+' :: rest => ('+', rest)
    | '-' :: rest => ('-', rest)
    | rest => ('=', rest)
  match decimal? digits with
  | none => throw ("invalid argument \x60" ++ text.toString ++ "' to \x60" ++ predicate.toString ++ "'")
  | some n => pure (fun m => if sign = '+' then n < m else if sign = '-' then m < n else m = n)

def globTest (glob : Text) (folds : Bool) (text : Text) : Bool :=
  let lower := fun (t : Text) => if folds then t.map Char.toLower else t
  matchesPattern (patternOf ((lower glob).map (fun c => ⟨c, false⟩))) (lower text)

def regexTest (pattern : Text) (folds : Bool) : Reader (Text → Bool) := do
  match Regex.parse false pattern with
  | .error e => throw e
  | .ok (r, _) => pure fun text =>
    (r.ends { ignoresCase := folds } text.toArray 0).getLast? = some text.length

/-- The words of a command up to a semicolon, or up to a plus sign behind braces. -/
def readCommand (predicate : Text) : (fuel : Nat) → (found : List Text) → Reader (List Text × Bool)
  | 0, _ => throw ("missing argument to \x60" ++ predicate.toString ++ "'")
  | fuel + 1, found => do
    match ← next? with
    | none => throw ("missing argument to \x60" ++ predicate.toString ++ "'")
    | some [';'] =>
      if found.isEmpty then throw ("invalid argument \x60;' to \x60" ++ predicate.toString ++ "'")
      else pure (found, false)
    | some ['+'] =>
      if found.getLast? = some "\x7b\x7d".toList then pure (found.dropLast, true)
      else readCommand predicate fuel (found ++ [['+']])
    | some arg => readCommand predicate fuel (found ++ [arg])

def kindTest (letters : Text) : Reader Test := do
  let kinds := letters.splitOn ','
  match kinds.find? (fun k => !(["f", "d", "l", "c", "b", "p", "s"].contains (String.ofList k))) with
  | some wrong => throw ("Unknown argument to -type: " ++ (Text.toString (wrong.take 1)))
  | none => pure (.holds fun _ item =>
      kinds.contains [let letter := kindLetter item.node; if letter = '-' then 'f' else letter])

/-- Units of sizes in bytes. -/
def sizeUnit? (c : Char) : Option Nat :=
  match c with
  | 'c' => some 1
  | 'w' => some 2
  | 'b' => some 512
  | 'k' => some 1024
  | 'M' => some 1048576
  | 'G' => some 1073741824
  | _ => none

def isEmptyItem (m : Machine) (item : Item) : Bool :=
  match item.node with
  | .directory _ => (m.files.children item.place).isEmpty
  | .file data => data.content.isEmpty
  | _ => false

/-- The time of what a path leads to. -/
def timeOfPath (m : Machine) (path : Text) : Option Int :=
  (m.files.findNode m.directory (pathOf path)).toOption.map (fun found => timeOf m found.2)

/-- A predicate with its arguments. -/
def readPredicate (m : Machine) (name : Text) : Reader Test := do
  let acts (test : Test) : Reader Test := do
    setPlan (fun plan => { plan with acts := true })
    pure test
  let natural (arg : Text) : Reader Nat :=
    match decimal? arg with
    | some n => pure n
    | none => throw ("Expected a positive decimal integer argument to " ++ name.toString
        ++ ", but got " ++ emphasized arg)
  match String.ofList name with
  | "-true" => pure (.always true)
  | "-false" => pure (.always false)
  | "-print" => acts (.print '\n')
  | "-print0" => acts (.print '\x00')
  | "-printf" => do
    let template ← argument name
    acts (.printAs template)
  | "-ls" => acts .list
  | "-delete" => do
    setPlan (fun plan => { plan with insideFirst := true })
    acts .delete
  | "-prune" => pure .prune
  | "-quit" => acts .quit
  | "-depth" => do
    setPlan (fun plan => { plan with insideFirst := true })
    pure (.always true)
  | "-d" => do
    setPlan (fun plan => { plan with insideFirst := true })
    pure (.always true)
  | "-mount" => pure (.always true)
  | "-xdev" => pure (.always true)
  | "-follow" => pure (.always true)
  | "-daystart" => pure (.always true)
  | "-noleaf" => pure (.always true)
  | "-maxdepth" => do
    let n ← natural (← argument name)
    setPlan (fun plan => { plan with most := some n })
    pure (.always true)
  | "-mindepth" => do
    let n ← natural (← argument name)
    setPlan (fun plan => { plan with least := n })
    pure (.always true)
  | "-name" => do
    let glob ← argument name
    pure (.holds fun _ item => globTest glob false (lastName item.path))
  | "-iname" => do
    let glob ← argument name
    pure (.holds fun _ item => globTest glob true (lastName item.path))
  | "-path" => do
    let glob ← argument name
    pure (.holds fun _ item => globTest glob false item.path)
  | "-wholename" => do
    let glob ← argument name
    pure (.holds fun _ item => globTest glob false item.path)
  | "-ipath" => do
    let glob ← argument name
    pure (.holds fun _ item => globTest glob true item.path)
  | "-lname" => do
    let glob ← argument name
    pure (.holds fun _ item => match item.node with
      | .link target => globTest glob false (Text.ofString target)
      | _ => false)
  | "-regex" => do
    let test ← regexTest (← argument name) false
    pure (.holds fun _ item => test item.path)
  | "-iregex" => do
    let test ← regexTest (← argument name) true
    pure (.holds fun _ item => test item.path)
  | "-regextype" => do
    let _ ← argument name
    pure (.always true)
  | "-type" => do kindTest (← argument name)
  | "-empty" => pure (.holds isEmptyItem)
  | "-size" => do
    let text ← argument name
    let unit := text.getLast?.bind sizeUnit?
    let test ← readCount name (if unit.isSome then text.dropLast else text)
    let unit := unit.getD 512
    pure (.holds fun _ item => test ((item.node.size + unit - 1) / unit))
  | "-links" => do
    let test ← readCount name (← argument name)
    pure (.holds fun m item => test (nameCount m.files item.place item.node))
  | "-newer" => do
    let path ← argument name
    match timeOfPath m path with
    | none => throw (emphasized path ++ ": " ++ errorText .noEntry)
    | some time => pure (.holds fun m item => time < timeOf m item.node)
  | "-mtime" => do
    let test ← readCount name (← argument name)
    pure (.holds fun m item => test ((m.now - timeOf m item.node) / 86400).toNat)
  | "-mmin" => do
    let test ← readCount name (← argument name)
    pure (.holds fun m item => test ((m.now - timeOf m item.node + 59) / 60).toNat)
  | "-user" => do
    let user ← argument name
    pure (.always (user = "root".toList || user = ['0']))
  | "-group" => do
    let group ← argument name
    pure (.always (group = "root".toList || group = ['0']))
  | "-readable" => pure (.holds fun _ item => ownerReads item.node.mode)
  | "-writable" => pure (.holds fun _ item => ownerWrites item.node.mode)
  | "-executable" => pure (.holds fun _ item => ownerExecutes item.node.mode)
  | "-perm" => do
    let text ← argument name
    let (kind, letters) := match text with
      | '-' :: rest => ('-', rest)
      | '/' :: rest => ('/', rest)
      | rest => ('=', rest)
    match Mode.change? 0 false 0 letters with
    | none => throw ("invalid mode " ++ emphasized text)
    | some mode => pure (.holds fun _ item =>
        let own := item.node.mode
        if kind = '-' then own &&& mode = mode
        else if kind = '/' then mode = 0 || own &&& mode ≠ 0
        else own = mode)
  | "-exec" => do
    let (command, isAll) ← readCommand name 100000 []
    if isAll then
      let number := (← get).2.commands
      setPlan (fun plan => { plan with commands := number + 1 })
      acts (.collect number command)
    else acts (.start command false)
  | "-execdir" => do
    let (command, _) ← readCommand name 100000 []
    acts (.start command true)
  | "-ok" => do
    let _ ← readCommand name 100000 []
    acts (.always false)
  | _ => throw ("unknown predicate \x60" ++ name.toString ++ "'")

mutual

/-- Expressions of which the last one counts. -/
def readList (m : Machine) : (fuel : Nat) → Reader Test
  | 0 => throw "expression too deep"
  | fuel + 1 => do
    let first ← readOr m fuel
    match ← peek with
    | some [','] => do
      let _ ← next?
      return .both first (← readList m fuel)
    | _ => pure first

def readOr (m : Machine) : (fuel : Nat) → Reader Test
  | 0 => throw "expression too deep"
  | fuel + 1 => do
    let first ← readAnd m fuel
    match (← peek).map String.ofList with
    | some arg =>
      if arg = "-o" ∨ arg = "-or" then do
        let _ ← next?
        return .or first (← readOr m fuel)
      else pure first
    | none => pure first

def readAnd (m : Machine) : (fuel : Nat) → Reader Test
  | 0 => throw "expression too deep"
  | fuel + 1 => do
    let first ← readOne m fuel
    match (← peek).map String.ofList with
    | none => pure first
    | some arg =>
      if [")", ",", "-o", "-or"].contains arg then pure first
      else do
        if arg = "-a" ∨ arg = "-and" then
          let _ ← next?
        return .and first (← readAnd m fuel)

def readOne (m : Machine) : (fuel : Nat) → Reader Test
  | 0 => throw "expression too deep"
  | fuel + 1 => do
    match ← next? with
    | none => throw "expected an expression after an operator"
    | some name =>
      match String.ofList name with
      | "!" => return .not (← readOne m fuel)
      | "-not" => return .not (← readOne m fuel)
      | "(" => do
        let inner ← readList m fuel
        match ← next? with
        | some [')'] => pure inner
        | _ => throw "invalid expression; I was expecting to find a ')' somewhere but did not see one."
      | ")" => throw "invalid expression; you have too many ')'"
      | _ => readPredicate m name

end

/-- The expression that arguments write. -/
def readExpression (m : Machine) (args : List Text) : Except String (Test × Plan) :=
  if args.isEmpty then .ok (.print '\n', {})
  else do
    let (test, rest, plan) ← (readList m (4 * args.length + 8)).run (args, {})
    if !rest.isEmpty then throw "invalid expression; you have too many ')'"
    else .ok (if plan.acts then test else .and test (.print '\n'), plan)

/-! ## Trying -/

/-- What a walk leads to. -/
structure Outcome where
  failed : Bool := false
  ended : Bool := false
  pruned : Bool := false
  /-- Paths for the commands at the end. -/
  collected : List (Nat × Text) := []

/-- Fills in a format for what was found. -/
def fillIn (m : Machine) (item : Item) : (fuel : Nat) → Text → Text
  | 0, _ => []
  | fuel + 1, text =>
    match text with
    | [] => []
    | '%' :: c :: rest =>
      let (value, rest) : Text × Text := match c with
        | '%' => (['%'], rest)
        | 'p' => (item.path, rest)
        | 'f' => (lastName item.path, rest)
        | 'h' => (let dir := directoryName item.path
                  if item.depth = 0 ∧ !item.path.contains '/' then ['.'] else dir, rest)
        | 'P' => ((item.path.drop item.start.length).dropWhile (· = '/'), rest)
        | 'H' => (item.start, rest)
        | 'd' => (naturalText item.depth, rest)
        | 's' => (naturalText item.node.size, rest)
        | 'm' => (Nat.toDigits 8 item.node.mode, rest)
        | 'M' => (Mode.listing (kindLetter item.node) item.node.mode, rest)
        | 'y' => ([if kindLetter item.node = '-' then 'f' else kindLetter item.node], rest)
        | 'l' => (match item.node with
          | .link target => Text.ofString target
          | _ => [], rest)
        | 'n' => (naturalText (nameCount m.files item.place item.node), rest)
        | 'u' => ("root".toList, rest)
        | 'g' => ("root".toList, rest)
        | 'U' => (['0'], rest)
        | 'G' => (['0'], rest)
        | 'T' => (match rest with
          | '@' :: rest => (textOfInt (timeOf m item.node) ++ ".0000000000".toList, rest)
          | c :: rest =>
            ((Moment.ofSeconds (timeOf m item.node)).format 0 ['%', c], rest)
          | [] => ([], []))
        | c => (['%', c], rest)
      value ++ fillIn m item fuel rest
    | '\\' :: c :: rest =>
      let value : Text := match c with
        | 'n' => ['\n']
        | 't' => ['\t']
        | '0' => ['\x00']
        | '\\' => ['\\']
        | c => ['\\', c]
      value ++ fillIn m item fuel rest
    | c :: rest => c :: fillIn m item fuel rest

/-- Tries an expression on an item. -/
def attempt (r : Shell.Runner) (item : Item) : Test → Outcome → Eval (Bool × Outcome)
  | .always value, o => pure (value, o)
  | .not test, o => do
    let (value, o) ← attempt r item test o
    pure (!value, o)
  | .and first second, o => do
    let (value, o) ← attempt r item first o
    if value ∧ !o.ended then attempt r item second o else pure (value, o)
  | .or first second, o => do
    let (value, o) ← attempt r item first o
    if value ∨ o.ended then pure (value, o) else attempt r item second o
  | .both first second, o => do
    let (_, o) ← attempt r item first o
    if o.ended then pure (true, o) else attempt r item second o
  | .holds test, o => do pure (test (← get).machine item, o)
  | .print mark, o => do
    print (item.path ++ [mark])
    pure (true, o)
  | .printAs format, o => do
    print (fillIn (← get).machine item (format.length + 1) format)
    pure (true, o)
  | .list, o => do
    printLine item.path
    pure (true, o)
  | .delete, o => do
    if item.path = ['.'] then pure (true, o)
    else
      let removed ← if item.node.isDirectory then removeDirectory item.path
        else act (.remove (pathOf item.path))
      match removed with
      | .ok () => pure (true, o)
      | .error e => do
        say ("cannot delete " ++ quoted item.path ++ ": " ++ errorText e)
        pure (false, { o with failed := true })
  | .prune, o => pure (true, { o with pruned := true })
  | .quit, o => pure (true, { o with ended := true })
  | .start command inDirectory, o => do
    let path := if inDirectory then "./".toList ++ lastName item.path else item.path
    let command := command.map (fun arg => replaceMarks "\x7b\x7d".toList path (arg.length + 1) arg)
    let before := (← get).machine.directory
    if inDirectory then
      modify (fun s => { s with machine := { s.machine with
        directory := if item.depth = 0 then s.machine.directory else item.place.dropLast } })
    let result ← startAndWait r command
    if inDirectory then
      modify (fun s => { s with machine := { s.machine with directory := before } })
    match result with
    | .ok ending => pure (ending = .code 0, o)
    | .error e => do
      say (emphasized (command.headD []) ++ ": " ++ errorText e)
      pure (false, o)
  | .collect number _, o => pure (true, { o with collected := (number, item.path) :: o.collected })

/-- The commands that are started at the end. -/
def commandsOf : Test → List (Nat × List Text)
  | .not test => commandsOf test
  | .and a b => commandsOf a ++ commandsOf b
  | .or a b => commandsOf a ++ commandsOf b
  | .both a b => commandsOf a ++ commandsOf b
  | .collect number command => [(number, command)]
  | _ => []

/-- Tries the expression on what is at a path and on all below it. -/
def walk (r : Shell.Runner) (plan : Plan) (follows : Bool) (test : Test) : (fuel : Nat) →
    (start : Text) → (depth : Nat) → Text → Outcome → Eval Outcome
  | 0, _, _, _, o => pure o
  | fuel + 1, start, depth, path, o => do
    let found ← findNode (pathOf path) follows
    let found ← match found with
      | .error _ => findNode (pathOf path) false
      | found => pure found
    match found with
    | .error e => do
      say (emphasized path ++ ": " ++ errorText e)
      pure { o with failed := true }
    | .ok (place, node) =>
      let item : Item := { path, start, depth, place, node }
      let tryOn (o : Outcome) : Eval Outcome := do
        if depth < plan.least ∨ o.ended then pure o
        else
          let (_, o) ← attempt r item test { o with pruned := false }
          pure o
      let o ← if plan.insideFirst then pure { o with pruned := false }
        else tryOn { o with pruned := false }
      let goesIn := node.isDirectory && plan.most.all (fun most => depth < most)
        && (plan.insideFirst || !o.pruned) && !o.ended
      let o ← if goesIn then do
          let names ← sortedNames path
          names.foldlM (fun o name =>
            if o.ended then pure o
            else walk r plan follows test fuel start (depth + 1) (joinName path name) o) o
        else pure o
      if plan.insideFirst then tryOn o else pure o

end Finding

open Finding in
def find (r : Shell.Runner) (args : List Text) : Eval Nat := do
  let options := args.takeWhile (fun arg => ["-H", "-L", "-P"].contains (String.ofList arg))
  let follows := options.getLast? = some "-L".toList
  let args := args.drop options.length
  let starts := args.takeWhile (fun arg =>
    arg.head? ≠ some '-' ∧ arg ≠ ['('] ∧ arg ≠ ['!'] ∧ arg ≠ [')'])
  match readExpression (← get).machine (args.drop starts.length) with
  | .error text => do
    say text
    pure 1
  | .ok (test, plan) =>
    let starts := if starts.isEmpty then [['.']] else starts
    let o ← starts.foldlM (fun o start => walk r plan follows test maxDepth start 0 start o)
      ({} : Outcome)
    let ok ← (commandsOf test).foldlM (fun ok (number, command) => do
      let paths := ((o.collected.filter (·.1 = number)).map (·.2)).reverse
      if paths.isEmpty then pure ok
      else
        match ← startAndWait r (command ++ paths) with
        | .ok ending => pure (ok && ending = .code 0)
        | .error e => do
          say (emphasized (command.headD []) ++ ": " ++ errorText e)
          pure false) true
    pure (if o.failed ∨ !ok then 1 else 0)

end Slipway.Tool
