import Slipway.Rich.Builtin.Control
import Slipway.Rich.Builtin.Directories
import Slipway.Rich.Builtin.Lookup
import Slipway.Rich.Builtin.Options
import Slipway.Rich.Redirection

/-!
# Simple commands of rich scripts

Words are expanded first, then assignments; what the first word stands for is run with its
redirections.
-/

namespace Slipway.Rich

open Shell (Text Eval Flags self modifySelf setStatus attempt ensuring naturalText)

/-- The shell is at a line of the script. -/
def startLine (line : Nat) : Eval Unit := modifySelf (fun p => { p with line })

/-- A word that is written in a text, with the quotes of a document. -/
def wordOfText (text : Text) : Word :=
  match ((Parser.readParts (Parser.parseInside Parser.fuel) .document).run {}).run (.ofText [] text) with
  | .ok ((word, _), _) => word
  | .error _ => [.literal text]

section

variable (r : Shell.Runner)

/-! ## Showing commands -/

/-- What stands in front of a command that is shown. Its first letter tells how deep the command is
in others. -/
def tracePrompt : Eval Text := do
  let prompt := (← text? "PS4").getD []
  let before ← self
  modifySelf (·.setOption "xtrace" false)
  let shown ← if prompt.contains '$' ∨ prompt.contains '\x60' then
      textOfParts r { quoted := true } (wordOfText prompt)
    else pure prompt
  modifySelf (fun p => { p with
    options := before.options, status := before.status, outputStatus := before.outputStatus })
  let depth := (← context).evaluations
  pure (List.replicate (depth - 1) (shown.headD ' ') ++ shown)

/-- Shows something that is about to be done. -/
def trace (text : Text) : Eval Unit := do
  if (← self).has "xtrace" then
    let prompt ← tracePrompt r
    let descriptor := ((← text? "BASH_XTRACEFD").filter (fun v => !v.isEmpty && v.all Char.isDigit)).map
      (Shell.valueOfDigits 10)
    let _ ← Shell.emit (descriptor.getD 2) (prompt ++ text ++ ['\n']).toBytes

def shownAssignment (name : Text) (subscript : Option Word) (appends : Bool) (value : Text) : Text :=
  Printer.assignmentText Printer.maxDepth (.mk name subscript appends (.text []))
    ++ (if value.isEmpty then [] else quotedInTrace value)

/-! ## Actions -/

/-- Does what is to be done at an event. The status stays as it is. -/
def runAction (name : String) : Eval Unit := do
  let c ← context
  match c.actions.lookup name, c.inAction with
  | some action, false =>
    if !action.isEmpty then
      let before ← self
      modifyContext (fun c => { c with inAction := true })
      let result ← attempt (r.script action {})
      modifyContext (fun c => { c with inAction := false })
      match result with
      | .error .error => pure ()
      | .error .discard => pure ()
      | .error stop => throw stop
      | .ok _ => pure ()
      modifySelf (fun p => { p with status := before.status, line := before.line })
  | _, _ => pure ()

/-- Notes which command is about to run, and does what is to be done in front of it. -/
def approach (command : Command) : Eval Unit := do
  modifyContext (fun c => if c.inAction then c else { c with command := some command })
  runAction r "DEBUG"

/-! ## Assignments -/

/-- Gives a variable its value for good. -/
def assignForGood : Assignment → Eval Unit
  | .mk name subscript appends value => do
    match value with
    | .list elements => do
      if subscript.isSome then refuse "cannot assign list to array member"
      trace r (Printer.assignmentText Printer.maxDepth (.mk name subscript appends value))
      assignElements r name elements appends
    | .text word => do
      let text ← expandValue r word
      let key ← match subscript with
        | some parts => do pure (some (← textOfParts r {} parts))
        | none => pure none
      trace r (shownAssignment name subscript appends text)
      assign name key text appends

/-- Gives variables their values for one command only. -/
def assignForCommand : Assignment → Eval Unit
  | .mk name subscript appends value => do
    match subscript, value with
    | some parts, _ => do
      warn ("\x60" ++ Text.toString name ++ "[" ++ Text.toString (← textOfParts r {} parts)
        ++ "]': not a valid identifier")
    | none, value => do
      let text ← match value with
        | .text word => expandValue r word
        | .list _ => pure ((Printer.assignmentText Printer.maxDepth (.mk [] none false value)).drop 1)
      trace r (shownAssignment name subscript appends text)
      let found := ((← context).find? name).getD {}
      if found.readonly then
        warn (Text.toString name ++ ": readonly variable")
      else
        let old := if appends then (found.content.first?).getD [] else []
        let v : Variable := { content := .text (old ++ text), exported := true }
        notice name text
        modifyContext (fun c => { c with scopes := match c.scopes with
          | scope :: rest => scope.put name v :: rest
          | [] => [] })

/-- Does something with variables that are only there as long as it runs. -/
def withVariables {α : Type} (assignments : List Assignment) (body : Eval α) : Eval α := do
  if assignments.isEmpty then body
  else
    let depth := (← context).scopes.length
    modifyContext (fun c => { c with scopes := {} :: c.scopes })
    ensuring (do
      assignments.forM (assignForCommand r)
      body) (do
      modifyContext (fun c => { c with scopes := c.scopes.drop (c.scopes.length - depth) })
      if let some path := assignments.find? (fun (.mk name _ _ _) => name = "PATH".toList) then
        let .mk name _ _ _ := path
        notice name [])

/-! ## Words -/

def expandItem : Item → Eval (List Argument)
  | .word word => return (← expandFields r word).map .text
  | .assignment (.mk name subscript appends value) => do
    match value with
    | .list elements => do
      trace r (Printer.assignmentText Printer.maxDepth (.mk name subscript appends value))
      pure [.list name appends elements]
    | .text word => do
      let key ← match subscript with
        | some parts => do pure ('[' :: (← textOfParts r {} parts) ++ [']'])
        | none => pure []
      let text ← expandValue r word
      pure [.text (name ++ key ++ (if appends then ['+', '='] else ['=']) ++ text)]

/-! ## Functions -/

/-- Calls a function. -/
def runFunction (flags : Flags) (name : Text) (f : Definition) (args : List Text) : Eval Nat := do
  let before ← self
  let c ← context
  let stays (action : String × Text) : Bool :=
    f.traced || before.has (if action.1 = "ERR" then "errtrace" else "functrace")
  modifyContext (fun c => { c with
    calls := { name, source := f.source, line := before.line } :: c.calls
    scopes := { isCall := true } :: c.scopes
    actions := c.actions.filter stays })
  modifySelf (fun p => { p with args, loops := 0 })
  ensuring (do
    let status ← r.runRich f.body { tested := flags.tested }
    setStatus status
    modifySelf (fun p => { p with skip := p.skip.filter (fun skip => match skip with
      | .return _ => false
      | _ => true) })
    runAction r "RETURN"
    pure status) (do
    let scopes := (← context).scopes
    let inner := scopes.take (scopes.length - c.scopes.length)
    modifySelf (fun p => { p with
      args := before.args
      loops := before.loops
      line := before.line
      options := (inner.findSome? (·.options)).getD p.options })
    modifyContext (fun d => { d with
      calls := c.calls
      scopes := scopes.drop inner.length
      actions := d.actions ++ c.actions.filter (fun (a : String × Text) =>
        !stays a && (d.actions.lookup a.1).isNone) }))

/-! ## Builtins -/

/-- Becomes a program for good. A shell that cannot is at its end, unless it is to go on. -/
def execBuiltin (args : List Text) : Eval Nat := do
  let (options, words) ← readOptions "cla:" args
  match words with
  | [] => pure 0
  | name :: rest => do
    let builtin := (← self).builtin
    let found ← if name.contains '/' then pure (.program name)
      else findProgram (← searchPath) name false
    let shown := (optionArg? options 'a').getD name
    let first := if hasOption options 'l' then '-' :: shown else shown
    let c ← context
    let environment := if hasOption options 'c' then [] else c.environmentBelow ++ c.passedFunctions
    let status ← match found with
      | .program place => do
        modifySelf (fun p => { p with builtin := none })
        let result ← attempt (becomeFile r place (first :: rest) environment)
        modifySelf (fun p => { p with builtin })
        match result with
        | .error .finished => do
          let status := (← self).status
          let m := (← get).machine
          if status = 126 ∧ !m.files.satisfies m.directory (Shell.pathOf place)
              (fun node => node.isRegular && FileSystem.isExecutableNode node) then
            warn (Text.toString name ++ ": cannot execute: "
              ++ (if isDirectory m place then "Is a directory" else "Permission denied"))
          pure status
        | .error stop => throw stop
        | .ok () => pure 0
      | _ => do
        warn (Text.toString name ++ ": not found")
        pure 127
    if (← context).has "execfail" then pure status
    else
      modifySelf (fun p => { p with savedStatus := some status })
      throw .exit

/-- How a command is run that another one names: a search path that is used for it, whether it is
only a builtin, and its words. -/
abbrev RunNamed := (path : Option Text) → (onlyBuiltins : Bool) → List Argument → Eval Nat

/-- Runs a command without looking at functions, or tells what names stand for. -/
def commandBuiltin (run : RunNamed) (args : List Argument) : Eval Nat := do
  let (options, rest) ← splitArguments false "pVv" args
  let has (c : Char) : Bool := options.any (fun o => o.2.1 = c)
  let path := if has 'p' then some Shell.standardPath else none
  if has 'v' ∨ has 'V' then
    let how : Telling := if (options.filter (fun o => o.2.1 ≠ 'p')).getLast?.map (·.2.1) = some 'V'
      then .words else .again
    describeAll { how, path } (rest.map Argument.toText)
  else if rest.isEmpty then pure 0
  else run path false rest

/-- Runs a builtin, even if there is a function of its name. -/
def builtinBuiltin (run : RunNamed) (args : List Argument) : Eval Nat := do
  let (_, rest) ← splitArguments false "" args
  match rest with
  | [] => pure 0
  | name :: _ => do
    if (← context).hasBuiltin name.toText then run none true rest
    else
      warn (Text.toString name.toText ++ ": not a shell builtin")
      pure 1

def carryOutBuiltin (run : RunNamed) (flags : Flags) (name : Text) (items : List Argument) :
    Eval Nat := do
  let args := items.map Argument.toText
  match String.ofList name with
  | "." => sourceBuiltin r flags args
  | ":" => pure 0
  | "[" => bracketBuiltin args
  | "alias" => aliasBuiltin args
  | "bg" => resumeBuiltin args
  | "break" => skipLoops .leave args
  | "builtin" => builtinBuiltin run items
  | "caller" => callerBuiltin args
  | "cd" => cdBuiltin args
  | "command" => commandBuiltin run items
  | "continue" => skipLoops .again args
  | "declare" => declareBuiltin r items
  | "dirs" => dirsBuiltin args
  | "disown" => disownBuiltin args
  | "echo" => echoBuiltin args
  | "enable" => enableBuiltin args
  | "eval" => evalBuiltin r flags args
  | "exec" => execBuiltin r args
  | "exit" => exitBuiltin args
  | "export" => exportBuiltin r items
  | "false" => pure 1
  | "fg" => resumeBuiltin args
  | "getopts" => getoptsBuiltin args
  | "hash" => hashBuiltin args
  | "jobs" => jobsBuiltin r args
  | "kill" => killBuiltin args
  | "let" => letBuiltin args
  | "local" => localBuiltin r items
  | "logout" => logoutBuiltin args
  | "mapfile" => mapfileBuiltin r args
  | "popd" => popdBuiltin args
  | "printf" => printfBuiltin args
  | "pushd" => pushdBuiltin args
  | "pwd" => pwdBuiltin args
  | "read" => readBuiltin r args
  | "readarray" => mapfileBuiltin r args
  | "readonly" => readonlyBuiltin r items
  | "return" => returnBuiltin args
  | "set" => setBuiltin args
  | "shift" => shiftBuiltin args
  | "shopt" => shoptBuiltin args
  | "source" => sourceBuiltin r flags args
  | "suspend" => suspendBuiltin args
  | "test" => testBuiltin args
  | "times" => timesBuiltin args
  | "trap" => trapBuiltin args
  | "true" => pure 0
  | "type" => typeBuiltin args
  | "typeset" => declareBuiltin r items
  | "ulimit" => ulimitBuiltin args
  | "umask" => umaskBuiltin args
  | "unalias" => unaliasBuiltin args
  | "unset" => unsetBuiltin args
  | "wait" => waitBuiltin r args
  | _ => pure 0

/-- Carries out a builtin and writes its output. An error only ends the builtin. -/
def runBuiltin (run : RunNamed) (flags : Flags) (name : Text) (args : List Argument) :
    Eval Nat := do
  let outer := (← self).builtin
  modifySelf (fun p => { p with builtin := some name })
  let result ← attempt (do
    let status ← carryOutBuiltin r run flags name args
    match ← Shell.flush with
    | .ok () => pure status
    | .error e => do
      warn ("write error: " ++ Shell.errorText e)
      pure 1)
  match result with
  | .error .error => do
    let _ ← Shell.flush
  | _ => pure ()
  modifySelf (fun p => { p with builtin := outer, unwritten := [] })
  match result with
  | .ok status => pure status
  | .error .error => return (← self).status
  | .error stop => throw stop

/-! ## Running what was found -/

/-- The builtins that show assignments once more when they are carried out. -/
def showsAssignments (name : Text) : Bool :=
  ["export", "readonly"].contains (String.ofList name)

/-- Runs the command that the first of some words names. -/
def runNamed : (fuel : Nat) → (flags : Flags) → (withFunctions : Bool) → (path : Option Text) →
    (onlyBuiltins : Bool) → List Argument → Eval Nat
  | 0, _, _, _, _, _ => pure 127
  | _, _, _, _, _, [] => pure 0
  | fuel + 1, flags, withFunctions, path, onlyBuiltins, first :: args => do
    let name := first.toText
    let found ← if onlyBuiltins then pure Found.builtin
      else findCommand withFunctions true path name
    match found with
    | .function f => runFunction r flags name f (args.map Argument.toText)
    | .builtin => do
      if showsAssignments name then
        args.forM fun arg => do
          let text := arg.toText
          let assigned := text.takeWhile (· ≠ '=')
          if assigned.length < text.length ∧ Shell.isName assigned then
            trace r (shownAssignment assigned none false (text.drop (assigned.length + 1)))
      runBuiltin r (runNamed fuel flags false) flags name args
    | found => do
      countUse name
      modifySelf (fun p => { p with builtin := none })
      runProgram r flags found (name :: args.map Argument.toText)

/-! ## Files that lead to commands -/

/-- Runs the commands that read what nobody writes to any more. -/
def runReaders : Eval Unit := do
  let p ← self
  let (waiting, ready) := (← context).readers.partition (fun (reader : Reader) =>
    p.descriptors.any (fun (e : Nat × Nat) => e.2 = reader.channel))
  modifyContext (fun c => { c with readers := waiting })
  ready.forM fun (reader : Reader) => do
    if let some body := reader.body then
      let _ ← inCopy (do
        modifySelf (fun p => ({ p with descriptors := reader.descriptors }).connect 0
          (some reader.channel))
        r.toEnd (do let _ ← r.runRich body { last := true }))

/-- Closes what led to commands since there were only these descriptors of that kind. -/
def closePartners (before : List Nat) : Eval Unit := do
  let opened := (← context).partners.filter (fun n => !before.contains n)
  if !opened.isEmpty then
    modifySelf (fun p => { p with
      descriptors := p.descriptors.filter (fun (e : Nat × Nat) => !opened.contains e.1) })
    modifyContext (fun c => { c with partners := before })
  if !(← context).readers.isEmpty then runReaders r

/-! ## Simple commands -/

/-- Carries out a simple command without a word. -/
def runAssignments (assignments : List Assignment) (redirects : List Redirect) : Eval Nat := do
  match ← attempt (assignments.forM (assignForGood r)) with
  | .ok () => pure ()
  | .error .error => throw .discard
  | .error stop => throw stop
  if redirects.isEmpty then return (← self).outputStatus
  let before := (← self).descriptors
  let isFine ← redirectAll r redirects
  restoreDescriptors before redirects
  if isFine then return (← self).outputStatus else pure 1

/-- Carries out a command that has words. -/
def runWords (flags : Flags) (assignments : List Assignment) (args : List Argument)
    (redirects : List Redirect) : Eval Nat := do
  let name := ((args.head?).map Argument.toText).getD []
  let isExec := name = "exec".toList
  let body : Eval Nat := do
    let words := args.map fun arg => match arg with
      | .text text => quotedInTrace text
      | .list name _ _ => name
    trace r (List.intercalate [' '] words)
    if redirects.isEmpty then runNamed r (args.length + 1) flags true none false args
    else
      let before := (← self).descriptors
      let restore : Eval Unit := restoreDescriptors before redirects
      match ← attempt (redirectAll r redirects) with
      | .ok true =>
        if isExec then runNamed r (args.length + 1) flags true none false args
        else ensuring (runNamed r (args.length + 1) flags true none false args) restore
      | .ok false => do
        restore
        pure 1
      | .error stop => do
        restore
        throw stop
  withVariables r assignments body

def runSimple (flags : Flags) (line : Nat) (assignments : List Assignment) (items : List Item)
    (redirects : List Redirect) : Eval Nat := do
  startLine line
  approach r (.simple line assignments items redirects)
  modifySelf (fun p => { p with outputStatus := 0 })
  let partners := (← context).partners
  let result ← attempt (do
    let args := (← items.mapM (expandItem r)).flatten
    if args.isEmpty then runAssignments r assignments redirects
    else
      let status ← runWords r flags assignments args redirects
      let last := ((args.getLast?).map Argument.toText).getD []
      modifyContext (fun c => { c with lastArg := last })
      pure status)
  closePartners r partners
  match result with
  | .ok status => pure status
  | .error .error => return (← self).status
  | .error stop => throw stop

end

end Slipway.Rich
