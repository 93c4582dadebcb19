import Slipway.Shell.Simple
import Slipway.Tool.Identity

/-!
# Programs that start others

A program can become another one, with a changed environment, or start others and wait for their
end.
-/

namespace Slipway.Tool

open Shell

/-! ## Becoming another program -/

/-- Becomes the program that a name stands for, or tells why that cannot be. -/
def become (r : Shell.Runner) (environment : List (Text × Text)) (args : List Text) :
    Eval SystemError := do
  let name := args.headD []
  let path := (environment.lookup "PATH".toList).getD "/bin:/usr/bin".toList
  let places := if name.contains '/' then [name] else if name.isEmpty then []
    else placesOf path name
  match Shell.Runner.firstImage (← get).machine args .noEntry places with
  | .ok image => do
    r.become image environment
    throw .gone
  | .error e => pure e

/-- The code of a program that could not be started. -/
def startFailureCode (e : SystemError) : Nat := if e = .noEntry then 127 else 126

/-- Writes what was collected, so that it stands before what another program writes. -/
def settleOutput : Eval Unit := do
  let _ ← flush

/-- Runs a program to its end; if it cannot be started there is an error. -/
def startAndWait (r : Shell.Runner) (args : List Text) : Eval (Except SystemError Ending) := do
  settleOutput
  let environment := environmentOf (← self)
  let name := args.headD []
  let path := (environment.lookup "PATH".toList).getD "/bin:/usr/bin".toList
  let places := if name.contains '/' then [name] else if name.isEmpty then []
    else placesOf path name
  match Shell.Runner.firstImage (← get).machine args .noEntry places with
  | .error e => pure (.error e)
  | .ok image => return .ok (← inChild (r.become image environment))

/-! ## env -/

/-- The words of a text that is taken apart; variables in braces are replaced. -/
def splitWords (environment : List (Text × Text)) : (fuel : Nat) → (quote : Option Char) →
    (word : Option Text) → Text → Except String (List Text)
  | 0, _, _, _ => .ok []
  | fuel + 1, quote, word, text =>
    let add (more : Text) (rest : Text) : Except String (List Text) :=
      splitWords environment fuel quote (some (more.reverse ++ word.getD [])) rest
    let close (rest : Text) : Except String (List Text) := do
      let words ← splitWords environment fuel none none rest
      .ok (match word with
        | some word => word.reverse :: words
        | none => words)
    match text with
    | [] =>
      match quote with
      | some _ => .error "no terminating quote in -S string"
      | none => .ok (word.toList.map List.reverse)
    | '\\' :: c :: rest =>
      if quote = some '\'' ∧ c ≠ '\'' ∧ c ≠ '\\' then add ['\\', c] rest
      else
        match c with
        | 'c' =>
          if quote.isSome then .error "'\\c' must not appear in double-quoted -S string"
          else .ok (word.toList.map List.reverse)
        | '_' => if quote.isSome then add [' '] rest else close rest
        | 'f' => add ['\x0c'] rest
        | 'n' => add ['\n'] rest
        | 'r' => add ['\r'] rest
        | 't' => add ['\t'] rest
        | 'v' => add ['\x0b'] rest
        | c =>
          if "#$\"'\\".toList.contains c then add [c] rest
          else .error ("invalid sequence '\\" ++ Text.toString [c] ++ "' in -S")
    | ['\\'] => .error "invalid backslash at end of string in -S"
    | c :: rest =>
      if quote = some c then splitWords environment fuel none (some (word.getD [])) rest
      else if quote.isNone ∧ (c = '\'' ∨ c = '"') then
        splitWords environment fuel (some c) (some (word.getD [])) rest
      else if quote.isNone ∧ isSpaceChar c then close rest
      else if quote.isNone ∧ c = '#' ∧ word.isNone then .ok []
      else if c = '$' ∧ quote ≠ some '\'' then
        match rest with
        | '\x7b' :: more =>
          let name := more.takeWhile isNameChar
          match more.drop name.length with
          | '\x7d' :: rest =>
            match environment.lookup name with
            | some value => add value rest
            | none => splitWords environment fuel quote word rest
          | _ => .error ("only $\x7bVARNAME\x7d expansion is supported, error at: "
              ++ Text.toString text)
        | _ => .error ("only $\x7bVARNAME\x7d expansion is supported, error at: "
            ++ Text.toString text)
      else add [c] rest

/-- What was read of the arguments of `env`. -/
structure EnvPlan where
  clears : Bool := false
  removed : List Text := []
  directory : Option Text := none
  zeroEnded : Bool := false
  rest : List Text := []
  verbose : Bool := false

def envFlags : List Flag := [
  flag 'i' "ignore-environment", flag '0' "null", setting 'u' "unset", setting 'C' "chdir",
  setting 'S' "split-string", flag 'v' "debug", longFlag "block-signal" .optional,
  longFlag "default-signal" .optional, longFlag "ignore-signal" .optional,
  longFlag "list-signal-handling"]

/-- Reads options. A text that is taken apart is read in place of itself. -/
def readEnvPlan (environment : List (Text × Text)) : (fuel : Nat) → EnvPlan → List Text →
    Except (String × Bool) EnvPlan
  | 0, plan, rest => .ok { plan with rest }
  | fuel + 1, plan, args =>
    match args with
    | ['-'] :: rest => readEnvPlan environment fuel { plan with clears := true } rest
    | ['-', '-'] :: rest => .ok { plan with rest }
    | ('-' :: c :: letters) :: rest => do
      let read := if c = '-' then (readWordOption envFlags letters rest).map
          (fun (option, rest) => ([option], rest))
        else readLetterOptions envFlags (c :: letters) rest
      match read with
      | .error text => .error (text, true)
      | .ok (options, rest) =>
        let plan := options.foldl (fun (plan : EnvPlan) o => match o.1 with
          | "ignore-environment" => { plan with clears := true }
          | "null" => { plan with zeroEnded := true }
          | "unset" => { plan with removed := plan.removed ++ [o.2] }
          | "chdir" => { plan with directory := some o.2 }
          | "debug" => { plan with verbose := true }
          | _ => plan) plan
        match options.lookup "split-string" with
        | none => readEnvPlan environment fuel plan rest
        | some text =>
          match splitWords environment (text.length + 2) none none text with
          | .error text => .error (text, false)
          | .ok words => readEnvPlan environment fuel plan (words ++ rest)
    | args => .ok { plan with rest := args }

/-- The first argument that makes no assignment, and those behind it. -/
def dropAssignments (args : List Text) : List Text := args.dropWhile (·.contains '=')

def setVariable (environment : List (Text × Text)) (assignment : Text) : List (Text × Text) :=
  let name := assignment.takeWhile (· ≠ '=')
  let value := assignment.drop (name.length + 1)
  if (environment.lookup name).isSome then
    environment.map (fun entry => if entry.1 = name then (name, value) else entry)
  else environment ++ [(name, value)]

def env (r : Shell.Runner) (args : List Text) : Eval Nat := do
  let before := environmentOf (← self)
  match readEnvPlan before (args.length + 1000) {} args with
  | .error (text, isUsage) => do
    say text
    if isUsage then recommendHelp
    pure 125
  | .ok plan =>
    let kept := if plan.clears then []
      else before.filter (fun entry => !plan.removed.contains entry.1)
    let command := dropAssignments plan.rest
    let assignments := plan.rest.take (plan.rest.length - command.length)
    let environment := assignments.foldl setVariable kept
    if let some directory := plan.directory then
      let s ← get
      match s.machine.enter? (pathOf directory) with
      | some machine => set { s with machine }
      | none => do
        say ("cannot change directory to " ++ quoted directory ++ ": " ++ errorText .noEntry)
        return 125
    match command with
    | [] => do
      printEnvironment environment (if plan.zeroEnded then '\x00' else '\n')
      pure 0
    | name :: _ =>
      if plan.zeroEnded then misuse "cannot specify --null (-0) with command" 125
      else do
        if plan.verbose then
          complain ("executing: " ++ name.toString ++ "\n")
          ((List.range command.length).zip command).forM fun (i, arg) =>
            complain ("   arg[" ++ toString i ++ "]= " ++ emphasized arg ++ "\n")
        let e ← become r environment command
        say (emphasized name ++ ": " ++ errorText e)
        if name.any isSpaceChar ∧ e = .noEntry then
          say "use -[v]S to pass options in shebang lines"
        pure (startFailureCode e)

/-! ## Others that become a program -/

/-- Becomes the program that the operands name. -/
def becomeOperands (r : Shell.Runner) (failureCode : Nat) (flags : List Flag) (skip : Nat)
    (args : List Text) : Eval Nat :=
  withArguments flags args (fun a => do
    match a.operands.drop skip with
    | [] => missingOperand failureCode
    | command => do
      let e ← become r (environmentOf (← self)) command
      say ("failed to run command " ++ emphasized (command.headD []) ++ ": " ++ errorText e)
      pure (startFailureCode e)) false failureCode

def nohup (r : Shell.Runner) (args : List Text) : Eval Nat := becomeOperands r 125 [] 0 args

def nice (r : Shell.Runner) (args : List Text) : Eval Nat :=
  becomeOperands r 125 [setting 'n' "adjustment"] 0 args

def setsid (r : Shell.Runner) (args : List Text) : Eval Nat :=
  becomeOperands r 1 [flag 'c' "ctty", flag 'f' "fork", flag 'w' "wait"] 0 args

/-- Whether an interval is zero or longer than another one, in whole seconds. -/
def isShorter (limit interval : Text) : Bool :=
  let whole := fun (text : Text) => valueOfDigits 10 (text.takeWhile isDigitChar) * 1000
    + valueOfDigits 10 ((((text.dropWhile (· ≠ '.')).drop 1).takeWhile isDigitChar ++ "000".toList).take 3)
  0 < whole limit && whole limit < whole interval

/-- Nothing takes time but sleeping. -/
def timeout (r : Shell.Runner) (args : List Text) : Eval Nat :=
  withArguments [setting 'k' "kill-after", setting 's' "signal", flag 'v' "verbose",
      longFlag "preserve-status", longFlag "foreground"] args (fun a => do
    match a.operands with
    | [] => usage
    | [_] => usage
    | limit :: command =>
      if !isInterval limit then misuse ("invalid time interval " ++ emphasized limit) 125
      else if lastName (command.headD []) = "sleep".toList
          ∧ (command.getLast?.map (isShorter limit)).getD false then pure 124
      else
        match ← startAndWait r command with
        | .ok (.code n) => pure n
        | .ok (.signal n) => pure (128 + n)
        | .error e => do
          say ("failed to run command " ++ emphasized (command.headD []) ++ ": " ++ errorText e)
          pure (startFailureCode e)) false 125
where
  usage : Eval Nat := do
    recommendHelp
    pure 125

/-! ## xargs -/

/-- The items of an input: words with quotes, each with whether it ends a line. -/
def readItems : (fuel : Nat) → (word : Option Text) → Text → Except String (List (Text × Bool))
  | 0, _, _ => .ok []
  | fuel + 1, word, text =>
    match text with
    | [] => .ok (word.toList.map (fun w => (w.reverse, true)))
    | c :: rest =>
      if c = '\n' ∨ c = ' ' ∨ c = '\t' then do
        let more ← readItems fuel none rest
        match word with
        | none => .ok more
        | some w =>
          -- A blank at the end of a line makes the next line go on with this one.
          .ok ((w.reverse, c = '\n') :: more)
      else if c = '\\' then
        match rest with
        | d :: rest => readItems fuel (some (d :: word.getD [])) rest
        | [] => .ok (word.toList.map (fun w => (w.reverse, true)))
      else if c = '"' ∨ c = '\'' then
        let inner := rest.takeWhile (fun d => d ≠ c ∧ d ≠ '\n')
        match rest.drop inner.length with
        | d :: rest =>
          if d = c then readItems fuel (some (inner.reverse ++ word.getD [])) rest
          else .error (unmatched c)
        | [] => .error (unmatched c)
      else readItems fuel (some (c :: word.getD [])) rest
where
  unmatched (c : Char) : String :=
    "unmatched " ++ (if c = '"' then "double" else "single")
      ++ " quote; by default quotes are special to xargs unless you use the -0 option"

/-- A text with each place where `mark` stands replaced. -/
def replaceMarks (mark value : Text) : (fuel : Nat) → Text → Text
  | 0, text => text
  | fuel + 1, text =>
    match text with
    | [] => []
    | c :: rest =>
      if !mark.isEmpty ∧ mark.isPrefixOf text then
        value ++ replaceMarks mark value fuel (text.drop mark.length)
      else c :: replaceMarks mark value fuel rest

/-- Groups of at most so many items. -/
def groupsOf (size : Nat) : (fuel : Nat) → List Text → List (List Text)
  | 0, _ => []
  | fuel + 1, items =>
    if items.isEmpty then [] else items.take size :: groupsOf size fuel (items.drop size)

/-- The items of so many lines together. -/
def groupsOfLines (count : Nat) : (fuel : Nat) → List (Text × Bool) → List (List Text)
  | 0, _ => []
  | fuel + 1, items =>
    if items.isEmpty then []
    else
      let (taken, rest) := takeLines count items
      taken :: groupsOfLines count fuel rest
where
  takeLines : (count : Nat) → List (Text × Bool) → List Text × List (Text × Bool)
    | 0, items => ([], items)
    | _, [] => ([], [])
    | count + 1, (item, isEnd) :: rest =>
      let (more, left) := takeLines (if isEnd then count else count + 1) rest
      (item :: more, left)
  termination_by count items => (items.length, count)

def xargsFlags : List Flag := [
  flag '0' "null", setting 'd' "delimiter", setting 'n' "max-args", setting 'I', setting 'L',
  { letter := some 'i', word := "replace", takes := .optional },
  { letter := some 'l', word := "max-lines", takes := .optional }, flag 'r' "no-run-if-empty",
  flag 't' "verbose", flag 'p' "interactive", setting 'P' "max-procs", setting 's' "max-chars",
  setting 'a' "arg-file", setting 'E', flag 'x' "exit", flag 'o' "open-tty"]

/-- How it goes on after a command of `xargs`. -/
def judge (name : Text) (result : Except SystemError Ending) : Eval (Except Nat Nat) := do
  match result with
  | .ok (.code 0) => pure (.ok 0)
  | .ok (.code 255) => do
    say (name.toString ++ ": exited with status 255; aborting")
    pure (.error 124)
  | .ok (.code _) => pure (.ok 123)
  | .ok (.signal n) => do
    say (name.toString ++ ": terminated by signal " ++ toString n)
    pure (.error 125)
  | .error e => do
    say (name.toString ++ ": " ++ errorText e)
    pure (.error (startFailureCode e))

/-- Runs commands one after the other. -/
def runEach (r : Shell.Runner) (verbose : Bool) : (code : Nat) → List (List Text) → Eval Nat
  | code, [] => pure code
  | code, command :: rest => do
    if verbose then complain (Text.toString (List.intercalate [' '] command) ++ "\n")
    match ← judge (command.headD []) (← startAndWait r command) with
    | .ok more => runEach r verbose (max code more) rest
    | .error code => pure code

def xargs (r : Shell.Runner) (args : List Text) : Eval Nat :=
  withArguments xargsFlags args (fun a => do
    let name := (a.value? "arg-file").getD ['-']
    match ← readText name with
    | .error e => do
      say ("Cannot open input file " ++ emphasized name ++ ": " ++ errorText e)
      pure 1
    | .ok text =>
      let mark := match a.lastOf ["I", "replace"] with
        | some "I" => a.value? "I"
        | some _ =>
          some (((a.value? "replace").filter (fun (mark : Text) => !mark.isEmpty)).getD "\x7b\x7d".toList)
        | none => none
      let delimiter := match a.lastOf ["null", "delimiter"] with
        | some "null" => some '\x00'
        | some _ =>
          let d := (a.value? "delimiter").getD []
          some (if d = "\\n".toList then '\n' else if d = "\\0".toList then '\x00'
            else if d = "\\t".toList then '\t' else d.headD '\x00')
        | none => none
      let items : Except String (List (Text × Bool)) := match delimiter, mark with
        | some c, _ => .ok ((splitAtChar c text).map (·, true))
        | none, some _ =>
          let lines := (linesOf text).map (fun (line : Text) => line.dropWhile isBlankChar)
          .ok ((lines.filter (fun (line : Text) => !line.isEmpty)).map (·, true))
        | none, none => readItems (text.length + 1) none text
      match items with
      | .error text => do
        say text
        pure 1
      | .ok items => do
        let command := if a.operands.isEmpty then ["echo".toList] else a.operands
        let words := items.map (·.1)
        if mark.isSome ∧ a.has "max-args" then
          say ("warning: options --max-args and --replace/-I/-i are mutually exclusive, "
            ++ "ignoring previous --max-args value")
        let commands : List (List Text) := match mark with
          | some mark => words.map fun word =>
              command.map (fun arg => replaceMarks mark word (arg.length + 1) arg)
          | none =>
            let groups := match a.lastOf ["max-args", "L", "max-lines"] with
              | some "max-args" =>
                groupsOf (max 1 (((a.value? "max-args").bind decimal?).getD 1)) (words.length + 1) words
              | some key =>
                groupsOfLines (max 1 (((a.value? key).bind decimal?).getD 1)) (words.length + 1) items
              | none => if words.isEmpty then [] else [words]
            let groups := if groups.isEmpty ∧ !a.has "no-run-if-empty" then [[]] else groups
            groups.map (command ++ ·)
        let input ← newInput []
        modifySelf (·.connect 0 (some input))
        runEach r (a.has "verbose") 0 commands) false

end Slipway.Tool
