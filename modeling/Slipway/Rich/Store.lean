import Slipway.Rich.Printer
import Slipway.Rich.Variables
import Slipway.Shell.Expansion

/-!
# The variables of a rich shell

Looking for variables in the scopes, changing them, and those whose values the shell finds out when
it is asked for them. Also the messages of a rich shell.
-/

namespace Slipway.Rich

open Shell (Text Eval State self modifySelf setStatus complain naturalText)

/-! ## The context -/

def context : Eval Context := return ((← self).rich).getD {}

def modifyContext (f : Context → Context) : Eval Unit :=
  modifySelf (fun p => { p with rich := p.rich.map f })

/-- The name by which messages call the script. -/
def sourceName (p : Shell.Process) : Text :=
  match (p.rich.getD {}).calls with
  | call :: _ => call.source
  | [] => p.name

/-- A message names the script, the line and the builtin. -/
def warn (text : String) : Eval Unit := do
  let p ← self
  let builtin := match p.builtin with
    | some name => Text.toString name ++ ": "
    | none => ""
  complain (Text.toString (sourceName p) ++ ": line " ++ toString p.line ++ ": " ++ builtin ++ text
    ++ "\n")

/-- An error, of which only the command at hand takes notice. -/
def refuse {α : Type} (text : String) (status : Nat := 1) : Eval α := do
  warn text
  setStatus status
  throw .error

/-- An error, which ends the commands of the line. -/
def fail {α : Type} (text : String) (status : Nat := 1) : Eval α := do
  warn text
  setStatus status
  let _ ← Shell.flush
  throw .discard

/-- An error that ends the shell. -/
def abandon {α : Type} (text : String) : Eval α := do
  warn text
  let c ← context
  let status := if c.fromArgument ∧ c.depth = 0 then 127 else 1
  let _ ← Shell.flush
  modifySelf (fun p => { p with status, savedStatus := some status })
  throw .exit

/-- What a copy of a shell starts with, depending on its options. -/
def Context.copy (c : Context) (options : List String) (traps : List (Nat × Text))
    (isDeeper : Bool) : Context :=
  let stays (action : String × Text) : Bool :=
    options.contains (if action.1 = "ERR" then "errtrace" else "functrace")
  { c with
    readers := []
    partners := []
    actions := c.actions.filter stays
    former := c.former <|> some (traps, c.actions)
    isCopy := true
    depth := if isDeeper then c.depth + 1 else c.depth }

/-- Runs something in a copy of the shell. -/
def inCopy (body : Eval Unit) (isDeeper : Bool := true) : Eval Shell.Ending :=
  do
    let p ← self
    Shell.inChild (do
      modifyContext (·.copy p.options p.traps isDeeper)
      body)

/-! ## Contents -/

/-- A number for a key, by which keys are sorted into buckets. -/
def hashOf (key : Text) : Nat :=
  key.foldl (fun n c =>
    let b := c.toNat
    ((n * 16777619) % 4294967296) ^^^ (if b < 128 then b else b + 4294967040)) 2166136261

def bucketOf (key : Text) : Nat := hashOf key % 1024

/-- Things with keys, the latest first, in the order in which they are listed. -/
def inBuckets {α : Type} (named : List (Text × α)) : List (Text × α) :=
  named.mergeSort (fun a b => bucketOf a.1 ≤ bucketOf b.1)

namespace Content

/-- The values with their keys, in the order in which they are listed. -/
def entries : Content → List (Text × Text)
  | none => []
  | text value => [(['0'], value)]
  | indexed elements => elements.map (fun (n, value) => (naturalText n, value))
  | keyed elements => inBuckets elements

def values (c : Content) : List Text := c.entries.map (·.2)

def isList : Content → Bool
  | indexed _ => true
  | keyed _ => true
  | _ => false

def isKeyed : Content → Bool
  | keyed _ => true
  | _ => false

/-- The value that a variable has without brackets behind it. -/
def first? : Content → Option Text
  | none => .none
  | text value => some value
  | indexed elements => elements.lookup 0
  | keyed elements => elements.lookup ['0']

/-- The elements of a list with numbers. -/
def toIndexed : Content → List (Nat × Text)
  | none => []
  | text value => [(0, value)]
  | indexed elements => elements
  | keyed _ => []

/-- Puts a value among those with numbers. -/
def insertAt (n : Nat) (value : Text) : List (Nat × Text) → List (Nat × Text)
  | [] => [(n, value)]
  | (m, old) :: rest =>
    if m < n then (m, old) :: insertAt n value rest
    else if m = n then (n, value) :: rest
    else (n, value) :: (m, old) :: rest

/-- Sets the value with a key. -/
def insertKey (key value : Text) (elements : List (Text × Text)) : List (Text × Text) :=
  if (elements.lookup key).isSome then
    elements.map (fun e => if e.1 = key then (key, value) else e)
  else (key, value) :: elements

/-- Sets the value without brackets. -/
def setFirst (c : Content) (value : Text) : Content :=
  match c with
  | indexed elements => indexed (insertAt 0 value elements)
  | keyed elements => keyed (insertKey ['0'] value elements)
  | _ => text value

end Content

/-! ## Scopes -/

namespace Context

def find? (c : Context) (name : Text) : Option Variable :=
  c.scopes.findSome? (fun scope => scope.entries.lookup name)

end Context

/-- Sets a variable of a scope. -/
def Scope.put (s : Scope) (name : Text) (v : Variable) : Scope :=
  if (s.entries.lookup name).isSome then
    { s with entries := s.entries.map (fun e => if e.1 = name then (name, v) else e) }
  else { s with entries := (name, v) :: s.entries }

def Scope.drop (s : Scope) (name : Text) : Scope :=
  { s with entries := s.entries.filter (·.1 ≠ name) }

/-- Changes a variable where it is found first, or makes it in the outermost scope. -/
def updateScopes (name : Text) (f : Variable → Variable) : List Scope → List Scope
  | [] => []
  | [scope] => [scope.put name (f ((scope.entries.lookup name).getD {}))]
  | scope :: rest =>
    match scope.entries.lookup name with
    | some v => scope.put name (f v) :: rest
    | none => scope :: updateScopes name f rest

def removeFromScopes (name : Text) : List Scope → List Scope
  | [] => []
  | scope :: rest =>
    if (scope.entries.lookup name).isSome then
      -- A variable of a call stays one of the call, without a value.
      (if scope.isCall ∧ !rest.isEmpty then scope.put name {} else scope.drop name) :: rest
    else scope :: removeFromScopes name rest

/-- Changes the scope of the innermost call. -/
def updateCall (f : Scope → Scope) : List Scope → List Scope
  | [] => []
  | scope :: rest => if scope.isCall ∨ rest.isEmpty then f scope :: rest
    else scope :: updateCall f rest

def Context.update (c : Context) (name : Text) (f : Variable → Variable) : Context :=
  { c with scopes := updateScopes name f c.scopes }

/-- What started programs see of the variables. -/
def Context.environment (c : Context) : List (Text × Text) :=
  let visible := c.scopes.foldl (fun (found : List (Text × Option Text)) scope =>
    found ++ (inBuckets scope.entries).filterMap (fun (name, v) =>
      if (found.lookup name).isSome then none
      else some (name, if v.exported then (match v.content with
        | .text value => some value
        | _ => none) else none))) []
  visible.filterMap (fun (name, value) => value.map (name, ·))

/-! ## Options -/

/-- The names of all options, in the order in which they are listed. -/
def optionNames : List String := [
  "allexport", "braceexpand", "emacs", "errexit", "errtrace", "functrace", "hashall", "histexpand",
  "history", "ignoreeof", "interactive-comments", "keyword", "monitor", "noclobber", "noexec",
  "noglob", "nolog", "notify", "nounset", "onecmd", "physical", "pipefail", "posix", "privileged",
  "verbose", "vi", "xtrace"]

def optionLetters : List (Char × String) := [
  ('a', "allexport"), ('b', "notify"), ('e', "errexit"), ('f', "noglob"), ('h', "hashall"),
  ('k', "keyword"), ('m', "monitor"), ('n', "noexec"), ('p', "privileged"), ('t', "onecmd"),
  ('u', "nounset"), ('v', "verbose"), ('x', "xtrace"), ('B', "braceexpand"), ('C', "noclobber"),
  ('E', "errtrace"), ('H', "histexpand"), ('P', "physical"), ('T', "functrace")]

/-- The special options, and which of them are on from the start. -/
def extraOptions : List (String × Bool) := [
  ("autocd", false), ("assoc_expand_once", false), ("cdable_vars", false), ("cdspell", false),
  ("checkhash", false), ("checkjobs", false), ("checkwinsize", true), ("cmdhist", true),
  ("compat31", false), ("compat32", false), ("compat40", false), ("compat41", false),
  ("compat42", false), ("compat43", false), ("compat44", false), ("complete_fullquote", true),
  ("direxpand", false), ("dirspell", false), ("dotglob", false), ("execfail", false),
  ("expand_aliases", false), ("extdebug", false), ("extglob", false), ("extquote", true),
  ("failglob", false), ("force_fignore", true), ("globasciiranges", true), ("globskipdots", true),
  ("globstar", false), ("gnu_errfmt", false), ("histappend", false), ("histreedit", false),
  ("histverify", false), ("hostcomplete", true), ("huponexit", false), ("inherit_errexit", false),
  ("interactive_comments", true), ("lastpipe", false), ("lithist", false),
  ("localvar_inherit", false), ("localvar_unset", false), ("login_shell", false),
  ("mailwarn", false), ("no_empty_cmd_completion", false), ("nocaseglob", false),
  ("nocasematch", false), ("noexpand_translation", false), ("nullglob", false),
  ("patsub_replacement", true), ("progcomp", true), ("progcomp_alias", false),
  ("promptvars", true), ("restricted_shell", false), ("shift_verbose", false),
  ("sourcepath", true), ("varredir_close", false), ("xpg_echo", false)]

def Context.has (c : Context) (extra : String) : Bool := c.extras.contains extra

/-- The names of options that are on, with colons between them. -/
def joinedNames (names : List String) : Text := (String.intercalate ":" names).toList

/-! ## Values that are found out -/

/-- Variables with values of their own. -/
def ownVariables : List String := [
  "BASHOPTS", "BASHPID", "BASH_ARGV0", "BASH_COMMAND", "BASH_LINENO", "BASH_SOURCE",
  "BASH_SUBSHELL", "DIRSTACK", "EPOCHREALTIME", "EPOCHSECONDS", "FUNCNAME", "GROUPS", "LINENO",
  "PIPESTATUS", "RANDOM", "SECONDS", "SHELLOPTS", "SRANDOM", "_"]

def listContent (values : List Text) : Content :=
  .indexed (values.zipIdx.map (fun (value, i) => (i, value)))

/-- The next of the random numbers, which the last state leads to. -/
def nextSeed (seed : Nat) : Nat :=
  let last : Int := if seed = 0 then 123459876 else seed
  let high := last / 127773
  let t := 16807 * (last - 127773 * high) - 2836 * high
  (if t < 0 then t + 2147483647 else t).toNat

def randomOf (seed : Nat) : Nat := ((seed / 65536) ^^^ (seed % 65536)) % 32768

/-- A directory below the home directory with a tilde in front. -/
def withTilde (home : Option Text) (directory : Text) : Text :=
  match home with
  | some home =>
    if 1 < home.length ∧ home.isPrefixOf directory
        ∧ (directory.length = home.length ∨ directory[home.length]? = some '/') then
      '~' :: directory.drop home.length
    else directory
  | none => directory

/-- What the shell finds out for a variable of its own. -/
def ownContent (s : State) (c : Context) (name : String) : Content :=
  let p := s.self
  let number (n : Nat) : Content := .text (naturalText n)
  let inFile := c.fromFile
  match name with
  | "BASHOPTS" => .text (joinedNames ((extraOptions.map (·.1)).filter c.has))
  | "BASHPID" => number p.number
  | "BASH_ARGV0" => .text p.name
  | "BASH_COMMAND" => .text ((c.command.map Printer.lineText).getD [])
  | "BASH_LINENO" =>
    listContent (c.calls.map (fun call => naturalText call.line) ++ (if inFile then [['0']] else []))
  | "BASH_SOURCE" => listContent (c.calls.map (·.source) ++ (if inFile then [p.name] else []))
  | "BASH_SUBSHELL" => number c.depth
  | "DIRSTACK" => listContent ((p.directory.getD []) :: c.directories)
  | "EPOCHREALTIME" => .text (((toString s.machine.now).toList ++ ".000000".toList))
  | "EPOCHSECONDS" => .text ((toString s.machine.now).toList)
  | "FUNCNAME" =>
    if c.calls.isEmpty then .indexed []
    else listContent (c.calls.map (·.name) ++ (if inFile then ["main".toList] else []))
  | "GROUPS" => listContent [['0']]
  | "LINENO" => number p.line
  | "PIPESTATUS" => listContent (c.pipeStatuses.map naturalText)
  | "RANDOM" => number (randomOf (nextSeed c.seed))
  | "SECONDS" => number 0
  | "SHELLOPTS" => .text (joinedNames (optionNames.filter p.options.contains))
  | "SRANDOM" => number (nextSeed c.seed)
  | _ => .text c.lastArg

/-- A variable as it is now. -/
def current? (name : Text) : Eval (Option Variable) := do
  let s ← get
  let c ← context
  let found := c.find? name
  let text := String.ofList name
  if text = "PIPESTATUS" ∧ c.pipeStatuses.isEmpty then pure found
  else if ownVariables.contains text ∧ !c.plain.contains name then
    if text = "RANDOM" ∨ text = "SRANDOM" then
      modifyContext (fun c => { c with seed := nextSeed c.seed })
    pure (some { found.getD {} with content := ownContent s c text })
  else pure found

/-! ## References -/

/-- What stands in brackets behind a name, up to the closing one. -/
def splitReference (text : Text) : Text × Option Text :=
  let name := text.takeWhile Shell.isNameChar
  match text.drop name.length with
  | '[' :: rest =>
    match rest.getLast? with
    | some ']' => (name, some rest.dropLast)
    | _ => (text, none)
  | _ => (text, none)

/-- The variable that a name stands for, and an element of it, after references were followed. -/
def resolve (c : Context) : (fuel : Nat) → Text → Option Text → Text × Option Text
  | 0, name, key => (name, key)
  | fuel + 1, name, key =>
    match c.find? name with
    | some { reference := true, content := .text target, .. } =>
      if key.isSome then resolve c fuel target key
      else
        let (name, key) := splitReference target
        resolve c fuel name key
    | _ => (name, key)

/-- More references than follow each other. -/
def maxReferences : Nat := 8

def resolved (name : Text) (key : Option Text := none) : Eval (Text × Option Text) := do
  return resolve (← context) maxReferences name key

/-- The text of a variable, if it has one. -/
def text? (name : String) : Eval (Option Text) := do
  return (← current? name.toList).bind (·.content.first?)

/-! ## Changing variables -/

/-- What else changes with a variable. -/
def notice (name value : Text) : Eval Unit := do
  match String.ofList name with
  | "OPTIND" =>
    let index := ((Shell.number? 10 value).getD 1).toNat
    modifySelf (fun p => { p with optionPlace := { index := if index = 0 then 1 else index } })
  | "PATH" => modifyContext (fun c => { c with found := [] })
  | "RANDOM" => modifyContext (fun c => { c with seed := ((Shell.number? 10 value).getD 0).toNat })
  | "BASH_ARGV0" => modifySelf (fun p => { p with name := value })
  | _ => pure ()

/-- Refuses to change a variable. The message does not name a builtin. -/
def refuseReadOnly {α : Type} (name : Text) : Eval α := do
  modifySelf (fun p => { p with builtin := none })
  refuse (Text.toString name ++ ": readonly variable")

/-- Changes a variable that may be changed. -/
def update (name : Text) (f : Variable → Variable) : Eval Unit := do
  let c ← context
  if ((c.find? name).map (·.readonly)).getD false then refuseReadOnly name
  let exports := (← self).has "allexport"
  modifyContext (fun c => c.update name (fun v =>
    let v := f v
    { v with exported := v.exported || exports }))

/-- Gives a variable a text as it is. -/
def putText (name value : Text) : Eval Unit := do
  notice name value
  update name (fun v => { v with content := v.content.setFirst value, pending := false })

/-- Gives an element of a list with numbers a text. -/
def putAt (name : Text) (index : Nat) (value : Text) : Eval Unit :=
  update name (fun v => { v with
    content := .indexed (Content.insertAt index value v.content.toIndexed), pending := false })

/-- Gives an element of a list with keys a text. -/
def putKey (name key value : Text) : Eval Unit :=
  update name (fun v => { v with
    pending := false
    content := match v.content with
      | .keyed elements => .keyed (Content.insertKey key value elements)
      | content => content })

end Slipway.Rich
