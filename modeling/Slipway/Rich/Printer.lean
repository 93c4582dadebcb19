import Slipway.Rich.Escapes
import Slipway.Rich.Syntax

/-!
# Writing commands out

Commands as a script would have them. In functions they stand one below the other, with what is
inside of others moved to the right; elsewhere lists of commands stay on one line. The documents that
redirections announce come behind the next sign between commands.
-/

namespace Slipway.Rich.Printer

open Shell (Text)

/-! ## Pages -/

/-- What was written, and how it goes on. -/
structure Page where
  /-- The latest character comes first. -/
  written : Text := []
  indent : Nat := 0
  /-- How far the inside of a command is moved to the right. -/
  step : Nat := 4
  /-- How many of the next commands begin without a gap in front. -/
  skips : Nat := 0
  /-- How many functions and connections of commands are being written. -/
  functions : Nat := 0
  connections : Nat := 0
  /-- Documents that are still to be written. -/
  documents : List Text := []
  /-- The last sign between commands was written with a document. -/
  wroteDocument : Bool := false

abbrev Writer := StateM Page Unit

def put (text : Text) : Writer :=
  modify (fun p => { p with written := text.reverse ++ p.written })

def say (text : String) : Writer := put text.toList

def gap : Writer := do put (List.replicate (← get).indent ' ')

def newline (text : String) : Writer := do
  say "\n"
  gap
  say text

def skipGap : Writer := modify (fun p => { p with skips := p.skips + 1 })

/-- Writes something with the inside moved to the right. -/
def inside (body : Writer) : Writer := do
  let step := (← get).step
  modify (fun p => { p with indent := p.indent + step })
  body
  modify (fun p => { p with indent := p.indent - step })

/-- A semicolon, where the last character leaves room for it. -/
def semicolon : Writer := do
  match (← get).written with
  | '&' :: _ => pure ()
  | '\n' :: _ => pure ()
  | _ => say ";"

/-- Writes the documents that are due, behind a sign between commands. -/
def putDocuments (sign : String) : Writer := do
  let documents := (← get).documents
  let isShown := !sign.isEmpty && sign != ";"
  if isShown then say sign
  if !documents.isEmpty then
    say "\n"
    documents.forM fun text => put (text ++ ['\n'])
    if isShown then say " "
    modify (fun p => { p with documents := [], wroteDocument := true })

/-! ## Redirections -/

def redirectSymbol : RedirectKind → String
  | .input => "<"
  | .output => ">"
  | .replacing => ">|"
  | .append => ">>"
  | .both => "<>"
  | .copyInput => "<&"
  | .copyOutput => ">&"
  | .all => "&>"
  | .appendAll => "&>>"
  | .document _ _ true => "<<-"
  | .document _ _ false => "<<"
  | .line => "<<<"

/-- The descriptor that a symbol is about if nothing else is said. -/
def usualDescriptor : RedirectKind → Nat
  | .output | .replacing | .append | .both | .copyOutput => 1
  | _ => 0

def redirectText : Redirect → Text
  | .mk target kind source _ =>
    let isCopy := kind = .copyInput || kind = .copyOutput
    let kind := if isCopy ∧ source = ['-'] then .copyOutput else
      if target = .usual ∧ kind = .copyOutput ∧ !source.all Char.isDigit
          ∧ source.getLast? ≠ some '-' then .all
      else kind
    let number (n : Nat) : Text := (toString n).toList
    let start : Text := match target, kind with
      | .free name, _ => '\x7b' :: name ++ ['\x7d']
      | .usual, .copyInput => ['0']
      | .usual, .copyOutput => if source = ['-'] ∧ isCopy then ['1'] else ['1']
      | .usual, _ => []
      | .descriptor n, .copyInput => number n
      | .descriptor n, .copyOutput => number n
      | .descriptor n, kind => if n = usualDescriptor kind then [] else number n
    let between : Text := match kind with
      | .copyInput | .copyOutput | .document _ _ _ => []
      | _ => [' ']
    start ++ (redirectSymbol kind).toList ++ between ++ source

/-- Writes redirections. Their documents wait for a sign between commands where there may be one. -/
def putRedirects (redirects : List Redirect) : Writer := do
  put (List.intercalate [' '] (redirects.map redirectText))
  let documents := redirects.filterMap fun redirect =>
    match redirect with
    | .mk _ (.document text delimiter _) _ _ => some (text ++ delimiter)
    | _ => none
  if !documents.isEmpty then
    if 0 < (← get).connections then modify (fun p => { p with documents })
    else
      say "\n"
      documents.forM fun text => put (text ++ ['\n'])
      modify (fun p => { p with wroteDocument := true })

def joined (separator : String) (texts : List Text) : Text :=
  List.intercalate separator.toList texts

/-! ## Words and commands -/

mutual

def wordText : (fuel : Nat) → List Part → Text
  | 0, _ => []
  | fuel + 1, parts => parts.flatMap fun part =>
    match part with
    | .text text => text
    | .literal text => text.flatMap (fun c => ['\\', c])
    | part => partText fuel part
  termination_by structural fuel => fuel

/-- The text of parts between double quotes. -/
def quotedText : (fuel : Nat) → List Part → Text
  | 0, _ => []
  | fuel + 1, parts => parts.flatMap fun part =>
    match part with
    | .literal text => ((doubleQuoted text).drop 1).dropLast
    | .text text => text
    | part => partText fuel part
  termination_by structural fuel => fuel

def partText : (fuel : Nat) → Part → Text
  | 0, _ => []
  | fuel + 1, part =>
    match part with
    | .parameter source _ _ _ _ => source
    | .output body => "$(".toList ++ (body.map (commandText fuel)).getD [] ++ [')']
    | .textOutput text => '\x60' :: text ++ ['\x60']
    | .arithmetic parts => "$((".toList ++ quotedText fuel parts ++ "))".toList
    | .channel reads body =>
      (if reads then '<' else '>') :: '(' :: (body.map (commandText fuel)).getD [] ++ [')']
    | .quotes (some source) _ => source
    | .quotes none parts => '"' :: quotedText fuel parts ++ ['"']
    | .literal text => text
    | .text text => text
  termination_by structural fuel => fuel

def assignmentText : (fuel : Nat) → Assignment → Text
  | 0, _ => []
  | fuel + 1, .mk name subscript appends value =>
    name ++ (match subscript with
      | some parts => '[' :: wordText fuel parts ++ [']']
      | none => [])
    ++ (if appends then ['+', '='] else ['='])
    ++ (match value with
      | .text word => wordText fuel word
      | .list elements => '(' :: joined " " (elements.map fun element =>
          match element with
          | .word word => wordText fuel word
          | .entry subscript appends word => '[' :: wordText fuel subscript ++ [']']
              ++ (if appends then ['+', '='] else ['=']) ++ wordText fuel word) ++ [')'])
  termination_by structural fuel => fuel

def conditionText : (fuel : Nat) → Condition → Text
  | 0, _ => []
  | fuel + 1, condition =>
    match condition with
    | .word word => "-n ".toList ++ wordText fuel word
    | .unary operator operand => operator ++ ' ' :: wordText fuel operand
    | .binary left operator right =>
      wordText fuel left ++ ' ' :: operator ++ ' ' :: wordText fuel right
    | .negation body => "! ".toList ++ conditionText fuel body
    | .both first second => conditionText fuel first ++ " && ".toList ++ conditionText fuel second
    | .either first second => conditionText fuel first ++ " || ".toList ++ conditionText fuel second
    | .group body => "( ".toList ++ conditionText fuel body ++ " )".toList
  termination_by structural fuel => fuel

/-- A command that stands for itself. -/
def commandText : (fuel : Nat) → Command → Text
  | 0, _ => []
  | fuel + 1, command => (((write fuel command).run {}).2.written).reverse
  termination_by structural fuel => fuel

/-- Writes a command and the documents behind it. -/
def writeWhole : (fuel : Nat) → Command → Writer
  | 0, _ => pure ()
  | fuel + 1, command => do
    write fuel command
    putDocuments ""
  termination_by structural fuel => fuel

/-- Writes commands with a pipe between each two. -/
def writeStages : (fuel : Nat) → List Command → Writer
  | 0, _ => pure ()
  | _, [] => pure ()
  | fuel + 1, [stage] => write fuel stage
  | fuel + 1, stage :: rest => do
    write fuel stage
    putDocuments " |"
    say " "
    skipGap
    writeStages fuel rest
  termination_by structural fuel => fuel

def writeArms : (fuel : Nat) → List Arm → Writer
  | 0, _ => pure ()
  | _, [] => pure ()
  | fuel + 1, .mk patterns body ending :: rest => do
    newline ""
    put (joined " | " (patterns.map (wordText fuel)))
    say ")\n"
    match body with
    | some body => inside (write fuel body)
    | none => pure ()
    putDocuments ""
    newline (match ending with
      | .done => ";;"
      | .next => ";&"
      | .goesOn => ";;&")
    writeArms fuel rest
  termination_by structural fuel => fuel

def write : (fuel : Nat) → Command → Writer
  | 0, _ => pure ()
  | fuel + 1, command => do
    if 0 < (← get).skips then modify (fun p => { p with skips := p.skips - 1 }) else gap
    let connect (body : Writer) : Writer := do
      skipGap
      modify (fun p => { p with connections := p.connections + 1 })
      body
      putDocuments ""
      modify (fun p => { p with connections := p.connections - 1 })
    let words (ofArgs : Bool) (words : List (List Part)) : Text :=
      if ofArgs then "\"$@\"".toList else joined " " (words.map (wordText fuel))
    match command with
    | .simple _ assignments items redirects => do
      put (joined " " (assignments.map (assignmentText fuel) ++ items.map (fun item =>
        match item with
        | .word word => wordText fuel word
        | .assignment assignment => assignmentText fuel assignment)))
      if !redirects.isEmpty then
        say " "
        putRedirects redirects
    | .pipeline _ stages => connect (writeStages fuel stages)
    | .negation body => do
      say "! "
      skipGap
      write fuel body
    | .timed portable body => do
      say (if portable then "time -p " else "time ")
      skipGap
      match body with
      | some body => write fuel body
      | none => modify (fun p => { p with skips := p.skips - 1 })
    | .andThen first second => connect do
      write fuel first
      putDocuments " && "
      skipGap
      write fuel second
    | .orElse first second => connect do
      write fuel first
      putDocuments " || "
      skipGap
      write fuel second
    | .sequence (.background _ first) second => connect do
      write fuel first
      putDocuments " &"
      say " "
      skipGap
      write fuel second
    | .sequence first second => connect do
      write fuel first
      let p ← get
      if !p.documents.isEmpty then putDocuments ";"
      else if p.wroteDocument then modify (fun p => { p with wroteDocument := false })
      else say ";"
      if 0 < p.functions then say "\n"
      else
        say " "
        skipGap
      write fuel second
    | .background _ body => connect do
      write fuel body
      putDocuments " &"
    | .group body => do
      say "\x7b "
      if (← get).functions = 0 then
        skipGap
        writeWhole fuel body
        semicolon
        say " "
      else
        say "\n"
        inside (writeWhole fuel body)
        say "\n"
        gap
      say "\x7d"
    | .subshell _ body => do
      say "( "
      skipGap
      writeWhole fuel body
      say " )"
    | .redirected _ body redirects => do
      skipGap
      write fuel body
      say " "
      putRedirects redirects
    | .conditional test yes no => do
      say "if "
      skipGap
      writeWhole fuel test
      semicolon
      say " then\n"
      inside (writeWhole fuel yes)
      match no with
      | some no => do
        semicolon
        newline "else\n"
        inside (writeWhole fuel no)
      | none => pure ()
      semicolon
      newline "fi"
    | .loop untilTrue test body => do
      say (if untilTrue then "until " else "while ")
      skipGap
      writeWhole fuel test
      semicolon
      say " do\n"
      inside (writeWhole fuel body)
      semicolon
      newline "done"
    | .each _ name ofArgs list body => do
      put ("for ".toList ++ name ++ " in ".toList ++ words ofArgs list ++ [';'])
      newline "do\n"
      inside (writeWhole fuel body)
      semicolon
      newline "done"
    | .menu _ name ofArgs list body => do
      put ("select ".toList ++ name ++ " in ".toList ++ words ofArgs list ++ [';'])
      newline "do\n"
      inside (writeWhole fuel body)
      semicolon
      newline "done"
    | .counting _ start test step body => do
      put ("for ((".toList ++ quotedText fuel start ++ "; ".toList ++ quotedText fuel test
        ++ "; ".toList ++ quotedText fuel step ++ "))".toList)
      newline "do\n"
      inside (writeWhole fuel body)
      semicolon
      newline "done"
    | .choose _ word arms => do
      put ("case ".toList ++ wordText fuel word ++ " in ".toList)
      inside (writeArms fuel arms)
      newline "esac"
    | .define _ name body => do
      put ("function ".toList ++ name ++ " () \n".toList)
      gap
      say "\x7b \n"
      writeBody fuel body
    | .condition _ condition => put ("[[ ".toList ++ conditionText fuel condition ++ " ]]".toList)
    | .arithmetic _ parts => put ("((".toList ++ quotedText fuel parts ++ "))".toList)
    | .coprocess _ name body => do
      put ("coproc ".toList ++ name ++ [' '])
      skipGap
      write fuel body
  termination_by structural fuel => fuel

/-- Writes the body of a function behind its opening brace, and the closing one with the
redirections of the body. -/
def writeBody : (fuel : Nat) → Command → Writer
  | 0, _ => pure ()
  | fuel + 1, body => do
    let (inner, redirects) := match body with
      | .group inner => (inner, [])
      | .redirected _ (.group inner) redirects => (inner, redirects)
      | body => (body, [])
    modify (fun p => { p with functions := p.functions + 1 })
    inside (writeWhole fuel inner)
    modify (fun p => { p with functions := p.functions - 1 })
    if redirects.isEmpty then newline "\x7d"
    else
      newline "\x7d "
      putRedirects redirects
  termination_by structural fuel => fuel

end

/-- More levels than commands have. -/
def maxDepth : Nat := 100000

/-- A function as a script defines it. -/
def functionText (name : Text) (body : Command) : Text :=
  let page := ((writeBody maxDepth body).run {}).2
  name ++ " () \n\x7b \n".toList ++ page.written.reverse

/-- The body of a function as programs get it: everything begins behind one blank. -/
def passedText (body : Command) : Text :=
  let inner : Writer := do
    modify (fun p => { p with indent := 1, step := 0 })
    writeBody maxDepth body
  let page := (inner.run {}).2
  "() \x7b ".toList ++ page.written.reverse

/-- A command on its own. -/
def lineText (command : Command) : Text := commandText maxDepth command

end Slipway.Rich.Printer
