import Slipway.Shell.Arithmetic
import Slipway.Shell.Runner

/-!
# Expansion

What becomes of the words of a command before it runs: parameters, the output of commands, sums and
tildes are replaced, and the result is split into fields.
-/

namespace Slipway.Shell

/-! ## Parameters -/

/-- The letters for the options, in the order in which they are shown. -/
def optionLetters : List (Char × String) := [
  ('p', "privileged"), ('u', "nounset"), ('b', "notify"), ('a', "allexport"), ('C', "noclobber"),
  ('E', "emacs"), ('V', "vi"), ('v', "verbose"), ('x', "xtrace"), ('s', "stdin"), ('n', "noexec"),
  ('m', "monitor"), ('i', "interactive"), ('I', "ignoreeof"), ('f', "noglob"), ('e', "errexit")]

def joinTexts (separator : Text) : List Text → Text
  | [] => []
  | [text] => text
  | text :: rest => text ++ separator ++ joinTexts separator rest

def separatorsOf (p : Process) : Text := (p.getText? "IFS").getD " \t\n".toList

/-- What stands between arguments in one text. -/
def argumentSeparator (p : Process) : Text :=
  match p.getText? "IFS" with
  | none => [' ']
  | some separators => separators.take 1

/-- All arguments. They stay apart when the word is split, except for a quoted star. -/
def argumentAtoms (p : Process) (mode : Mode) (name : Char) : List Atom :=
  if mode.full ∧ !(mode.quoted ∧ name = '*') then
    List.intercalate [.cut] (p.args.map (atomsOf mode.quoted))
  else atomsOf mode.quoted (joinTexts (argumentSeparator p) p.args)

def naturalText (n : Nat) : Text := (toString n).toList

/-- The atoms of a parameter, or none if it is not set. -/
def parameterAtoms? (p : Process) (mode : Mode) (name : Text) : Option (List Atom) :=
  let plain (text : Text) : Option (List Atom) := some (atomsOf mode.quoted text)
  match name with
  | ['#'] => plain (naturalText p.args.length)
  | ['?'] => plain (naturalText p.status)
  | ['$'] => plain (naturalText p.shell)
  | ['!'] => if p.lastJob = 0 then none else plain (naturalText p.lastJob)
  | ['-'] => plain ((optionLetters.filter (fun (_, option) => p.has option)).map (·.1))
  | ['@'] => some (argumentAtoms p mode '@')
  | ['*'] => some (argumentAtoms p mode '*')
  | d :: _ =>
    if d.isDigit then
      let n := valueOfDigits 10 name
      if n = 0 then plain p.name else (p.args[n - 1]?).bind plain
    else (p.get? name).bind plain
  | [] => none

/-- How many characters a value has; what stands between arguments counts as one. -/
def atomCount (atoms : List Atom) : Nat := atoms.length

/-- A region, unless the word is quoted; quoted arguments are only split between them. -/
def regionOf (p : Process) (mode : Mode) (name : Text) (atoms : List Atom) : List Atom :=
  if !mode.quoted then region false atoms
  else if name = ['@'] ∧ !p.args.isEmpty then region true atoms
  else atoms

/-- A NUL stands for the end of an argument. -/
def textOfAtoms (atoms : List Atom) : Text :=
  atoms.filterMap fun atom =>
    match atom with
    | .letter l => some l.char
    | .cut => some '\x00'
    | _ => none

def atomsWithCuts (quoted : Bool) (text : Text) : List Atom :=
  text.map (fun c => if c = '\x00' then .cut else .letter ⟨c, quoted⟩)

/-- Ends with a message about a parameter. -/
def notSet {α : Type} (name : Text) (message : String := "parameter not set") : Eval α :=
  fail (name.toString ++ ": " ++ message)

/-! ## Tildes -/

/-- The home directory that a tilde with a name stands for. -/
def homeOf? (p : Process) (user : Text) : Option Text :=
  if user.isEmpty then p.getText? "HOME"
  else if user = "root".toList then some "/root".toList
  else none

/-- Replaces a tilde at the start of a text. Behind the text the word may go on. -/
def expandTilde (p : Process) (inValue goesOn : Bool) (text : Text) : List Atom × Text :=
  match text with
  | '~' :: rest =>
    let isEnd := fun (c : Char) => c = '/' || (inValue && c = ':')
    let user := rest.takeWhile (fun c => !isEnd c)
    let behind := rest.drop user.length
    if behind.isEmpty && goesOn then ([], text)
    else
      match homeOf? p user with
      | some home => (atomsOf true home, behind)
      | none => ([], text)
  | _ => ([], text)

/-- Replaces the tildes of a value behind colons. -/
def expandColonTildes (p : Process) (goesOn : Bool) : (fuel : Nat) → Text → List Atom
  | 0, text => atomsOf false text
  | _, [] => []
  | fuel + 1, ':' :: rest =>
    let (home, rest) := expandTilde p true goesOn rest
    .letter ⟨':', false⟩ :: home ++ expandColonTildes p goesOn fuel rest
  | fuel + 1, c :: rest => .letter ⟨c, false⟩ :: expandColonTildes p goesOn fuel rest

/-- The atoms of the characters of a word. -/
def expandCharacters (p : Process) (mode : Mode) (isFirst goesOn : Bool) (text : Text) :
    List Atom :=
  let (home, rest) := if mode.tilde && isFirst then expandTilde p mode.value goesOn text
    else ([], text)
  let atoms := home ++ (if mode.value then expandColonTildes p goesOn (rest.length + 1) rest
    else atomsOf mode.quoted rest)
  if mode.splits && !mode.quoted then region false atoms else atoms

namespace Runner

variable (r : Runner)

/-! ## Parts of words -/

/-- What a command writes, without the line ends behind it and without zero bytes. -/
def captureOutput (body : Option Command) : Eval Text := do
  match body with
  | none => pure []
  | some body =>
    let id ← newChannel (.pipe [] [] none)
    let _ ← makeRoom
    let status ← waitForChild (do
      modifySelf (fun p => p.connect 1 (some id))
      r.toEnd (do let _ ← r.run body { last := true }))
    modifySelf (fun p => { p with outputStatus := status })
    let text := Text.ofBytes ((← drain id).filter (· ≠ 0))
    pure (text.reverse.dropWhile (· = '\n')).reverse

/-- Whether what was found for a parameter counts as a value. -/
def isGiven (colon : Bool) (found : Option (List Atom)) : Bool :=
  match found with
  | none => false
  | some atoms => !(colon && atoms.isEmpty)

/-- A word as one text. -/
def textOfParts (mode : Mode) (parts : List Part) : Eval Text :=
  return textOf (lettersOfAtoms (← r.parts mode parts))

/-- The value of a parameter without what fits a pattern at one of its ends. -/
def trimmed (mode : Mode) (name : Text) (word : List Part) (atoms : List Atom)
    (trim : List PatternItem → Text → Text) : Eval (List Atom) := do
  let items := patternOf (lettersOfAtoms (← r.parts { tilde := true } word))
  pure (regionOf (← self) mode name (atomsWithCuts mode.quoted (trim items (textOfAtoms atoms))))

def expandParameter (mode : Mode) (name : Text) (operator : Operator) (word : List Part) :
    Eval (List Atom) := do
  let p ← self
  let found := parameterAtoms? p mode name
  let required : Eval (List Atom) :=
    match found with
    | some atoms => pure atoms
    | none => if p.has "nounset" then notSet name else pure []
  let inner : Mode := { mode with tilde := true, splits := true }
  match operator with
  | .unknown => fail "Bad substitution"
  | .value => return regionOf p mode name (← required)
  | .length =>
    let n := naturalText (atomCount (← required))
    pure (regionOf p mode [] (atomsOf mode.quoted n))
  | .dropStart longest => r.trimmed mode name word (← required) (dropMatchingStart longest)
  | .dropEnd longest => r.trimmed mode name word (← required) (dropMatchingEnd longest)
  | .default colon =>
    if isGiven colon found then pure (regionOf p mode name (found.getD []))
    else r.parts inner word
  | .replace colon => if isGiven colon found then r.parts inner word else pure []
  | .assign colon =>
    if isGiven colon found then pure (regionOf p mode name (found.getD []))
    else
      let value ← r.textOfParts { tilde := true } word
      assignNamed name value
      pure (regionOf p mode name (atomsOf mode.quoted value))
  | .fail colon =>
    if isGiven colon found then pure (regionOf p mode name (found.getD []))
    else if word.isEmpty then
      notSet name (if colon then "parameter not set or null" else "parameter not set")
    else notSet name (← r.textOfParts { tilde := true } word).toString

/-- A part of a word. -/
def expandPart (mode : Mode) (isFirst goesOn : Bool) : Part → Eval (List Atom)
  | .text text => return expandCharacters (← self) mode isFirst goesOn text
  | .literal text => pure (atomsOf true text)
  | .quotes [.parameter ['@'] .value []] =>
    r.expandParameter { mode with quoted := true, splits := false } ['@'] .value []
  | .quotes parts => return .mark :: (← r.parts { mode with quoted := true, tilde := false } parts)
  | .parameter name operator word => r.expandParameter mode name operator word
  | .output body => do
    let atoms := atomsOf mode.quoted (← r.captureOutput body)
    pure (if mode.quoted then atoms else region false atoms)
  | .arithmetic expression => do
    let text ← r.textOfParts { quoted := true } expression
    let atoms := atomsOf mode.quoted (textOfInt (← Arithmetic.evaluate text))
    pure (if mode.quoted then atoms else region false atoms)

/-- The parts of a word one after the other. -/
def expandParts (mode : Mode) : (isFirst : Bool) → List Part → Eval (List Atom)
  | _, [] => pure []
  | isFirst, part :: rest => do
    let atoms ← r.expandPart mode isFirst (!rest.isEmpty) part
    return atoms ++ (← expandParts mode false rest)

/-! ## Words -/

/-- The fields of a word, with patterns replaced by the paths that fit them. -/
def expandFields (word : Word) : Eval (List Text) := do
  let atoms ← r.parts { full := true, tilde := true } word
  let p ← self
  let fields := fieldsOf (separatorsOf p) atoms
  if p.has "noglob" then pure (fields.map textOf)
  else
    let m := (← get).machine
    pure (fields.flatMap (pathsOf m))

/-- A word that is not split. -/
def expandText (word : Word) : Eval Text := r.textOfParts { tilde := true } word

/-- A word that gives a variable a value, with its name in front. -/
def expandAssignment (word : Word) : Eval (Text × Text) := do
  match word with
  | .text text :: rest =>
    match splitAssignment? text with
    | some (name, start) =>
      let parts := if start.isEmpty then rest else .text start :: rest
      pure (name, ← r.textOfParts { tilde := true, value := true } parts)
    | none => pure ([], [])
  | _ => pure ([], [])

end Runner

end Slipway.Shell
