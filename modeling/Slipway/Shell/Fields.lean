import Slipway.Shell.Channels
import Slipway.Shell.Pattern

/-!
# Fields

What an expanded word is made of, and the fields that come of it. Only what an expansion has put
into a word without quotes is split; such parts are regions of the word.
-/

namespace Slipway.Shell

inductive Atom
  | letter (l : Letter)
  /-- The end of one argument of several. -/
  | cut
  /-- Quotes were here, so there is a field even if it is empty. -/
  | mark
  /-- A region begins. A `hard` one is only split between arguments. -/
  | opens (hard : Bool)
  | closes
  deriving DecidableEq

def atomsOf (quoted : Bool) (text : Text) : List Atom := text.map (fun c => .letter ⟨c, quoted⟩)

def region (hard : Bool) (atoms : List Atom) : List Atom := .opens hard :: atoms ++ [.closes]

/-- The letters of a word that is not split. -/
def lettersOfAtoms (atoms : List Atom) : Letters :=
  atoms.filterMap fun atom =>
    match atom with
    | .letter l => some l
    | _ => none

/-! ## Splitting -/

structure Splitting where
  inRegion : Bool := false
  hard : Bool := false
  /-- Whether the region before this one was hard. -/
  afterHard : Bool := false
  /-- Whether separating blanks are being skipped. -/
  skipping : Bool := false
  /-- The open field, its latest atom first. -/
  field : List Atom := []
  /-- The latest first. -/
  fields : List Letters := []
  /-- How many more fields there may be; the last one takes the rest. -/
  room : Option Nat := none
  /-- How much of the last field stays when blanks at its end are taken away. -/
  kept : Option Nat := none

namespace Splitting

def push (s : Splitting) (atom : Atom) : Splitting := { s with field := atom :: s.field }

def finish (s : Splitting) : Splitting :=
  { s with fields := lettersOfAtoms s.field.reverse :: s.fields, field := [] }

/-- Takes an atom into the last field. -/
def takeRest (s : Splitting) (atom : Atom) (separates isBlank : Bool) : Splitting :=
  if separates && isBlank then
    { s.push atom with kept := s.kept.orElse (fun _ => some s.field.length) }
  else
    { s.push atom with kept := if separates && s.skipping then s.kept else none, skipping := false }

/-- Takes an atom that ends a field. -/
def separate (s : Splitting) (atom : Atom) (isBlank : Bool) : Splitting :=
  let skipping := if s.afterHard || s.hard then s.skipping else isBlank
  if s.field.isEmpty && skipping then { s with skipping := false }
  else
    match s.room with
    | some 1 => { s.push atom with room := some 0, kept := some s.field.length, skipping }
    | some n => { s.finish with room := some (n - 1), skipping }
    | none => { s.finish with skipping }

/-- Takes an atom of a region. -/
def takeSplit (s : Splitting) (atom : Atom) (separates isBlank : Bool) : Splitting :=
  if s.room = some 0 then s.takeRest atom separates isBlank
  else if s.skipping then
    if separates then { s with field := [], skipping := isBlank }
    else { s with field := [atom], skipping := false }
  else if separates then s.separate atom isBlank
  else s.push atom

def take (separators : Text) (s : Splitting) (atom : Atom) : Splitting :=
  match atom with
  | .opens hard => { s with inRegion := true, afterHard := s.hard, hard, skipping := false }
  | .closes => { s with inRegion := false }
  | .mark => s.push atom
  | .cut => s.takeSplit atom true true
  | .letter l =>
    if s.inRegion then
      s.takeSplit atom (!s.hard && separators.contains l.char)
        (l.char = ' ' || l.char = '\t' || l.char = '\n')
    else s.push atom

/-- All fields, when everything was taken. -/
def result (s : Splitting) : List Letters :=
  let field := match s.kept with
    | some n => s.field.drop (s.field.length - n)
    | none => s.field
  if s.hard || !field.isEmpty then (lettersOfAtoms field.reverse :: s.fields).reverse
  else s.fields.reverse

end Splitting

/-- The fields of a word; at most so many if there is room for some only. -/
def fieldsOf (separators : Text) (atoms : List Atom) (room : Option Nat := none) : List Letters :=
  (atoms.foldl (Splitting.take separators) { room }).result

/-! ## Names of files -/

/-- A pattern of a path in the patterns of its names. -/
def splitLetters : Letters → List Letters
  | [] => [[]]
  | l :: rest =>
    if l.char = '/' then [] :: splitLetters rest
    else
      match splitLetters rest with
      | [] => [[l]]
      | first :: others => (l :: first) :: others

def textLe : Text → Text → Bool
  | [], _ => true
  | _ :: _, [] => false
  | c :: cs, d :: ds => if c = d then textLe cs ds else c < d

/-- The names in a directory. -/
def namesIn (m : Machine) (dir : Text) : List Text :=
  match m.files.findNode m.directory (if dir.isEmpty then ⟨"."⟩ else pathOf dir) with
  | .ok (place, .directory _) =>
    (m.files.children place).map (fun entry => Text.ofString (entry.1.getLastD ""))
  | _ => []

/-- What the name behind a directory can be that fits a pattern. Hidden names have to be asked
for. -/
def matchName (m : Machine) (dir : Text) (name : Letters) : List Text :=
  if isPattern name then
    let items := patternOf name
    let letters := applyBackslashes name
    let asksForHidden := (textOf letters).head? = some '.'
    let names := if asksForHidden then ".".toList :: "..".toList :: namesIn m dir else namesIn m dir
    (names.filter (fun n => (asksForHidden || n.head? ≠ some '.') && matchesPattern items n)).map
      (dir ++ ·)
  else [dir ++ textOf (applyBackslashes name)]

/-- The paths that fit a pattern, name by name below what was found so far. -/
def matchNames (m : Machine) : (found : List Text) → List Letters → List Text
  | found, [] => found
  | found, [name] => found.flatMap (fun dir => matchName m dir name)
  | found, name :: rest =>
    matchNames m ((found.flatMap (fun dir => matchName m dir name)).map (· ++ ['/'])) rest

/-- The paths that a field stands for; a pattern that fits none stands for itself. -/
def pathsOf (m : Machine) (field : Letters) : List Text :=
  if !isPattern field then [textOf field]
  else
    let found := (matchNames m [[]] (splitLetters field)).filter
      (fun path => (m.files.findNode m.directory (pathOf path) false).isOk)
    if found.isEmpty then [textOf field] else found.mergeSort textLe

end Slipway.Shell
