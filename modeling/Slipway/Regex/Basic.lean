import Slipway.Text.Characters

/-!
# Regular expressions

Expressions with groups, repetitions and references to groups. A match begins as early as it can
and is then as long as it can be.
-/

namespace Slipway

/-- A part of a set of characters. -/
inductive CharRange
  | span (first last : Char)
  | named (test : Char → Bool)

def CharRange.contains : CharRange → Char → Bool
  | span first last, c => first ≤ c && c ≤ last
  | named test, c => test c

/-- Places between characters. -/
inductive Anchor
  | start
  | stop
  /-- The start of the text, whatever lines are in it. -/
  | first
  | last
  | wordEdge
  | noWordEdge
  | wordStart
  | wordEnd
  deriving DecidableEq

inductive Regex
  | empty
  | char (c : Char)
  | any
  | set (ranges : List CharRange) (negated : Bool)
  | seq (first second : Regex)
  | either (first second : Regex)
  /-- So many times at least, and at most if there is a limit. -/
  | repeat (body : Regex) (least : Nat) (most : Option Nat)
  | group (number : Nat) (body : Regex)
  | same (group : Nat)
  | anchor (place : Anchor)

namespace Regex

/-- How texts are matched. -/
structure Settings where
  ignoresCase : Bool := false
  /-- Anchors stand for the edges of lines in the text. -/
  byLine : Bool := false

/-- Where the groups were found. -/
abbrev Groups := List (Nat × Nat × Nat)

def isWordChar (c : Char) : Bool := isLetterChar c || isDigitChar c || c = '_'

/-! ## Single steps -/

/-- Whether an expression for one character takes a character. -/
def takes (s : Settings) (test : Char → Bool) (c : Char) : Bool :=
  test c || (s.ignoresCase && (test c.toLower || test c.toUpper))

/-- What of a character an expression looks at. -/
def charTest? : Regex → Option (Char → Bool)
  | char c => some (· = c)
  | any => some (fun _ => true)
  | set ranges negated => some (fun c => ranges.any (·.contains c) != negated)
  | _ => none

/-- A negated set takes no character of which the other case is in it. -/
def takesChar (s : Settings) (r : Regex) (c : Char) : Bool :=
  match r with
  | char d => takes s (· = d) c
  | any => true
  | set ranges negated => takes s (fun c => ranges.any (·.contains c)) c != negated
  | _ => false

def isAt (s : Settings) (text : Array Char) (i : Nat) (place : Anchor) : Bool :=
  let before := if i = 0 then none else text[i - 1]?
  let behind := text[i]?
  let isWord := fun (c : Option Char) => (c.map isWordChar).getD false
  match place with
  | .start => i = 0 || (s.byLine && before = some '\n')
  | .stop => i = text.size || (s.byLine && behind = some '\n')
  | .first => i = 0
  | .last => i = text.size
  | .wordEdge => isWord before != isWord behind
  | .noWordEdge => isWord before == isWord behind
  | .wordStart => !isWord before && isWord behind
  | .wordEnd => isWord before && !isWord behind

/-- Whether a piece of the text stands at a place once more. -/
def standsAt (s : Settings) (text : Array Char) (piece : List Char) (i : Nat) : Bool :=
  let fold := fun (c : Char) => if s.ignoresCase then c.toLower else c
  ((text.toList.drop i).take piece.length).map fold = piece.map fold

/-! ## Ends of matches -/

def insertEnd (i : Nat) : List Nat → List Nat
  | [] => [i]
  | j :: rest => if i = j then j :: rest else if i < j then i :: j :: rest else j :: insertEnd i rest

def union (a b : List Nat) : List Nat := b.foldl (fun ends i => insertEnd i ends) a

/-- The ends that are reached from some starts. -/
def endsFrom (step : Nat → List Nat) (starts : List Nat) : List Nat :=
  starts.foldl (fun ends i => union ends (step i)) []

/-- The ends after a step was taken `least` times and then at most `more` times. -/
def endsOfRepeat (step : Nat → List Nat) : (least more : Nat) → (starts : List Nat) → List Nat
  | least + 1, more, starts => endsOfRepeat step least more (endsFrom step starts)
  | 0, 0, starts => starts
  | 0, more + 1, starts =>
    let next := (endsFrom step starts).filter (fun i => !starts.contains i)
    if next.isEmpty then starts else union starts (endsOfRepeat step 0 more next)

/-- All ends of matches that begin at a place, for expressions without references. -/
def ends (s : Settings) (text : Array Char) : Regex → Nat → List Nat
  | empty, i => [i]
  | seq a b, i => endsFrom (ends s text b) (ends s text a i)
  | either a b, i => union (ends s text a i) (ends s text b i)
  | .repeat a least most, i =>
    let more := match most with
      | some most => most - least
      | none => text.size + 1
    endsOfRepeat (ends s text a) least more [i]
  | group _ a, i => ends s text a i
  | same _, i => [i]
  | anchor place, i => if isAt s text i place then [i] else []
  | r, i =>
    match text[i]? with
    | some c => if takesChar s r c then [i + 1] else []
    | none => []

/-! ## Groups of matches -/

abbrev Next := Nat → Groups → Option (Nat × Groups)

/-- Takes a step as often as it can be taken, less often if what follows needs that. -/
def searchRepeat (step : Nat → Groups → Next → Option (Nat × Groups)) :
    (fuel least more : Nat) → Nat → Groups → Next → Option (Nat × Groups)
  | 0, _, _, _, _, _ => none
  | fuel + 1, least, more, i, groups, next =>
    let again : Option (Nat × Groups) :=
      if least = 0 ∧ more = 0 then none
      else step i groups fun j groups =>
        if j = i ∧ least = 0 then none
        else if least = 0 then searchRepeat step fuel 0 (more - 1) j groups next
        else searchRepeat step fuel (least - 1) more j groups next
    again.orElse fun _ => if least = 0 then next i groups else none

/-- Looks for a way through an expression from a place on that what follows agrees with. -/
def search (s : Settings) (text : Array Char) : Regex → Nat → Groups → Next → Option (Nat × Groups)
  | empty, i, groups, next => next i groups
  | seq a b, i, groups, next =>
    search s text a i groups (fun j groups => search s text b j groups next)
  | either a b, i, groups, next =>
    (search s text a i groups next).orElse (fun _ => search s text b i groups next)
  | .repeat a least most, i, groups, next =>
    let more := match most with
      | some most => most - least
      | none => text.size + 1
    searchRepeat (fun i groups next => search s text a i groups next)
      (least + more + 1) least more i groups next
  | group n a, i, groups, next =>
    search s text a i groups (fun j groups => next j ((n, i, j) :: groups.filter (·.1 ≠ n)))
  | same n, i, groups, next =>
    match groups.lookup n with
    | some (first, last) =>
      let piece := (text.toList.take last).drop first
      if standsAt s text piece i then next (i + piece.length) groups else none
    | none => none
  | anchor place, i, groups, next => if isAt s text i place then next i groups else none
  | r, i, groups, next =>
    match text[i]? with
    | some c => if takesChar s r c then next (i + 1) groups else none
    | none => none

/-- Whether an expression refers to groups. -/
def hasReference : Regex → Bool
  | seq a b => a.hasReference || b.hasReference
  | either a b => a.hasReference || b.hasReference
  | .repeat a _ _ => a.hasReference
  | group _ a => a.hasReference
  | same _ => true
  | _ => false

/-! ## Matching -/

/-- The longest match that begins at a place: its end, and the groups. -/
def matchAt (r : Regex) (s : Settings) (text : Array Char) (i : Nat) : Option (Nat × Groups) :=
  if r.hasReference then r.search s text i [] (fun j groups => some (j, groups))
  else
    match (r.ends s text i).getLast? with
    | none => none
    | some stop =>
      r.search s text i [] (fun j groups => if j = stop then some (j, groups) else none)

/-- The first match at a place or behind it: its start, its end and the groups. -/
def findFrom (r : Regex) (s : Settings) (text : Array Char) : (fuel : Nat) → (i : Nat) →
    Option (Nat × Nat × Groups)
  | 0, _ => none
  | fuel + 1, i =>
    if text.size < i then none
    else
      match r.matchAt s text i with
      | some (stop, groups) => some (i, stop, groups)
      | none => findFrom r s text fuel (i + 1)

def find? (r : Regex) (s : Settings) (text : Array Char) (i : Nat := 0) :
    Option (Nat × Nat × Groups) :=
  r.findFrom s text (text.size + 2 - i) i

end Regex

end Slipway
