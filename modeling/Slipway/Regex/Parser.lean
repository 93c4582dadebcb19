import Slipway.Regex.Basic

/-!
# The written form of regular expressions

There are two ways of writing: in the basic one the signs for groups, bounds and alternatives need a
backslash, in the extended one they stand for themselves with a backslash.
-/

namespace Slipway

namespace Regex

/-- What was read so far besides the expression. -/
structure Reading where
  /-- Groups that were begun. -/
  groups : Nat := 0
  /-- Groups that are closed. -/
  closed : List Nat := []

abbrev Chars := List Char

/-! ## Sets -/

/-- What stands up to a mark and a closing bracket. -/
def upToMark (mark : Char) : Chars → Option (Chars × Chars)
  | c :: ']' :: rest => if c = mark then some ([], rest)
    else (upToMark mark (']' :: rest)).map (fun (name, rest) => (c :: name, rest))
  | c :: rest => (upToMark mark rest).map (fun (name, rest) => (c :: name, rest))
  | [] => none

def setUnmatched : String := "Unmatched [, [^, [:, [., or [="

/-- An end of a range: a character as it stands or in dots. -/
def readEdge (text : Chars) : Except String (Char × Chars) :=
  match text with
  | '[' :: '.' :: rest =>
    match upToMark '.' rest with
    | some ([c], rest) => .ok (c, rest)
    | some _ => .error "Invalid collation character"
    | none => .error setUnmatched
  | c :: rest => .ok (c, rest)
  | [] => .error setUnmatched

/-- The parts of a set up to the closing bracket. -/
def readSet : (fuel : Nat) → (isFirst : Bool) → Chars → Except String (List CharRange × Chars)
  | 0, _, _ => .error setUnmatched
  | fuel + 1, isFirst, text =>
    match text with
    | [] => .error setUnmatched
    | ']' :: rest =>
      if isFirst then do
        let (more, rest) ← readRangeFrom fuel ']' rest
        .ok (more, rest)
      else .ok ([], rest)
    | '[' :: ':' :: rest =>
      match upToMark ':' rest with
      | none => .error setUnmatched
      | some (name, rest) =>
        match charClass? (String.ofList name) with
        | none => .error "Invalid character class name"
        | some test => do
          let (more, rest) ← readSet fuel false rest
          .ok (.named test :: more, rest)
    | '[' :: '=' :: rest =>
      match upToMark '=' rest with
      | some ([c], rest) => do
        let (more, rest) ← readSet fuel false rest
        .ok (.span c c :: more, rest)
      | _ => .error "Invalid collation character"
    | text => do
      let (c, rest) ← readEdge text
      readRangeFrom fuel c rest
where
  readRangeFrom (fuel : Nat) (c : Char) (rest : Chars) : Except String (List CharRange × Chars) :=
    match rest with
    | '-' :: ']' :: _ => do
      let (more, rest) ← readSet fuel false rest
      .ok (.span c c :: more, rest)
    | '-' :: rest => do
      let (d, rest) ← readEdge rest
      if d < c then .error "Invalid range end"
      else do
        let (more, rest) ← readSet fuel false rest
        .ok (.span c d :: more, rest)
    | rest => do
      let (more, rest) ← readSet fuel false rest
      .ok (.span c c :: more, rest)

/-! ## Repetitions -/

/-- The bounds of a repetition up to its closing brace. -/
def readBounds (extended : Bool) (text : Chars) : Except String ((Nat × Option Nat) × Chars) :=
  let digits (text : Chars) : Option Nat × Chars :=
    let found := text.takeWhile Char.isDigit
    ((String.ofList found).toNat?, text.drop found.length)
  let (least, rest) := digits text
  let (most, rest) := match rest with
    | ',' :: rest =>
      let (most, rest) := digits rest
      (most, rest)
    | rest => (least, rest)
  let close : Option Chars := match extended, rest with
    | true, '\x7d' :: rest => some rest
    | false, '\\' :: '\x7d' :: rest => some rest
    | _, _ => none
  match close with
  | none => .error (if rest.isEmpty then (if extended then "Unmatched \x7b" else "Unmatched \\\x7b")
      else "Invalid content of \\\x7b\\\x7d")
  | some rest =>
    match most with
    | some most =>
      if most < least.getD 0 then .error "Invalid content of \\\x7b\\\x7d"
      else .ok ((least.getD 0, some most), rest)
    | none => .ok ((least.getD 0, none), rest)

/-- The repetitions behind an expression. -/
def readRepeats (extended : Bool) : (fuel : Nat) → Regex → Chars → Except String (Regex × Chars)
  | 0, r, text => .ok (r, text)
  | fuel + 1, r, text =>
    let on (least : Nat) (most : Option Nat) (rest : Chars) : Except String (Regex × Chars) :=
      readRepeats extended fuel (.repeat r least most) rest
    let bounded (rest : Chars) : Except String (Regex × Chars) := do
      let ((least, most), rest) ← readBounds extended rest
      on least most rest
    match extended, text with
    | _, '*' :: rest => on 0 none rest
    | true, '+' :: rest => on 1 none rest
    | true, '?' :: rest => on 0 (some 1) rest
    | true, '\x7b' :: rest =>
      if (rest.head?.map (fun c => c.isDigit || c = ',')).getD false then bounded rest
      else .ok (r, text)
    | false, '\\' :: '+' :: rest => on 1 none rest
    | false, '\\' :: '?' :: rest => on 0 (some 1) rest
    | false, '\\' :: '\x7b' :: rest => bounded rest
    | _, _ => .ok (r, text)

/-! ## Expressions -/

/-- What a backslash and a letter stand for. -/
def letterEscape? (c : Char) : Option Regex :=
  match c with
  | 'w' => some (.set [.named isWordChar] false)
  | 'W' => some (.set [.named isWordChar] true)
  | 's' => some (.set [.named isSpaceChar] false)
  | 'S' => some (.set [.named isSpaceChar] true)
  | 'b' => some (.anchor .wordEdge)
  | 'B' => some (.anchor .noWordEdge)
  | '<' => some (.anchor .wordStart)
  | '>' => some (.anchor .wordEnd)
  | '\x60' => some (.anchor .first)
  | '\'' => some (.anchor .last)
  | 'n' => some (.char '\n')
  | 't' => some (.char '\t')
  | _ => none

/-- Whether a branch ends here. -/
def endsBranch (extended : Bool) (depth : Nat) (text : Chars) : Bool :=
  match extended, text with
  | _, [] => true
  | true, '|' :: _ => true
  | true, ')' :: _ => 0 < depth
  | false, '\\' :: '|' :: _ => true
  | false, '\\' :: ')' :: _ => true
  | _, _ => false

/-- Whether a dollar sign stands where it means the end. -/
def isEndSign (extended : Bool) (rest : Chars) : Bool :=
  extended || (match rest with
    | [] => true
    | '\\' :: ')' :: _ => true
    | '\\' :: '|' :: _ => true
    | _ => false)

mutual

/-- Alternatives up to the end of the text or of the group. -/
def readAlternatives (extended : Bool) : (fuel depth : Nat) → Reading → Chars →
    Except String (Regex × Reading × Chars)
  | 0, _, _, _ => .error "Regular expression too big"
  | fuel + 1, depth, state, text => do
    let (first, state, rest) ← readBranch extended fuel depth true state text
    let behind := match extended, rest with
      | true, '|' :: rest => some rest
      | false, '\\' :: '|' :: rest => some rest
      | _, _ => none
    match behind with
    | none => .ok (first, state, rest)
    | some rest => do
      let (second, state, rest) ← readAlternatives extended fuel depth state rest
      .ok (.either first second, state, rest)

/-- One expression after the other. -/
def readBranch (extended : Bool) : (fuel depth : Nat) → (isFirst : Bool) → Reading → Chars →
    Except String (Regex × Reading × Chars)
  | 0, _, _, _, _ => .error "Regular expression too big"
  | fuel + 1, depth, isFirst, state, text =>
    if endsBranch extended depth text then .ok (.empty, state, text)
    else do
      let (one, state, rest) ← readOne extended fuel depth isFirst state text
      let isStart := match one, extended with
        | .anchor .start, false => true
        | _, _ => false
      let (one, rest) ← if isStart then .ok (one, rest)
        else readRepeats extended (rest.length + 1) one rest
      let (more, state, rest) ← readBranch extended fuel depth (isFirst && isStart) state rest
      .ok (.seq one more, state, rest)

/-- A single expression without repetitions. -/
def readOne (extended : Bool) : (fuel depth : Nat) → (isFirst : Bool) → Reading → Chars →
    Except String (Regex × Reading × Chars)
  | 0, _, _, _, _ => .error "Regular expression too big"
  | fuel + 1, depth, isFirst, state, text =>
    let group (rest : Chars) : Except String (Regex × Reading × Chars) := do
      let number := state.groups + 1
      let (body, state, rest) ←
        readAlternatives extended fuel (depth + 1) { state with groups := number } rest
      let behind := match extended, rest with
        | true, ')' :: rest => some rest
        | false, '\\' :: ')' :: rest => some rest
        | _, _ => none
      match behind with
      | some rest => .ok (.group number body, { state with closed := number :: state.closed }, rest)
      | none => .error "Unmatched ( or \\("
    match text with
    | [] => .ok (.empty, state, [])
    | '.' :: rest => .ok (.any, state, rest)
    | '[' :: '^' :: rest => do
      let (ranges, rest) ← readSet (rest.length + 1) true rest
      .ok (.set ranges true, state, rest)
    | '[' :: rest => do
      let (ranges, rest) ← readSet (rest.length + 1) true rest
      .ok (.set ranges false, state, rest)
    | '^' :: rest =>
      if extended ∨ isFirst then .ok (.anchor .start, state, rest) else .ok (.char '^', state, rest)
    | '$' :: rest =>
      if isEndSign extended rest then .ok (.anchor .stop, state, rest)
      else .ok (.char '$', state, rest)
    | '\\' :: [] => .error "Trailing backslash"
    | '\\' :: c :: rest =>
      if c = '(' ∧ !extended then group rest
      else if c = '\x7b' ∧ !extended then .error "Invalid preceding regular expression"
      else if '1' ≤ c ∧ c ≤ '9' then
        let number := c.toNat - '0'.toNat
        if state.closed.contains number then .ok (.same number, state, rest)
        else .error "Invalid back reference"
      else
        match letterEscape? c with
        | some r => .ok (r, state, rest)
        | none => .ok (.char c, state, rest)
    | c :: rest =>
      if c = '(' ∧ extended then group rest
      else if c = ')' ∧ extended then
        if depth = 0 then .error "Unmatched ) or \\)" else .ok (.char c, state, rest)
      else if extended ∧ (c = '*' ∨ c = '+' ∨ c = '?') then
        if isFirst then .ok (.empty, state, rest) else .error "Invalid preceding regular expression"
      else .ok (.char c, state, rest)

end

/-- An expression from its written form, and the number of its groups. -/
def parse (extended : Bool) (text : Chars) : Except String (Regex × Nat) := do
  let (r, state, rest) ← readAlternatives extended (4 * text.length + 8) 0 {} text
  match rest with
  | [] => .ok (r, state.groups)
  | _ => .error "Unmatched ) or \\)"

end Regex

end Slipway
