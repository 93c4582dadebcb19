import Slipway.Records.Syntax
import Slipway.Shell.Number

/-!
# Regular expressions of programs over records

The written form is the extended one without bounds: braces stand for themselves. Backslashes have
the meaning that they have in texts.
-/

namespace Slipway.Records

open Shell (Text isOctalDigit valueOfDigits)

/-! ## Escapes -/

/-- What a backslash and a letter stand for. -/
def letterEscape? : Char → Option Char
  | '"' => some '"'
  | '\\' => some '\\'
  | 'a' => some '\x07'
  | 'b' => some '\x08'
  | 't' => some '\t'
  | 'n' => some '\n'
  | 'v' => some '\x0b'
  | 'f' => some '\x0c'
  | 'r' => some '\r'
  | _ => none

/-- The character that stands behind a backslash, and what follows it. -/
def readEscape? (text : Text) : Option (Char × Text) :=
  match text with
  | [] => none
  | c :: rest =>
    match letterEscape? c with
    | some d => some (d, rest)
    | none =>
      let code (base : Nat) (digits behind : Text) : Option (Char × Text) :=
        if digits.isEmpty then none
        else some (Char.ofNat (valueOfDigits base digits % 256), behind.drop digits.length)
      if c = 'x' then code 16 ((rest.take 2).takeWhile isHexChar) rest
      else code 8 ((text.take 3).takeWhile isOctalDigit) text

/-- A text with its escapes replaced; what is no escape stays with its backslash. -/
def unescape : (fuel : Nat) → Text → Text
  | 0, _ => []
  | _, [] => []
  | fuel + 1, '\\' :: rest =>
    match readEscape? rest with
    | some (c, rest) => c :: unescape fuel rest
    | none => '\\' :: unescape fuel rest
  | fuel + 1, c :: rest => c :: unescape fuel rest

def unescaped (text : Text) : Text := unescape (text.length + 1) text

namespace Pattern

/-! ## Sets -/

def badSet : String := "bad class -- [], [^] or ["

/-- A character of a set, perhaps behind a backslash, and what follows it. -/
def readSetChar : Text → Option (Char × Text)
  | [] => none
  | '\\' :: rest =>
    match readEscape? rest with
    | some found => some found
    | none =>
      match rest with
      | c :: rest => some (c, rest)
      | [] => none
  | c :: rest => some (c, rest)

/-- The name of a class between colons, and what follows it. -/
def className? (text : Text) : Option ((Char → Bool) × Text) :=
  match text with
  | '[' :: ':' :: rest =>
    let name := rest.takeWhile Char.isAlpha
    match rest.drop name.length with
    | ':' :: ']' :: behind => (charClass? (String.ofList name)).map (·, behind)
    | _ => none
  | _ => none

/-- The parts of a set up to its end. A bracket at the start stands for itself. -/
def readSet : (fuel : Nat) → (isFirst : Bool) → Text → Except String (List CharRange × Text)
  | 0, _, _ => .error badSet
  | fuel + 1, isFirst, text =>
    match text with
    | [] => .error badSet
    | c :: behind =>
      if c = ']' ∧ !isFirst then .ok ([], behind)
      else
        match className? text with
        | some (test, rest) => do
          let (more, rest) ← readSet fuel false rest
          .ok (.named test :: more, rest)
        | none =>
          match readSetChar text with
          | none => .error badSet
          | some (first, rest) =>
            let range? : Option (Char × Text) := match rest with
              | '-' :: ']' :: _ => none
              | '-' :: rest => readSetChar rest
              | _ => none
            match range? with
            | some (last, rest) => do
              let (more, rest) ← readSet fuel false rest
              .ok (.span first last :: more, rest)
            | none => do
              let (more, rest) ← readSet fuel false rest
              .ok (.span first first :: more, rest)

/-! ## Expressions -/

def missingOperand : String := "missing operand"

def readRepeats : (fuel : Nat) → Regex → Text → Regex × Text
  | 0, r, text => (r, text)
  | fuel + 1, r, text =>
    match text with
    | '*' :: rest => readRepeats fuel (.repeat r 0 none) rest
    | '+' :: rest => readRepeats fuel (.repeat r 1 none) rest
    | '?' :: rest => readRepeats fuel (.repeat r 0 (some 1)) rest
    | _ => (r, text)

mutual

/-- Alternatives up to the end of the text or of the group. -/
def readAlternatives : (fuel depth : Nat) → Text → Except String (Regex × Text)
  | 0, _, _ => .error missingOperand
  | fuel + 1, depth, text => do
    let (first, rest) ← readBranch fuel depth text
    match rest with
    | '|' :: rest => do
      let (second, rest) ← readAlternatives fuel depth rest
      .ok (.either first second, rest)
    | _ => .ok (first, rest)

/-- One expression after the other; there has to be one. -/
def readBranch : (fuel depth : Nat) → Text → Except String (Regex × Text)
  | 0, _, _ => .error missingOperand
  | fuel + 1, depth, text => do
    let (one, rest) ← readOne fuel depth text
    let (one, rest) := readRepeats (rest.length + 1) one rest
    match rest with
    | [] => .ok (one, [])
    | c :: _ =>
      if c = '|' ∨ (c = ')' ∧ 0 < depth) then .ok (one, rest)
      else do
        let (more, rest) ← readBranch fuel depth rest
        .ok (.seq one more, rest)

def readOne : (fuel depth : Nat) → Text → Except String (Regex × Text)
  | 0, _, _ => .error missingOperand
  | fuel + 1, depth, text =>
    match text with
    | [] => .error (if depth = 0 then missingOperand else "missing ')'")
    | '(' :: rest => do
      let (body, rest) ← readAlternatives fuel (depth + 1) rest
      match rest with
      | ')' :: rest => .ok (body, rest)
      | _ => .error "missing ')'"
    | '.' :: rest => .ok (.any, rest)
    | '^' :: rest => .ok (.anchor .start, rest)
    | '$' :: rest => .ok (.anchor .stop, rest)
    | '[' :: '^' :: rest => do
      let (ranges, rest) ← readSet (rest.length + 1) true rest
      .ok (.set ranges true, rest)
    | '[' :: rest => do
      let (ranges, rest) ← readSet (rest.length + 1) true rest
      .ok (.set ranges false, rest)
    | '\\' :: rest =>
      match readEscape? rest with
      | some (c, rest) => .ok (.char c, rest)
      | none =>
        match rest with
        | c :: rest => .ok (.char c, rest)
        | [] => .ok (.char '\\', [])
    | c :: rest =>
      if c = '*' ∨ c = '+' ∨ c = '?' ∨ c = '|' ∨ (c = ')' ∧ 0 < depth) then .error missingOperand
      else .ok (.char c, rest)

end

/-- The expression that a text writes; the empty one fits everywhere. -/
def read (source : Text) : Except String Pattern :=
  if source.isEmpty then .ok { source, regex := .empty }
  else do
    let (regex, _) ← readAlternatives (4 * source.length + 8) 0 source
    .ok { source, regex }

/-- An expression for just one text. -/
def exactly (text : Text) : Pattern :=
  { source := text, regex := text.foldr (fun c r => .seq (.char c) r) .empty }

/-- The first and longest piece of a text from a place on that an expression fits. -/
def findFrom (p : Pattern) (text : Array Char) : (fuel : Nat) → (i : Nat) → Option (Nat × Nat)
  | 0, _ => none
  | fuel + 1, i =>
    if text.size < i then none
    else
      match (p.regex.ends {} text i).getLast? with
      | some stop => some (i, stop)
      | none => findFrom p text fuel (i + 1)

def find? (p : Pattern) (text : Array Char) (i : Nat := 0) : Option (Nat × Nat) :=
  p.findFrom text (text.size + 2 - i) i

end Pattern

end Slipway.Records
