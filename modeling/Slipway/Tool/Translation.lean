import Slipway.Tool.Lines

/-!
# Replacing characters

The program `tr` replaces, removes and squeezes characters. Its sets are written with ranges,
classes and repetitions.
-/

namespace Slipway.Tool

open Shell

namespace CharSet

/-- A part of a set. -/
inductive Item
  | chars (chars : Text)
  | named (name : String) (chars : Text)
  /-- A character so many times, or as often as needed for 0. -/
  | repeated (c : Char) (count : Nat)

/-- A character of a set with backslashes resolved, and whether it was written with one. -/
abbrev Letter := Char × Bool

/-- The characters behind a backslash that stand for something. -/
def escaped (c : Char) : Char :=
  match c with
  | 'a' => '\x07'
  | 'b' => '\x08'
  | 'f' => '\x0c'
  | 'n' => '\n'
  | 'r' => '\r'
  | 't' => '\t'
  | 'v' => '\x0b'
  | c => c

/-- The characters of a set, with the escapes replaced. -/
def lettersOf : (fuel : Nat) → Text → List Letter
  | 0, _ => []
  | fuel + 1, text =>
    match text with
    | [] => []
    | ['\\'] => [('\\', false)]
    | '\\' :: c :: rest =>
      let digits := ((c :: rest).take 3).takeWhile isOctalDigit
      if digits.isEmpty then (escaped c, true) :: lettersOf fuel rest
      else
        let digits := if valueOfDigits 8 digits < 256 then digits else digits.take 2
        (Char.ofNat (valueOfDigits 8 digits), true)
          :: lettersOf fuel ((c :: rest).drop digits.length)
    | c :: rest => (c, false) :: lettersOf fuel rest

/-- What stands up to a closing pair of characters, and what is behind it. -/
def upTo (mark : Char) : List Letter → Option (Text × List Letter)
  | (c, false) :: (']', false) :: rest =>
    if c = mark then some ([], rest)
    else (upTo mark ((']', false) :: rest)).map (fun (text, rest) => (c :: text, rest))
  | (c, _) :: rest => (upTo mark rest).map (fun (text, rest) => (c :: text, rest))
  | [] => none

def allChars : Text := (List.range 256).map Char.ofNat

/-- The item that stands behind an opening bracket, if one does. -/
def readBracket (letters : List Letter) : Except String (Option (Item × List Letter)) :=
  match letters with
  | (':', false) :: rest =>
    match upTo ':' rest with
    | some (name, rest) =>
      match charClass? (String.ofList name) with
      | some p => .ok (some (.named (String.ofList name) (allChars.filter p), rest))
      | none => .error ("invalid character class " ++ emphasized name)
    | none => .ok none
  | ('=', false) :: rest =>
    match upTo '=' rest with
    | some ([c], rest) => .ok (some (.chars [c], rest))
    | some (name, _) =>
      if name.isEmpty then .error "missing equivalence class character '[==]'"
      else .error (String.ofList name ++ ": equivalence class operand must be a single character")
    | none => .ok none
  | (c, _) :: ('*', false) :: rest =>
    let digits := (rest.map (·.1)).takeWhile isDigitChar
    match rest.drop digits.length with
    | (']', false) :: rest =>
      let base := if digits.head? = some '0' then 8 else 10
      .ok (some (.repeated c (valueOfDigits base digits), rest))
    | _ => .ok none
  | _ => .ok none

/-- The parts of a set. -/
def itemsOf : (fuel : Nat) → List Letter → Except String (List Item)
  | 0, _ => .ok []
  | fuel + 1, letters =>
    match letters with
    | [] => .ok []
    | (c, e) :: rest => do
      let bracket ← if c = '[' ∧ !e then readBracket rest else .ok none
      match bracket, rest with
      | some (item, rest), _ => return item :: (← itemsOf fuel rest)
      | none, ('-', false) :: (d, _) :: rest =>
        if d < c then
          .error ("range-endpoints of '" ++ String.ofList [c, '-', d]
            ++ "' are in reverse collating sequence order")
        else
          let chars := (List.range (d.toNat - c.toNat + 1)).map (fun i => Char.ofNat (c.toNat + i))
          return .chars chars :: (← itemsOf fuel rest)
      | none, rest => return .chars [c] :: (← itemsOf fuel rest)

def read (text : Text) : Except String (List Item) :=
  itemsOf (text.length + 1) (lettersOf (text.length + 1) text)

/-- All characters in their order; where one is repeated as needed, it fills up to `size`. -/
def expand (size : Nat) (items : List Item) : Text :=
  let fixed := (items.map fun item => match item with
    | .chars chars => chars.length
    | .named _ chars => chars.length
    | .repeated _ n => n).foldl (· + ·) 0
  items.flatMap fun item => match item with
    | .chars chars => chars
    | .named _ chars => chars
    | .repeated c 0 => List.replicate (size - fixed) c
    | .repeated c n => List.replicate n c

/-- Whether classes in the second set are of a kind that cannot be translated to. -/
def misaligned (first second : List Item) : Bool :=
  let isCase := fun (item : Item) => match item with
    | .named "lower" _ => true
    | .named "upper" _ => true
    | _ => false
  (second.any isCase) && !(first.any isCase)

end CharSet

/-- Keeps one of equal characters in a row, of those in a set. -/
def squeeze (squeezes : Char → Bool) : (before : Option Char) → Text → Text
  | _, [] => []
  | before, c :: rest =>
    if before = some c ∧ squeezes c then squeeze squeezes before rest
    else c :: squeeze squeezes (some c) rest

/-- The character that another one is replaced by. -/
def translated (source target : Text) (c : Char) : Char :=
  match source.findIdx? (· = c) with
  | none => c
  | some _ =>
    let index := source.length - 1 - (source.reverse.findIdx (· = c))
    (target[index]?).getD (target.getLastD c)

/-- What is said with a message about the operands of `tr`. -/
def refuseSets (text detail : String) : Eval Nat := do
  say text
  complain (detail ++ "\n")
  recommendHelp
  pure 1

def tr (args : List Text) : Eval Nat :=
  withArguments [flag 'c' "complement", flag 'C', flag 'd' "delete", flag 's' "squeeze-repeats",
      flag 't' "truncate-set1"] args (fun a => do
    let deletes := a.has "delete"
    let squeezes := a.has "squeeze-repeats"
    let isComplement := a.has "complement" || a.has "C"
    let least := if deletes = squeezes then 2 else 1
    let most := if deletes ∧ !squeezes then 1 else 2
    match a.operands with
    | [] => missingOperand
    | [only] =>
      if least = 2 then
        refuseSets ("missing operand after " ++ emphasized only) (if deletes then
            "Two strings must be given when both deleting and squeezing repeats."
          else "Two strings must be given when translating.")
      else run deletes squeezes isComplement a.operands
    | first :: second :: more =>
      match (first :: second :: more)[most]? with
      | some extra =>
        if most = 1 ∧ more.isEmpty then
          refuseSets ("extra operand " ++ emphasized extra)
            "Only one string may be given when deleting without squeezing repeats."
        else extraOperand extra
      | none => run deletes squeezes isComplement a.operands (a.has "truncate-set1")) false
where
  run (deletes squeezes isComplement : Bool) (sets : List Text) (truncates : Bool := false) :
      Eval Nat := do
    match sets.mapM CharSet.read with
    | .error text => do
      say text
      pure 1
    | .ok items =>
      let first := CharSet.expand 0 (items.headD [])
      let first := if isComplement then CharSet.allChars.filter (fun c => !first.contains c) else first
      let second := CharSet.expand first.length (items.getD 1 [])
      let translates := !deletes ∧ sets.length = 2
      if translates ∧ second.isEmpty ∧ !truncates ∧ !first.isEmpty then
        say "when not truncating set1, string2 must be non-empty"
        return 1
      if translates ∧ !isComplement ∧ CharSet.misaligned (items.headD []) (items.getD 1 []) then
        say "misaligned [:upper:] and/or [:lower:] construct"
        return 1
      let first := if truncates ∧ translates then first.take second.length else first
      match (← get).channel? 0 with
      | none => do
        say ("read error: " ++ errorText badDescriptor)
        pure 1
      | some id =>
        match ← readAll id with
        | .error e => do
          say ("read error: " ++ errorText e)
          pure 1
        | .ok bytes => do
          let text := Text.ofBytes bytes
          let table := CharSet.allChars.map (fun c =>
            if translates then translated first second c else c)
          let text := if deletes then text.filter (fun c => !first.contains c)
            else text.map (fun c => table.getD c.toNat c)
          let squeezed := if sets.length = 2 then second else first
          print (if squeezes then squeeze (squeezed.contains ·) none text else text)
          pure 0

end Slipway.Tool
