import Slipway.Calendar.Format
import Slipway.Records.Streams

/-!
# Running programs over records

Expressions and statements are carried out to some depth; loops go on for as long as there are
rounds. Every part of a program works on the store and on the process that it runs in.
-/

namespace Slipway.Records

open Shell (Text Eval errorText)

/-! ## Places for values -/

/-- The key of an element. -/
inductive Key
  | number (n : Int)
  | text (t : Text)

def Key.shown : Key → Text
  | number n => (toString n).toList
  | text t => t

/-- Where a value is put, with everything about the place worked out. -/
inductive Target
  | slot (place : Slot)
  | element (table : Nat) (key : Key)
  | field (n : Nat)

def tableOf (place : Slot) : Run Nat := do
  match place with
  | .shared i => pure i
  | .own i => do
    let s ← get
    match s.frame[i]? with
    | some (.table id) => pure id
    | _ => do
      let id := s.nextTable
      set { s with nextTable := id + 1, frame := s.frame.setIfInBounds i (.table id) }
      pure id

/-- Looks for a key, which is added if it is not there. -/
def touch (id : Nat) (key : Key) : Run Unit :=
  modify fun s =>
    let t := s.table id
    s.setTable id (match key with
      | .number n => t.touchNumber n
      | .text text => t.touchText text)

/-- The key that values make up. -/
def keyOf (s : Store) (values : List Value) : Key :=
  match values with
  | [.number x] =>
    if x == x.floor ∧ x.abs < 2147483648.0 then .number (wholePart x) else .text (s.textOf (.number x))
  | [v] => .text (s.textOf v)
  | values => .text (List.intercalate (s.slotText slotSubsep) (values.map s.textOf))

def readSlot (place : Slot) : Run Value := do
  match place with
  | .shared i => do
    if i = slotNF then splitRecord
    return (← get).value i
  | .own i =>
    match (← get).frame[i]? with
    | some (.value v) => pure v
    | _ => pure .unset

def readField (n : Nat) : Run Value := do
  if n = 0 then return .input (← wholeRecord)
  else
    splitRecord
    return (← get).fields.getD (n - 1) .unset

def readTarget (t : Target) : Run Value := do
  match t with
  | .slot place => readSlot place
  | .element id key => do
    touch id key
    return ((← get).table id).get key.shown
  | .field n => readField n

/-- More fields than a record can have. -/
def maxFields : Nat := 1000000

def writeTarget (t : Target) (v : Value) : Run Unit := do
  match t with
  | .slot (.own i) => modify (fun s => { s with frame := s.frame.setIfInBounds i (.value v) })
  | .slot (.shared i) =>
    if i = slotNF then
      splitRecord
      let n := wholePart v.toNumber
      if n < 0 then stopWith "negative value assigned to NF"
      modify (fun s => (s.setCount (min n.toNat maxFields)).setValue slotNF v)
    else modify (fun s => s.setValue i v)
  | .element id key => do
    touch id key
    modify (fun s => s.setTable id ((s.table id).set key.shown v))
  | .field n =>
    if n = 0 then modify (fun s => s.setRecord (s.textOf v))
    else
      splitRecord
      if maxFields < n then stopWith ("maximum number of fields " ++ toString maxFields ++ " exceeded")
      modify fun s =>
        let s := if s.fields.size < n then s.setCount n else s
        { s with fields := s.fields.setIfInBounds (n - 1) v, isJoined := false }

/-! ## Loops -/

/-- Carries out a body and tells how it was left. -/
def attempt (body : Run Unit) : Run (Option Jump) := do
  let result ← (ExceptT.lift body.run : Run (Except Jump Unit))
  match result with
  | .ok () => pure none
  | .error jump => pure (some jump)

/-- One round of a loop; it is over when the body was left. -/
def runRound (body : Run Unit) : Run Bool := do
  match ← attempt body with
  | none => pure true
  | some .again => pure true
  | some .leave => pure false
  | some jump => throw jump

def repeatWhile (test : Run Bool) (body after : Run Unit) : (rounds : Nat) → Run Unit
  | 0 => pure ()
  | rounds + 1 => do
    if ← test then
      if ← runRound body then
        after
        repeatWhile test body after rounds

def repeatEach (body : Text → Run Unit) : List Text → Run Unit
  | [] => pure ()
  | key :: rest => do
    if ← runRound (body key) then repeatEach body rest

def maxRounds : Nat := 1000000000

/-! ## Functions of the language -/

/-- The part of a text from a place on, with a length. -/
def partOf (text : Text) (begin_ : Float) (length : Option Float) : Text :=
  let start := wholePart begin_
  match length with
  | none => text.drop (start - 1).toNat
  | some n =>
    let n := wholePart (if n < 1000000000.0 then n else 1000000000.0)
    let count := if start < 1 then n + (start - 1) else n
    (text.drop (start - 1).toNat).take count.toNat

/-- Where a text first stands in another one, counted from 1. -/
def placeOf (piece : Text) : (text : Text) → (i : Nat) → Nat
  | [], i => if piece.isEmpty then i else 0
  | c :: rest, i => if piece.isPrefixOf (c :: rest) then i else placeOf piece rest (i + 1)

/-- A replacement with the found text in place of its signs. -/
def fillIn (found : Text) : Text → Text
  | [] => []
  | '\\' :: '&' :: rest => '&' :: fillIn found rest
  | '\\' :: '\\' :: rest => '\\' :: fillIn found rest
  | '&' :: rest => found ++ fillIn found rest
  | c :: rest => c :: fillIn found rest

/-- Replaces what an expression fits, everywhere or once: the pieces of the new text and how often
something was replaced. Nothing empty is found right behind something. -/
def replaceIn (p : Pattern) (by_ : Text) (everywhere : Bool) (text : Array Char) :
    (fuel : Nat) → (i : Nat) → (afterMatch : Bool) → List Text × Nat
  | 0, i, _ => ([(text.extract i text.size).toList], 0)
  | fuel + 1, i, afterMatch =>
    match p.find? text i with
    | none => ([(text.extract i text.size).toList], 0)
    | some (first, last) =>
      let before := (text.extract i first).toList
      if first = last ∧ first = i ∧ afterMatch then
        match text[i]? with
        | none => ([], 0)
        | some c =>
          let (pieces, n) := replaceIn p by_ everywhere text fuel (i + 1) false
          ([c] :: pieces, n)
      else
        let piece := fillIn (text.extract first last).toList by_
        if !everywhere then ([before, piece, (text.extract last text.size).toList], 1)
        else if first = last then
          match text[last]? with
          | none => ([before, piece], 1)
          | some c =>
            let (pieces, n) := replaceIn p by_ everywhere text fuel (last + 1) false
            (before :: piece :: [c] :: pieces, n + 1)
        else
          let (pieces, n) := replaceIn p by_ everywhere text fuel last true
          (before :: piece :: pieces, n + 1)

/-- The next number of a sequence without a visible order. -/
def nextSeed (seed : Nat) : Nat := (seed * 6364136223846793005 + 1442695040888963407) % 18446744073709551616

def boolValue (b : Bool) : Value := .number (if b then 1 else 0)

def patternOf (v : Value) : Run Pattern := do
  let text := (← get).textOf v
  match Pattern.read text with
  | .ok p => pure p
  | .error e => stopWith ("regular expression compile failed (" ++ e ++ ")\n" ++ Text.toString text)

/-- A filled format; what is wrong with it stops the program. -/
def fillFormat (name : String) (write : Text → Run Unit) (values : List Value) : Run Unit := do
  let s ← get
  let format := s.textOf (values.headD .unset)
  let fuel := format.length + s.conversion.length + 8
  let (text, problem) := formatted s.conversion format fuel 1 (values.drop 1)
  write text
  let shown := name ++ "(\"" ++ Text.toString format ++ "\")"
  match problem with
  | none => pure ()
  | some .tooFew => stopWith ("not enough arguments passed to " ++ shown)
  | some (.conversion n) => stopWith ("improper conversion(number " ++ toString n ++ ") in " ++ shown)

/-- A moment of a date and a time in six numbers. -/
def momentOf (text : Text) : Option Int :=
  match (Store.words text).map (fun word => wholePart (leadingNumber word)) with
  | year :: month :: day :: hour :: minute :: second :: _ =>
    let months := year * 12 + (month - 1)
    let days := Date.toDays ⟨months.fdiv 12, (months.fmod 12).toNat + 1, 1⟩ + (day - 1)
    some (days * 86400 + hour * 3600 + minute * 60 + second)
  | _ => none

end Slipway.Records
