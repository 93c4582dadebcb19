import Slipway.Console.ValuePattern
import Slipway.Invocation
import Slipway.Program
import Slipway.Text.Basic

/-!
# The log

Which events are shown, and how. A filter is a list of rules such as `warn,fxrelease=debug`. A rule
is for the parts of the program whose names begin with its target, and for the events that have
certain values; the most specific rule for an event decides.
-/

namespace Slipway

/-! ## Levels -/

/-- Events of at least the given gravity are shown; none at all without a level. -/
abbrev Threshold := Option Level

namespace Threshold

def shows (t : Threshold) (level : Level) : Bool :=
  match t with
  | none => false
  | some least => level.rank ≤ least.rank

def ofNumber? : Nat → Option Threshold
  | 0 => some none
  | 1 => some (some .error)
  | 2 => some (some .warn)
  | 3 => some (some .info)
  | 4 => some (some .debug)
  | 5 => some (some .trace)
  | _ => none

def ofName? : String → Option Threshold
  | "off" => some none
  | "error" => some (some .error)
  | "warn" => some (some .warn)
  | "info" => some (some .info)
  | "debug" => some (some .debug)
  | "trace" => some (some .trace)
  | _ => none

/-- A name in any case, or a number. -/
def ofText? (text : String) : Option Threshold :=
  match readWord? 10 text with
  | some n => ofNumber? n
  | none => ofName? text.toLower

end Threshold

/-! ## Rules -/

/-- A value that an event has to have. What it has to be like does not matter, since rules that ask
for that are for no event. -/
structure FieldRule where
  name : String
  hasValue : Bool

structure LogRule where
  threshold : Threshold := some .trace
  target : Option String := none
  /-- A part of the run that the event has to belong to. No event belongs to one. -/
  span : Option String := none
  /-- The latest first. -/
  fields : List FieldRule := []

namespace LogRule

/-- Whether the rule can be for an event. -/
def isForEvents (r : LogRule) : Bool := r.span.isNone && !r.fields.any (·.hasValue)

def fieldNames (r : LogRule) : List String := r.fields.reverse.map (·.name)

/-- Every event has a message beside its named values. -/
def isFor (r : LogRule) (e : Event) : Bool :=
  (match r.target with
    | some target => target.toList.isPrefixOf e.source.toList
    | none => true)
  && r.fieldNames.all (fun name => name = "message" || (e.fields.map (·.1)).contains name)

end LogRule

/-! ## Reading rules -/

/-- Where in a rule the reading is. The number tells where the open part of the text began. -/
inductive RulePlace
  | start
  | levelOrTarget (began : Nat)
  | span (began : Nat)
  | field (began : Nat)
  | behindFields
  | behindSpan
  | level (began : Nat)

structure RuleReading where
  place : RulePlace := .start
  rule : LogRule := {}

namespace RuleReading

def part (text : Bytes) (first last : Nat) : String :=
  Utf8.decodeLossy ((text.drop first).take (last - first))

/-- A name, and a value behind an equals sign. An empty name is none. What stands behind a second
sign is not looked at. -/
def fieldOf? (text : String) : Option FieldRule :=
  if text.isEmpty then none
  else
    let name := text.toList.takeWhile (· ≠ '=')
    let hasValue := name.length < text.length
    let value := (text.toList.drop (name.length + 1)).takeWhile (· ≠ '=')
    if hasValue ∧ !isValuePattern (String.ofList value) then none
    else some ⟨String.ofList name, hasValue⟩

/-- A target begins with a letter, a digit, `-`, `:` or `_`. -/
def beginsTarget (c : Char) : Bool := isAlphanumeric c || c = '-' || c = ':' || c = '_'

/-- Takes the character at byte `i` of `text`. -/
def take (text : Bytes) (r : RuleReading) (i : Nat) (c : Char) : Option RuleReading :=
  match r.place, c with
  | .start, '[' => some { r with place := .span (i + 1) }
  | .start, _ => if beginsTarget c then some { r with place := .levelOrTarget i } else none
  | .levelOrTarget began, '=' =>
    some ⟨.level (i + 1), { r.rule with target := some (part text began i) }⟩
  | .levelOrTarget began, '[' =>
    some ⟨.span (i + 1), { r.rule with target := some (part text began i) }⟩
  | .levelOrTarget _, _ => some r
  | .behindSpan, '=' => some { r with place := .level (i + 1) }
  | .span began, ']' => some ⟨.behindSpan, { r.rule with span := some (part text began i) }⟩
  | .span began, '\x7b' =>
    let name := part text began i
    some ⟨.field (i + 1), { r.rule with span := if name.isEmpty then none else some name }⟩
  | .span _, _ => some r
  | .field began, '\x7d' => do
    let field ← fieldOf? (part text began i)
    pure ⟨.behindFields, { r.rule with fields := field :: r.rule.fields }⟩
  | .field _, _ => some r
  | .behindFields, ']' => some { r with place := .behindSpan }
  | .level _, _ => some r
  | _, _ => none

/-- Takes all characters; the first of them is at byte `i`. -/
def takeAll (text : Bytes) : (i : Nat) → RuleReading → List Char → Option RuleReading
  | _, r, [] => some r
  | i, r, c :: rest => (r.take text i c).bind (fun r => takeAll text (i + c.utf8Size) r rest)

/-- The rule at the end of the text. A target without a level has everything shown. -/
def finish (text : Bytes) (r : RuleReading) : Option LogRule :=
  match r.place with
  | .levelOrTarget began =>
    let name := part text began text.length
    match Threshold.ofText? name with
    | some threshold => some { r.rule with threshold }
    | none => some { r.rule with target := some name }
  | .level began =>
    let name := part text began text.length
    if name.isEmpty then some r.rule
    else (Threshold.ofText? name).map (fun threshold => { r.rule with threshold })
  | .behindSpan => some r.rule
  | _ => none

end RuleReading

/-- A rule is a level, a target, or a target with a level, and may ask for values in brackets.
Blanks at the ends are not looked at, but places are still counted from the first character that
is: behind blanks a part of the text is taken that far too early. -/
def LogRule.ofText? (text : String) : Option LogRule :=
  let bytes := Utf8.encode text
  (RuleReading.takeAll bytes 0 {} (trimBlanks text).toList).bind (·.finish bytes)

/-! ## Filters -/

abbrev LogFilter := List LogRule

namespace LogFilter

/-- Rules are separated by commas. Without any, errors alone are shown. -/
def ofText? (text : String) : Option LogFilter :=
  match (parts text.toList []).filter (!·.isEmpty) with
  | [] => some [{ threshold := some .error }]
  | rules => rules.mapM LogRule.ofText?
where
  parts : List Char → (part : List Char) → List String
    | [], part => [String.ofList part.reverse]
    | c :: rest, part =>
      if c = ',' then String.ofList part.reverse :: parts rest [] else parts rest (c :: part)

/-- Whether a rule is less specific than another: it has a shorter target or none, asks for fewer
values, or comes first in the order of texts. -/
def isBelow (a b : LogRule) : Bool :=
  let size (r : LogRule) : Nat := (r.target.map (fun t => t.utf8ByteSize + 1)).getD 0
  let names (r : LogRule) : List (List Char) := r.fieldNames.map String.toList
  if size a ≠ size b then size a < size b
  else if a.fields.length ≠ b.fields.length then a.fields.length < b.fields.length
  else if a.target ≠ b.target then (a.target.getD "").toList < (b.target.getD "").toList
  else names a < names b

/-- The most specific rule for an event; of two that are equally specific the later one. -/
def ruleFor? (filter : LogFilter) (e : Event) : Option LogRule :=
  (filter.filter (fun r => r.isForEvents && r.isFor e)).foldl closer none
where
  closer (best : Option LogRule) (rule : LogRule) : Option LogRule :=
    match best with
    | some other => if isBelow rule other then some other else some rule
    | none => some rule

def shows (filter : LogFilter) (e : Event) : Bool :=
  match filter.ruleFor? e with
  | some rule => rule.threshold.shows e.level
  | none => false

/-- A verbose run shows everything but traces. Otherwise `RUST_LOG` holds the filter, and
information and graver events are shown without a usable one. -/
def choose (env : Environment) (verbose : Bool) : LogFilter :=
  let usual : LogFilter := [{ threshold := some .info }]
  if verbose then [{ threshold := some .debug }]
  else
    match env.get? "RUST_LOG" with
    | none => usual
    | some text => (ofText? text).getD usual

end LogFilter

/-! ## Lines -/

/-- The line of an event; the level stands to the right of a field of five characters. -/
def Event.line (e : Event) : String :=
  let level := e.level.name
  String.ofList (List.replicate (5 - level.length) ' ') ++ level ++ " " ++ e.source ++ ": "
    ++ e.message ++ String.join (e.fields.map (fun (name, value) => " " ++ name ++ "=" ++ value))

/-- The same program with the events that are shown as lines about problems, and no others. -/
def Program.logged {α : Type} (filter : LogFilter) : Program α → Program α
  | .done a => .done a
  | .ask (.note event) next =>
    if filter.shows event then
      .ask (.complain event.line) (fun _ => (next ()).logged filter)
    else (next ()).logged filter
  | .ask action next => .ask action (fun reply => (next reply).logged filter)

end Slipway
