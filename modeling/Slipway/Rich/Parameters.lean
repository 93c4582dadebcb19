import Slipway.Rich.Arithmetic
import Slipway.Rich.Escapes
import Slipway.Rich.Fields
import Slipway.Text.Characters

/-!
# What variables are given and what is made of their values

Giving variables and elements of lists values, as what the variable is asks for it: a number, or a
text in capital or small letters. Replacing, cutting and changing the values of parameters, one
value at a time.
-/

namespace Slipway.Rich

open Shell (Text Eval)

/-! ## Assignments -/

def recaseChar (kind : Recasing) (c : Char) : Char :=
  match kind with
  | .upper => capitalLetter c
  | .lower => smallLetter c
  | .swapped => if smallLetter c = c then capitalLetter c else smallLetter c

/-- The text that a variable keeps of one that it is given. -/
def keptText (v : Variable) (value : Text) : Text :=
  match v.recasing with
  | none => value
  | some kind =>
    match Characters.decode value with
    | [] => []
    | c :: rest =>
      if v.capital then Characters.encode (capitalLetter c :: rest.map smallLetter)
      else Characters.encode ((c :: rest).map (recaseChar kind))

/-- The value that a variable of some kind takes from a text, behind one that it has. -/
def convert (v : Variable) (old : Option Text) (value : Text) : Eval Text := do
  if v.integer then
    let n ← Arithmetic.evaluate value
    match old with
    | some old => return Shell.textOfInt (Shell.wrapped (n + (← Arithmetic.evaluate old)))
    | none => pure (Shell.textOfInt n)
  else pure (keptText v (old.getD [] ++ value))

def Arithmetic.Slot.name : Slot → Text
  | .whole name => name
  | .at name _ => name
  | .key name _ => name

/-- Gives a place a value. -/
def assignSlot (slot : Arithmetic.Slot) (value : Text) (appends : Bool := false) : Eval Unit := do
  let c ← context
  let v := (c.find? slot.name).getD {}
  if v.readonly then refuseReadOnly slot.name
  let old ← if appends then do pure (some ((← Arithmetic.slotText slot).getD [])) else pure none
  let value ← convert v old value
  Arithmetic.setSlot slot value

/-- Gives a variable a value, or an element of it. -/
def assign (name : Text) (subscript : Option Text) (value : Text) (appends : Bool := false) :
    Eval Unit := do
  assignSlot (← Arithmetic.slot name subscript) value appends

/-- Gives something a value that a text names. -/
def assignNamed (reference value : Text) (appends : Bool := false) : Eval Unit := do
  let (name, subscript) := splitReference reference
  if !Shell.isName name then
    refuse ("\x60" ++ Text.toString reference ++ "': not a valid identifier")
  assign name subscript value appends

/-- Gives a variable a whole list. -/
def assignList (name : Text) (content : Content) : Eval Unit :=
  update name (fun v => { v with content, pending := false })

end Slipway.Rich

namespace Slipway.Rich

open Shell (Text Letter Letters)

/-- The characters of a text, on which counts and patterns work. -/
def charactersOf (text : Text) : List Char := Characters.decode text

def textOfCharacters (characters : List Char) : Text := Characters.encode characters

/-! ## Case -/

/-- Changes the case of the characters that fit, or of the first one only. -/
def recased (kind : Recasing) (all : Bool) (fits : Char → Bool) (text : Text) : Text :=
  let change (c : Char) : Char :=
    if fits c then recaseChar kind c else c
  match charactersOf text with
  | [] => []
  | c :: rest => textOfCharacters (change c :: (if all then rest.map change else rest))

/-! ## Replacing -/

/-- The text that a match is replaced by. Where `&` stands for the match, a backslash takes that
meaning away. -/
def replacementText (isActive : Bool) (found : List Char) : Letters → List Char
  | [] => []
  | [l] => if isActive ∧ l.isActive '&' then found else [l.char]
  | l :: next :: rest =>
    if isActive ∧ l.isActive '&' then found ++ replacementText isActive found (next :: rest)
    else if isActive ∧ l.isActive '\\' ∧ (next.char = '&' ∨ next.char = '\\') then
      next.char :: replacementText isActive found rest
    else l.char :: replacementText isActive found (next :: rest)

/-- Replaces the longest matches from the left on. -/
def replaceMatches (find : List Char → Option Nat) (replacement : List Char → List Char)
    (all : Bool) : (fuel : Nat) → List Char → List Char
  | 0, text => text
  | _, [] => []
  | fuel + 1, c :: rest =>
    match find (c :: rest) with
    | some (n + 1) =>
      let found := (c :: rest).take (n + 1)
      let behind := rest.drop n
      replacement found ++ (if all then replaceMatches find replacement all fuel behind else behind)
    | _ => c :: replaceMatches find replacement all fuel rest

/-- A text with the places replaced that fit a pattern. -/
def substituted (extent : Extent) (pattern : Pattern) (anyCase : Bool)
    (replacement : List Char → List Char) (text : Text) : Text :=
  let characters := charactersOf text
  let size := characters.length
  textOfCharacters (match extent with
    | .start =>
      match pattern.longest? characters anyCase with
      | some n => replacement (characters.take n) ++ characters.drop n
      | none => characters
    | .stop =>
      match (pattern.lengths true size).find? (fun n =>
          pattern.fits (characters.drop (size - n)) anyCase) with
      | some n => characters.take (size - n) ++ replacement (characters.drop (size - n))
      | none => characters
    | extent =>
      if pattern.isEmpty then characters
      else
        replaceMatches (fun text => pattern.longest? text anyCase) replacement (extent = .all)
          (size + 1) characters)

/-! ## Cutting -/

/-- Part of a list from an offset on, which counts from the end if it is negative, or why there is
none. A negative length stands for a place before the end. -/
def slice {α : Type} (items : List α) (offset : Int) (length : Option Int) :
    Except Int (List α) :=
  let size : Int := items.length
  let start := if offset < 0 then size + offset else offset
  if start < 0 ∨ size < start then .ok []
  else
    match length with
    | none => .ok (items.drop start.toNat)
    | some n =>
      let stop := if n < 0 then size + n else start + n
      if stop < start then .error n
      else .ok ((items.drop start.toNat).take (stop - start).toNat)

/-! ## Declarations -/

def attributeLetters (v : Variable) : String :=
  let letter (test : Bool) (c : String) : String := if test then c else ""
  letter (match v.content with
      | .indexed _ => true
      | _ => false) "a"
    ++ letter v.content.isKeyed "A" ++ letter v.integer "i" ++ letter v.reference "n"
    ++ letter v.readonly "r" ++ letter v.traced "t" ++ letter v.exported "x"
    ++ (match v.recasing with
      | some .lower => "l"
      | some .upper => if v.capital then "c" else "u"
      | _ => "")

/-- The key of an element as it is shown. -/
def shownKey (key : Text) : Text :=
  if hasHidden key then escapeQuoted key
  else if hasMeaning none key ∨ key.isEmpty ∨ key = ['@'] ∨ key = ['*'] then doubleQuoted key
  else key

/-- The elements of a list as they are written out. -/
def shownList (content : Content) : Text :=
  let items := content.entries.map fun (key, value) =>
    '[' :: (if content.isKeyed then shownKey key else key) ++ "]=".toList ++ quotedValue value
  let inner := List.intercalate [' '] items
  '(' :: (if content.isKeyed ∧ !items.isEmpty then inner ++ [' '] else inner) ++ [')']

/-- The declaration that makes a variable what it is. -/
def declaration (name : Text) (v : Variable) : Text :=
  let letters := attributeLetters v
  let start := "declare -".toList ++ (if letters.isEmpty then "-" else letters).toList ++ ' ' :: name
  match v.content with
  | .none => start
  | .text value => start ++ '=' :: quotedValue value
  | content => if v.pending then start else start ++ '=' :: shownList content

end Slipway.Rich
