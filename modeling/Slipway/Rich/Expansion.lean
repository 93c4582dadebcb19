import Slipway.Rich.Parameters

/-!
# Expansion of rich words

What becomes of the words of a command before it runs: parameters, the output of commands, sums and
tildes are replaced, the result is split into fields, and patterns of paths are filled in.
-/

namespace Slipway.Rich

open Shell (Text Eval Mode self modifySelf setStatus naturalText attempt newChannel drain
  Letter Letters)

/-! ## Values of parameters -/

/-- Which elements of a list are meant. -/
inductive Selector
  | none
  | all (star : Bool)
  | key (text : Text)

inductive Values
  | one (value : Option Text)
  /-- Several values, which are one text if there is a star and quotes. -/
  | many (star : Bool) (values : List Text)

/-- What a text means that stands in brackets behind a name. -/
def selectorOf (subscript : Option Text) : Selector :=
  match subscript with
  | none => .none
  | some ['@'] => .all false
  | some ['*'] => .all true
  | some text => .key text

/-- The letters for the options that are on. -/
def shownOptions : Eval Text := do
  let p ← self
  let letters := (optionLetters.filter (fun (_, option) => p.has option)).map (·.1)
  pure (letters ++ (if (← context).fromArgument then ['c'] else [])
    ++ (if p.has "stdin" then ['s'] else []))

/-- The values of a variable, or of elements of it. -/
def variableValues (name : Text) (selector : Selector) : Eval Values := do
  match selector with
  | .all star => do
    let (name, _) ← resolved name
    let content : Option Content := (← current? name).map (·.content)
    pure (.many star ((content.map Content.values).getD []))
  | .key key => return .one (← Arithmetic.slotText (← Arithmetic.slot name (some key)))
  | .none => return .one (← Arithmetic.slotText (← Arithmetic.slot name none))

def parameterValues (name : Text) (selector : Selector) : Eval Values := do
  let p ← self
  let plain (text : Text) : Eval Values := pure (.one (some text))
  match name with
  | ['#'] => plain (naturalText p.args.length)
  | ['?'] => plain (naturalText p.status)
  | ['$'] => plain (naturalText p.shell)
  | ['!'] => pure (.one (if p.lastJob = 0 then none else some (naturalText p.lastJob)))
  | ['-'] => do plain (← shownOptions)
  | ['@'] => pure (.many false p.args)
  | ['*'] => pure (.many true p.args)
  | d :: _ =>
    if d.isDigit then
      let n := Shell.valueOfDigits 10 name
      if n = 0 then plain p.name else pure (.one p.args[n - 1]?)
    else variableValues name selector
  | [] => pure (.one none)

/-- What stands between values that are one text. -/
def joiner : Eval Text := do
  match ← text? "IFS" with
  | none => pure [' ']
  | some separators => pure (separators.take 1)

def separators : Eval Text := return (← text? "IFS").getD " \t\n".toList

def lettersFor (mode : Mode) (text : Text) : List Atom :=
  text.map (fun c => .letter c mode.quoted (!mode.quoted))

/-- The atoms of values. Several values stay apart where fields are made of them. -/
def atomsOfValues (mode : Mode) (values : Values) : Eval (List Atom) := do
  match values with
  | .one value => pure (lettersFor mode (value.getD []))
  | .many star values =>
    if mode.full ∧ !(mode.quoted ∧ star) then
      let each := values.map fun value =>
        if mode.quoted then .mark :: lettersFor mode value else lettersFor mode value
      pure (List.intercalate [.cut] each)
    else
      let between ← if star then joiner else pure [' ']
      pure (lettersFor mode (List.intercalate between values))

/-- Whether there is a value; with a colon an empty one is none. -/
def isGiven (colon : Bool) (values : Values) : Bool :=
  match values with
  | .one none => false
  | .one (some value) => !(colon && value.isEmpty)
  | .many _ values => !values.isEmpty && !(colon && values.all List.isEmpty)

def mapValues (f : Text → Eval Text) (values : Values) : Eval Values := do
  match values with
  | .one none => pure (.one none)
  | .one (some value) => return .one (some (← f value))
  | .many star values => return .many star (← values.mapM f)

/-! ## Tildes -/

/-- The directory that a tilde with a name stands for. -/
def homeOf? (user : Text) : Eval (Option Text) := do
  match String.ofList user with
  | "" => do
    match ← text? "HOME" with
    | some home => pure (some home)
    | none => pure (some "/root".toList)
  | "+" => text? "PWD"
  | "-" => text? "OLDPWD"
  | "root" => pure (some "/root".toList)
  | _ => pure none

/-- Replaces a tilde at the start of a text. Behind the text the word may go on. -/
def expandTilde (inValue goesOn : Bool) (text : Text) : Eval (List Atom × Text) := do
  match text with
  | '~' :: rest =>
    let isEnd := fun (c : Char) => c = '/' || (inValue && c = ':')
    let user := rest.takeWhile (fun c => !isEnd c)
    let behind := rest.drop user.length
    if behind.isEmpty ∧ goesOn then pure ([], text)
    else
      match ← homeOf? user with
      | some home => pure (home.map (fun c => .letter c true false), behind)
      | none => pure ([], text)
  | _ => pure ([], text)

/-- Replaces the tildes of a value behind colons. -/
def expandColonTildes (goesOn : Bool) : (fuel : Nat) → Text → Eval (List Atom)
  | 0, _ => pure []
  | _, [] => pure []
  | fuel + 1, ':' :: rest => do
    let (home, rest) ← expandTilde true goesOn rest
    return .letter ':' false false :: home ++ (← expandColonTildes goesOn fuel rest)
  | fuel + 1, c :: rest => return .letter c false false :: (← expandColonTildes goesOn fuel rest)

/-- The atoms of the characters of a word. -/
def expandCharacters (mode : Mode) (isFirst goesOn : Bool) (text : Text) : Eval (List Atom) := do
  let (home, rest) ← if mode.tilde && isFirst then expandTilde mode.value goesOn text
    else pure ([], text)
  if mode.value ∧ rest.contains '~' then
    return home ++ (← expandColonTildes goesOn (rest.length + 1) rest)
  pure (home ++ rest.map (fun c => .letter c mode.quoted (mode.splits && !mode.quoted)))

/-! ## Processes beside the shell -/

/-- The highest descriptor that is free. -/
def freeDescriptor : (fuel : Nat) → (candidate : Nat) → Eval Nat
  | 0, candidate => pure candidate
  | fuel + 1, candidate => do
    if ((← self).descriptors.lookup candidate).isSome then freeDescriptor fuel (candidate - 1)
    else pure candidate

/-- The options of a copy of the shell whose output is used. -/
def forOutput (p : Shell.Process) (extras : List String) : Shell.Process :=
  if extras.contains "inherit_errexit" then p else p.setOption "errexit" false

section

variable (r : Shell.Runner)

/-- A word as one text. -/
def textOfParts (mode : Mode) (parts : List Part) : Eval Text := return textOf (← r.atoms mode parts)

def expandText (word : Word) : Eval Text := textOfParts r { tilde := true } word

/-- A value of a variable. -/
def expandValue (word : Word) : Eval Text := textOfParts r { tilde := true, value := true } word

def patternOfWord (word : Word) (hasGroups : Option Bool := none) : Eval Pattern := do
  let atoms ← r.atoms { tilde := true } word
  pure (patternOf (hasGroups.getD ((← context).has "extglob")) (lettersOf atoms))

/-! ## The output of commands -/

/-- Runs something in a copy of the shell, and gives what it wrote without the line ends behind
it. -/
def capture (body : Eval Unit) : Eval Text := do
  let id ← newChannel (.pipe [] [] none)
  let ending ← inCopy (do
    modifyContext (fun c => { c with isCaptured := true })
    let extras := (← context).extras
    modifySelf (fun p => (forOutput p extras).connect 1 (some id))
    r.toEnd body)
  modifySelf (fun p => { p with outputStatus := ending.status, status := ending.status })
  let bytes ← drain id
  if bytes.contains 0 then warn "warning: command substitution: ignored null byte in input"
  let text := Text.ofBytes (bytes.filter (· ≠ 0))
  pure (text.reverse.dropWhile (· = '\n')).reverse

/-- The file whose content a command stands for that only redirects its input. -/
def fileToRead? (body : Option Command) : Option Word :=
  match body with
  | some (.simple _ [] [] [.mk .usual .input _ word]) => some word
  | _ => none

/-- What a command writes. -/
def captureOutput (body : Option Command) : Eval Text := do
  match body, fileToRead? body with
  | none, _ => do
    modifySelf (fun p => { p with outputStatus := 0, status := 0 })
    pure []
  | some body, none => capture r (do
      modifyContext (fun c => { c with evaluations := c.evaluations + 1 })
      let _ ← r.runRich body { last := true })
  | some _, some word => capture r (do
      let name ← expandText r word
      match ← Shell.contentOf name with
      | .ok bytes => do
        let _ ← Shell.emit 1 bytes
        setStatus 0
      | .error e => fail (Text.toString name ++ ": " ++ Shell.errorText e))

/-- A file that leads from or to a command. The command that is read from runs at once; the one
that is written to runs when all is written. -/
def openChannel (reads : Bool) (body : Option Command) : Eval Text := do
  let id ← newChannel (.pipe [] [] none)
  if reads then
    if let some body := body then
      let _ ← inCopy (do
        modifySelf (·.connect 1 (some id))
        r.toEnd (do let _ ← r.runRich body { last := true }))
  else
    let descriptors := (← self).descriptors
    modifyContext (fun c => { c with readers := c.readers ++ [⟨id, body, descriptors⟩] })
  let descriptor ← freeDescriptor 50 63
  modifySelf (·.connect descriptor (some id))
  modifyContext (fun c => { c with partners := descriptor :: c.partners })
  pure ("/dev/fd/".toList ++ naturalText descriptor)

/-! ## Parameters -/

/-- The number that an expression in a parameter has. -/
def numberOfParts (parts : List Part) : Eval Int := do
  Arithmetic.evaluate (← textOfParts r { quoted := true } parts)

def sliceValues (name : Text) (selector : Selector) (values : Values) (offset : List Part)
    (length : Option (List Part)) : Eval Values := do
  let start ← numberOfParts r offset
  let count ← match length with
    | some parts => do pure (some (← numberOfParts r parts))
    | none => pure none
  let checked {α : Type} (result : Except Int (List α)) : Eval (List α) :=
    match result with
    | .ok items => pure items
    | .error n => fail (toString n ++ ": substring expression < 0")
  match values with
  | .one value => do
    let items ← checked (slice (charactersOf (value.getD [])) start count)
    pure (.one (value.map (fun _ => textOfCharacters items)))
  | .many star values => do
    if (count.getD 0) < 0 then
      let _ ← checked (α := Char) (.error (count.getD 0))
    let isList := match selector with
      | .all _ => true
      | _ => false
    if !isList then
      return .many star (← checked (slice ((← self).name :: values) start count))
    let (name, _) ← resolved name
    let content : Option Content := (← current? name).map (·.content)
    match content with
    | some (.indexed elements) =>
      let size : Int := ((elements.getLast?.map (fun e => e.1 + 1)).getD 0 : Nat)
      let first := if start < 0 then size + start else start
      let rest := if first < 0 then [] else elements.filter (fun e => first ≤ (e.1 : Int))
      let chosen := match count with
        | some n => rest.take n.toNat
        | none => rest
      pure (.many star (chosen.map (·.2)))
    | _ => return .many star (← checked (slice values start count))

/-- What `@` with a letter makes of a parameter. -/
def transformValues (kind : Char) (name : Text) (selector : Selector) (values : Values) :
    Eval Values := do
  let found := (← current? (← resolved name).1).getD {}
  let joined : Text := match values with
    | .one value => value.getD []
    | .many _ values => List.intercalate [' '] values
  match kind with
  | 'Q' => mapValues (fun value => pure (quotedAlways value)) values
  | 'E' => mapValues (fun value => pure (unescaped quoteEscapes value).1) values
  | 'U' => mapValues (fun value => pure (recased .upper true (fun _ => true) value)) values
  | 'u' => mapValues (fun value => pure (recased .upper false (fun _ => true) value)) values
  | 'L' => mapValues (fun value => pure (recased .lower true (fun _ => true) value)) values
  | 'a' =>
    let letters := (attributeLetters found).toList
    match values with
    | .many star values => pure (.many star (values.map (fun _ => letters)))
    | .one _ => pure (.one (if letters.isEmpty ∧ !isGiven false values then none else some letters))
  | 'A' =>
    match selector, values with
    | .all _, _ => pure (.one (some (declaration name found)))
    | _, .one none => pure (.one none)
    | _, .one (some value) =>
      let letters := attributeLetters found
      let start := if letters.isEmpty then name else "declare -".toList ++ letters.toList ++ ' ' :: name
      pure (.one (some (start ++ '=' :: quotedAlways value)))
    | _, .many _ values =>
      pure (.one (some ("set -- ".toList ++ List.intercalate [' '] (values.map quotedAlways))))
  | 'K' =>
    match selector with
    | .all _ =>
      let items := found.content.entries.flatMap (fun (key, value) =>
        [if found.content.isKeyed then shownKey key else key, quotedValue value])
      pure (.one (some (List.intercalate [' '] items)))
    | _ => mapValues (fun value => pure (quotedAlways value)) values
  | 'k' =>
    match selector with
    | .all star => pure (.many star (found.content.entries.flatMap (fun (key, value) => [key, value])))
    | _ => mapValues (fun value => pure (quotedAlways value)) values
  | _ => pure (.one (some joined))

/-- The names of the variables that begin with a text. -/
def namesWith (start : Text) : Eval (List Text) := do
  let c ← context
  let known := c.scopes.flatMap (fun scope => (scope.entries.filter (fun (e : Text × Variable) =>
    match e.2.content with
    | .none => false
    | _ => true)).map (·.1))
  let all := known ++ (ownVariables.map String.toList).filter (fun name => !known.contains name)
  pure ((all.eraseDups.filter (start.isPrefixOf ·)).mergeSort Shell.textLe)

/-- Ends the shell since a parameter has no value. -/
def unbound {α : Type} (source name : Text) (selector : Selector) : Eval α := do
  let shown := match selector with
    | .key key => name ++ '[' :: key ++ [']']
    | _ => if source.take 2 ≠ ['$', '\x7b'] ∧ (name.head?.map (fun c => !Shell.isNameStart c)).getD false
        then '$' :: name else name
  abandon (Text.toString shown ++ ": unbound variable")

/-- A parameter with its operation. -/
def expandParameter (mode : Mode) (source name : Text) (indirect : Bool)
    (subscript : Option Subscript) (operation : Operation) : Eval (List Atom) := do
  let selector ← match subscript with
    | none => pure Selector.none
    | some (.all star) => pure (.all star)
    | some (.one parts) => do pure (.key (← textOfParts r {} parts))
  let give (values : Values) : Eval (List Atom) := atomsOfValues mode values
  match operation with
  | .bad => fail (Text.toString source ++ ": bad substitution")
  | .names star => do give (.many star (← namesWith name))
  | .keys star => do
    let (name, _) ← resolved name
    let content : Option Content := (← current? name).map (·.content)
    give (.many star ((content.map (fun c => c.entries.map (·.1))).getD []))
  | operation =>
    let c ← context
    let isReference := ((c.find? name).map (·.reference)).getD false
    if indirect ∧ isReference then
      let target : Option Content := (c.find? name).map (·.content)
      return ← give (.one (match target with
        | some (.text target) => some target
        | _ => none))
    let (name, selector) ← if !indirect then pure (name, selector)
      else
        match ← parameterValues name selector with
        | .one (some target) => do
          let (name, subscript) := splitReference target
          let isFine := Shell.isName name ∨ (!name.isEmpty ∧ name.all Char.isDigit)
            ∨ (name.length = 1 ∧ name.all Shell.isSpecialName)
          if !isFine then fail (Text.toString target ++ ": invalid variable name")
          pure (name, selectorOf subscript)
        | .many _ targets =>
          pure (List.intercalate [' '] targets, Selector.none)
        | _ => fail (Text.toString name ++ ": invalid indirect expansion")
    let values ← parameterValues name selector
    let required : Eval Values := do
      match values with
      | .one none =>
        if (← self).has "nounset" then unbound source name selector
        pure values
      | values => pure values
    let inner : Mode := { mode with tilde := true, splits := true }
    let anyCase := (← context).has "nocasematch"
    match operation with
    | .value => do give (← required)
    | .length =>
      match values with
      | .many _ values => give (.one (some (naturalText values.length)))
      | _ => do
        match ← required with
        | .one value => give (.one (some (naturalText (charactersOf (value.getD [])).length)))
        | _ => pure []
    | .default colon word => if isGiven colon values then give values else r.atoms inner word
    | .replace colon word => if isGiven colon values then r.atoms inner word else pure []
    | .assign colon word =>
      if isGiven colon values then give values
      else
        let value ← textOfParts r { tilde := true, quoted := mode.quoted } word
        if !Shell.isName name then
          fail ("$" ++ Text.toString name ++ ": cannot assign in this way")
        assign name (match selector with
          | .key key => some key
          | _ => none) value
        give (← parameterValues name selector)
    | .fail colon word =>
      if isGiven colon values then give values
      else
        let message ← if word.isEmpty then
            pure (if colon then "parameter null or not set" else "parameter not set")
          else do pure (Text.toString (← textOfParts r { tilde := true, quoted := mode.quoted } word))
        abandon (Text.toString name ++ ": " ++ message)
    | .trim atEnd longest word => do
      let values ← required
      let pattern ← patternOfWord r word
      give (← mapValues (fun value =>
        pure (textOfCharacters (pattern.trim atEnd longest (charactersOf value)))) values)
    | .substitute extent word replacement => do
      let values ← required
      let pattern ← patternOfWord r word
      let letters := decodedLetters (lettersOf (← r.atoms { tilde := true, quoted := mode.quoted }
        replacement))
      let isActive := (← context).has "patsub_replacement"
      give (← mapValues (fun value => pure (substituted extent pattern anyCase
        (fun found => replacementText isActive found letters) value)) values)
    | .slice offset length => do
      give (← sliceValues r name selector (← required) offset length)
    | .recase kind all word => do
      let values ← required
      let pattern ← patternOfWord r word
      let fits (c : Char) : Bool := word.isEmpty || pattern.fits [c] anyCase
      give (← mapValues (fun value => pure (recased kind all fits value)) values)
    | .transform kind => do give (← transformValues kind name selector (← required))
    | _ => pure []

/-! ## Parts of words -/

/-- Whether a part stands for as many values as there are. -/
def standsForMany (part : Part) : Bool :=
  match part with
  | .parameter _ ['@'] _ _ _ => true
  | .parameter _ _ _ (some (.all false)) _ => true
  | .parameter _ _ _ _ (.keys false) => true
  | .parameter _ _ _ _ (.names false) => true
  | .parameter _ _ true _ _ => true
  | _ => false

/-- A part of a word. -/
def expandPart (mode : Mode) (isFirst goesOn : Bool) : Part → Eval (List Atom)
  | .text text => expandCharacters mode isFirst goesOn text
  | .literal text => pure (text.map (fun c => .letter c true false))
  | .quotes _ parts => do
    let atoms ← r.atoms { mode with quoted := true, tilde := false, value := false, splits := false }
      parts
    pure (if atoms.isEmpty ∧ parts.any standsForMany then [] else .mark :: atoms)
  | .parameter source name indirect subscript operation =>
    expandParameter r mode source name indirect subscript operation
  | .output body => return lettersFor mode (← captureOutput r body)
  | .textOutput text => do
    return lettersFor mode (← capture r (do let _ ← r.script text { last := true }))
  | .arithmetic expression => do
    let text ← textOfParts r { quoted := true } expression
    let n ← Arithmetic.evaluate text
    pure (lettersFor mode (Shell.textOfInt n))
  | .channel reads body => do
    pure ((← openChannel r reads body).map (fun c => .letter c true false))

/-- The parts of a word one after the other. -/
def expandParts (mode : Mode) : (isFirst : Bool) → List Part → Eval (List Atom)
  | _, [] => pure []
  | isFirst, part :: rest => do
    let atoms ← expandPart r mode isFirst (!rest.isEmpty) part
    return atoms ++ (← expandParts mode false rest)

/-! ## Words -/

/-- The paths that a field stands for, or the field itself. -/
def fillIn (field : Letters) : Eval (List Text) := do
  let p ← self
  let c ← context
  let itself := field.map (·.char)
  let rules : PathRules :=
    { hasGroups := c.has "extglob", showsHidden := c.has "dotglob", anyCase := c.has "nocaseglob"
      isDeep := c.has "globstar" }
  if p.has "noglob" ∨ !isPattern rules.hasGroups field then pure [itself]
  else
    match pathsOf (← get).machine rules field with
    | [] =>
      if c.has "failglob" then fail ("no match: " ++ Text.toString itself)
      else pure (if c.has "nullglob" then [] else [itself])
    | paths => pure paths

def expandFields (word : Word) : Eval (List Text) := do
  let words := if (← self).has "braceexpand" then expandBraces word else [word]
  let fields ← words.mapM fun word => do
    let atoms ← r.atoms { full := true, tilde := true } word
    let fields := fieldsOf (← separators) atoms
    return (← fields.mapM fillIn).flatten
  pure fields.flatten

/-! ## Lists -/

/-- The elements of a list with numbers that are written out, behind some that are there. -/
def expandIndexed (name : Text) : (next : Nat) → List (Nat × Text) → List Element →
    Eval (List (Nat × Text))
  | _, found, [] => pure found
  | next, found, .word word :: rest => do
    let fields ← expandFields r word
    let v := ((← context).find? name).getD {}
    let values ← fields.mapM (fun field => convert v none field)
    let found := values.zipIdx.foldl (fun found (value, i) =>
      Content.insertAt (next + i) value found) found
    expandIndexed name (next + fields.length) found rest
  | _, found, .entry subscript appends word :: rest => do
    let key ← textOfParts r {} subscript
    let n ← Arithmetic.evaluate key
    let size : Nat := (found.getLast?.map (fun e => e.1 + 1)).getD 0
    let index : Int := if n < 0 then (size : Int) + n else n
    if index < 0 then
      fail ("[" ++ Text.toString key ++ "]=" ++ ": bad array subscript")
    let v := ((← context).find? name).getD {}
    let value ← convert v (if appends then some ((found.lookup index.toNat).getD []) else none)
      (← expandValue r word)
    expandIndexed name (index.toNat + 1) (Content.insertAt index.toNat value found) rest

/-- The elements of a list with keys that are written out. Words are keys and values in turn. -/
def expandKeyed (name : Text) (found : List (Text × Text)) (elements : List Element) :
    Eval (List (Text × Text)) := do
  let v := ((← context).find? name).getD {}
  let (found, waiting) ← elements.foldlM (fun (found, waiting) element => do
    match element with
    | .entry subscript appends word =>
      let key ← textOfParts r {} subscript
      let value ← convert v (if appends then some ((found.lookup key).getD []) else none)
        (← expandValue r word)
      pure (Content.insertKey key value found, waiting)
    | .word word =>
      let text ← expandText r word
      match waiting with
      | none => pure (found, some text)
      | some key => pure (Content.insertKey key (← convert v none text) found, none))
    (found, (none : Option Text))
  pure (match waiting with
    | some key => Content.insertKey key [] found
    | none => found)

/-- Gives a variable a list that is written out. -/
def assignElements (name : Text) (elements : List Element) (appends : Bool) : Eval Unit := do
  let (name, _) ← resolved name
  let found := ((← context).find? name).getD {}
  if found.readonly then refuseReadOnly name
  match found.content with
  | .keyed old => do
    assignList name (.keyed (← expandKeyed r name (if appends then old else []) elements))
  | content => do
    let old := if appends then content.toIndexed else []
    let next := (old.getLast?.map (fun e => e.1 + 1)).getD 0
    assignList name (.indexed (← expandIndexed r name next old elements))

end

end Slipway.Rich
