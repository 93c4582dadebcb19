import Slipway.Regex.Parser
import Slipway.Rich.Expansion
import Slipway.Shell.Condition

/-!
# Conditions of rich scripts

What `test` decides of its arguments, and conditions in double brackets, whose words are no
arguments: they are not split, and what stands to the right of an operator can be a pattern or a
regular expression.
-/

namespace Slipway.Rich

open Shell (Text Eval Mode self setStatus Letter Letters)

namespace Test

/-! ## Texts, numbers, variables and files -/

def unaryOperators : List String := [
  "-a", "-b", "-c", "-d", "-e", "-f", "-g", "-h", "-k", "-n", "-o", "-p", "-r", "-s", "-t", "-u",
  "-v", "-w", "-x", "-z", "-G", "-L", "-N", "-O", "-R", "-S"]

def binaryOperators : List String := [
  "=", "==", "!=", "<", ">", "-eq", "-ne", "-ge", "-gt", "-le", "-lt", "-nt", "-ot", "-ef"]

def isUnary (text : Text) : Bool := unaryOperators.contains (String.ofList text)

def isBinary (text : Text) : Bool := binaryOperators.contains (String.ofList text)

/-- Whether a variable or an element of a list has a value. -/
def isSet (reference : Text) : Eval Bool := do
  let (name, subscript) := splitReference reference
  if name.all Char.isDigit ∧ !name.isEmpty then
    match ← parameterValues name .none with
    | .one value => pure value.isSome
    | _ => pure false
  else
    match subscript with
    | some ['@'] => elements name
    | some ['*'] => elements name
    | _ =>
      match ← variableValues name (selectorOf subscript) with
      | .one value => pure value.isSome
      | .many _ values => pure (!values.isEmpty)
where
  elements (name : Text) : Eval Bool := do
    match ← variableValues name (.all false) with
    | .many _ values => pure (!values.isEmpty)
    | .one value => pure value.isSome

def unary (operator operand : Text) : Eval Bool := do
  match String.ofList operator with
  | "-a" => Shell.Condition.unary "-e".toList operand
  | "-v" => isSet operand
  | "-o" => return (← self).has (String.ofList operand)
  | "-R" => return (((← context).find? operand).map (·.reference)).getD false
  | "-t" => pure false
  | "-N" => pure false
  | _ => Shell.Condition.unary operator operand

def compare (operator : String) (a b : Int) : Bool :=
  match operator with
  | "-eq" => a = b
  | "-ne" => a ≠ b
  | "-lt" => a < b
  | "-le" => a ≤ b
  | "-gt" => b < a
  | _ => b ≤ a

def comparisons : List String := ["-eq", "-ne", "-lt", "-le", "-gt", "-ge"]

/-- A number that is an argument. -/
def integer (text : Text) : Eval Int := do
  match Shell.number? 10 text with
  | some n => if text.all isSpaceChar then bad else pure n
  | none => bad
where
  bad : Eval Int := refuse (Text.toString text ++ ": integer expression expected") 2

def binary (left operator right : Text) : Eval Bool := do
  let name := String.ofList operator
  if comparisons.contains name then return compare name (← integer left) (← integer right)
  match name with
  | "==" => pure (left = right)
  | _ => Shell.Condition.binary left operator right

/-! ## Arguments -/

abbrev Reader (α : Type) := StateT (List Text) Eval α

def missing {α : Type} : Reader α := liftM (refuse "argument expected" 2 : Eval α)

def two (a b : Text) : Eval Bool := do
  if a = ['!'] then pure b.isEmpty
  else if isUnary a then unary a b
  else refuse (Text.toString a ++ ": unary operator expected") 2

def three (a b c : Text) : Eval Bool := do
  if isBinary b then binary a b c
  else if b = "-a".toList then pure (!a.isEmpty && !c.isEmpty)
  else if b = "-o".toList then pure (!a.isEmpty || !c.isEmpty)
  else if a = ['!'] then return !(← two b c)
  else if a = ['('] ∧ c = [')'] then pure (!b.isEmpty)
  else refuse (Text.toString b ++ ": binary operator expected") 2

mutual

/-- Conditions of which one has to hold. -/
def anyOf : (fuel : Nat) → Reader Bool
  | 0 => pure false
  | fuel + 1 => do
    let left ← allOf fuel
    match ← get with
    | ['-', 'o'] :: rest => do
      set rest
      let right ← anyOf fuel
      pure (left || right)
    | _ => pure left

/-- Conditions that all have to hold. -/
def allOf : (fuel : Nat) → Reader Bool
  | 0 => pure false
  | fuel + 1 => do
    let left ← single fuel
    match ← get with
    | ['-', 'a'] :: rest => do
      set rest
      let right ← allOf fuel
      pure (left && right)
    | _ => pure left

def single : (fuel : Nat) → Reader Bool
  | 0 => pure false
  | fuel + 1 => do
    match ← get with
    | [] => missing
    | ['!'] :: rest => do
      set rest
      return !(← single fuel)
    | a :: b :: c :: rest =>
      if isBinary b then do
        set rest
        binary a b c
      else if a = ['('] then bracketed fuel (b :: c :: rest)
      else if isUnary a then do
        set (c :: rest)
        unary a b
      else do
        set (b :: c :: rest)
        pure (!a.isEmpty)
    | [a, b] =>
      if a = ['('] then bracketed fuel [b]
      else if isUnary a then do
        set ([] : List Text)
        unary a b
      else do
        set [b]
        pure (!a.isEmpty)
    | [a] => do
      set ([] : List Text)
      pure (!a.isEmpty)

def bracketed : (fuel : Nat) → List Text → Reader Bool
  | 0, _ => pure false
  | fuel + 1, rest => do
    set rest
    let value ← anyOf fuel
    match ← get with
    | [')'] :: rest => do
      set rest
      pure value
    | [] => liftM (refuse "\x60)' expected" 2 : Eval Bool)
    | other :: _ =>
      liftM (refuse ("\x60)' expected, found " ++ Text.toString other) 2 : Eval Bool)

end

/-- Whether the condition that the arguments describe holds. Of few arguments their number decides
what is an operator. -/
def ofArguments (args : List Text) : Eval Bool := do
  match args with
  | [] => pure false
  | [a] => pure (!a.isEmpty)
  | [a, b] => two a b
  | [a, b, c] => three a b c
  | [a, b, c, d] =>
    if a = ['!'] then return !(← three b c d)
    else if a = ['('] ∧ d = [')'] then two b c
    else expression args
  | args => expression args
where
  expression (args : List Text) : Eval Bool := do
    let (value, rest) ← (anyOf (4 * args.length + 4)).run args
    if !rest.isEmpty then refuse "too many arguments" 2
    pure value

/-! ## Double brackets -/

/-- A regular expression, in which quoted characters stand for themselves. -/
def regexText (letters : Letters) : Text :=
  letters.flatMap fun l =>
    if l.quoted ∧ ".[]*^$+?()\x7b\x7d|\\".toList.contains l.char then ['\\', l.char] else [l.char]

/-- Looks for a regular expression, and keeps what was found for its groups. -/
def findRegex (text : Text) (letters : Letters) : Eval (Option Bool) := do
  let anyCase := (← context).has "nocasematch"
  match Regex.parse true (regexText (decodedLetters letters)) with
  | .error _ => pure none
  | .ok (regex, groups) =>
    let characters := (charactersOf text).toArray
    let name := "BASH_REMATCH".toList
    match Regex.find? regex { ignoresCase := anyCase } characters with
    | none => do
      assignList name (.indexed [])
      pure (some false)
    | some (first, last, found) => do
      let piece (first last : Nat) : Text :=
        textOfCharacters ((characters.toList.take last).drop first)
      let values := piece first last :: (List.range groups).map (fun i =>
        match found.lookup (i + 1) with
        | some (a, b) => piece a b
        | none => [])
      assignList name (listContent values)
      pure (some true)

section

variable (r : Shell.Runner)

/-- How a command is shown before it runs. -/
def shownPattern (letters : Letters) : Text :=
  letters.flatMap (fun l => if l.quoted then ['\\', l.char] else [l.char])

/-- A text as it is shown; two quotes stand for none. -/
def orQuotes (text : Text) : Text := if text.isEmpty then "''".toList else text

/-- What a condition without others in it is, as it is shown, and whether it holds; none if it
cannot be told. -/
def simple (show_ : Text → Eval Unit) (condition : Condition) : Eval (Option Bool) := do
  match condition with
  | .word word => do
    let text ← expandText r word
    show_ ("-n ".toList ++ orQuotes text)
    pure (some (!text.isEmpty))
  | .unary operator word => do
    let text ← expandText r word
    show_ (operator ++ ' ' :: orQuotes text)
    return some (← unary operator text)
  | .binary left operator right => do
    let a ← expandText r left
    let name := String.ofList operator
    if name = "=~" then
      let letters := lettersOf (← r.atoms { tilde := true } right)
      show_ (orQuotes a ++ " =~ ".toList ++ letters.map (·.char))
      findRegex a letters
    else if ["=", "==", "!="].contains name then
      let letters := lettersOf (← r.atoms { tilde := true } right)
      show_ (orQuotes a ++ ' ' :: operator ++ ' ' :: orQuotes (shownPattern letters))
      let matches_ := (patternOf true letters).fits (charactersOf a) ((← context).has "nocasematch")
      pure (some (matches_ != (name = "!=")))
    else
      let b ← expandText r right
      show_ (orQuotes a ++ ' ' :: operator ++ ' ' :: orQuotes b)
      if comparisons.contains name then
        let x ← Arithmetic.evaluate a
        let y ← Arithmetic.evaluate b
        pure (some (compare name x y))
      else return some (← Shell.Condition.binary a operator b)
  | _ => pure none

/-- Whether a condition holds; none if it cannot be told. -/
def holds (show_ : Text → Eval Unit) : Condition → Eval (Option Bool)
  | .group body => holds show_ body
  | .negation body => return (← holds (fun text => show_ ("! ".toList ++ text)) body).map (!·)
  | .both first second => do
    match ← holds show_ first with
    | some true => holds show_ second
    | result => pure result
  | .either first second => do
    match ← holds show_ first with
    | some false => holds show_ second
    | result => pure result
  | .word word => simple r show_ (.word word)
  | .unary operator word => simple r show_ (.unary operator word)
  | .binary left operator right => simple r show_ (.binary left operator right)

end

end Test

end Slipway.Rich
