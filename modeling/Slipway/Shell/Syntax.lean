import Slipway.Text.Utf8

/-!
# The language of shell scripts

Words, redirections and commands. A text of the shell has one character for each byte.
-/

namespace Slipway.Shell

abbrev Text := List Char

instance : Hashable Text := @instHashableList Char instHashableChar

def Text.ofBytes (bytes : Bytes) : Text := bytes.map (fun b => Char.ofNat b.toNat)

def Text.toBytes (text : Text) : Bytes := text.map (fun c => UInt8.ofNat c.toNat)

def Text.ofString (s : String) : Text := Text.ofBytes (Utf8.encode s)

def Text.toString (text : Text) : String := Utf8.decodeLossy text.toBytes

/-! ## Names -/

def isNameStart (c : Char) : Bool := c.isAlpha || c = '_'
def isNameChar (c : Char) : Bool := c.isAlphanum || c = '_'
def isBlankChar (c : Char) : Bool := c = ' ' || c = '\t'

/-- The names of parameters that are no names of variables. -/
def isSpecialName (c : Char) : Bool := "@*#?-$!".toList.contains c

def isName : Text → Bool
  | [] => false
  | c :: rest => isNameStart c && rest.all isNameChar

/-- A name and what stands behind the equals sign that follows it. -/
def splitAssignment? (text : Text) : Option (Text × Text) :=
  let name := text.takeWhile isNameChar
  match text.drop name.length with
  | '=' :: value => if isName name then some (name, value) else none
  | _ => none

/-! ## Commands -/

/-- What an expansion makes of a parameter's value. With a colon an empty value counts as none. -/
inductive Operator
  | value
  | length
  | default (colon : Bool)
  | assign (colon : Bool)
  | fail (colon : Bool)
  | replace (colon : Bool)
  | dropStart (longest : Bool)
  | dropEnd (longest : Bool)
  /-- There is no such operator. -/
  | unknown
  deriving DecidableEq

inductive RedirectKind
  | input
  | output
  /-- Output even to a file that must not be overwritten. -/
  | replacing
  | append
  | both
  /-- The number of another descriptor, or `-` to close this one. -/
  | copy
  /-- The word is what is read. -/
  | document
  deriving DecidableEq

mutual

/-- A piece of a word. -/
inductive Part
  /-- Characters that may be patterns. -/
  | text (text : Text)
  /-- Characters that stand for themselves. -/
  | literal (text : Text)
  /-- What is between two quotes; it is not split and no pattern. -/
  | quotes (parts : List Part)
  | parameter (name : Text) (operator : Operator) (word : List Part)
  /-- The output of a command. -/
  | output (body : Option Command)
  | arithmetic (expression : List Part)

inductive Redirect
  | mk (descriptor : Nat) (kind : RedirectKind) (word : List Part)

inductive Command
  /-- Assignments, words and redirections of the command on a line. -/
  | simple (line : Nat) (assignments words : List (List Part)) (redirects : List Redirect)
  | pipeline (background : Bool) (stages : List Command)
  | negation (body : Command)
  | andThen (first second : Command)
  | orElse (first second : Command)
  | sequence (first second : Command)
  | background (line : Nat) (body : Command) (redirects : List Redirect)
  | redirected (line : Nat) (body : Command) (redirects : List Redirect)
  | subshell (line : Nat) (body : Command) (redirects : List Redirect)
  | conditional (test yes : Command) (no : Option Command)
  | loop (untilTrue : Bool) (test body : Command)
  | each (line : Nat) (name : Text) (words : List (List Part)) (body : Command)
  | choose (line : Nat) (word : List Part) (arms : List (List (List Part) × Option Command))
  | define (line : Nat) (name : Text) (body : Command)

end

abbrev Word := List Part

/-- The text of a word without quotes and expansions. -/
def bareText? : Word → Option Text
  | [] => some []
  | .text text :: rest => (bareText? rest).map (text ++ ·)
  | _ => none

/-- Whether anything in a word is quoted. -/
def hasQuotes (word : Word) : Bool :=
  word.any fun part =>
    match part with
    | .literal _ => true
    | .quotes _ => true
    | _ => false

end Slipway.Shell
