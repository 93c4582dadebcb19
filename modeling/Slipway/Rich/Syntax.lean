import Slipway.Shell.Syntax

/-!
# The language of rich scripts

The shell for rich scripts knows lists of values, conditions in double brackets, sums as commands
and more ways to change the value of a parameter. Its texts have one character for each byte, as
those of the plain shell have.
-/

namespace Slipway.Rich

open Shell (Text)

/-- Which of the places that fit a pattern are replaced. -/
inductive Extent
  | first
  | all
  | start
  | stop
  deriving DecidableEq

/-- What becomes of a letter. -/
inductive Recasing
  | upper
  | lower
  | swapped
  deriving DecidableEq

/-- How a list of commands in a choice is left. -/
inductive ArmEnd
  | done
  /-- The commands of the next arm are run as well. -/
  | next
  /-- The patterns behind this arm are tried as well. -/
  | goesOn
  deriving DecidableEq

inductive RedirectKind
  | input
  | output
  | replacing
  | append
  | both
  | copyInput
  | copyOutput
  /-- The standard output and the messages. -/
  | all
  | appendAll
  /-- The word is what is read. The text and its delimiter are kept as they are written. -/
  | document (text delimiter : Text) (dropTabs : Bool)
  /-- The word and a line end are what is read. -/
  | line
  deriving DecidableEq

/-- What a redirection is about. -/
inductive Redirected
  | usual
  | descriptor (number : Nat)
  /-- The variable takes the number of a free descriptor. -/
  | free (name : Text)
  deriving DecidableEq

mutual

/-- A piece of a word. -/
inductive Part
  /-- Characters that may be patterns. -/
  | text (text : Text)
  /-- Characters that stand for themselves. -/
  | literal (text : Text)
  /-- What is between two quotes; it is not split and no pattern. It is kept as it is written unless
  there are commands in it. -/
  | quotes (source : Option Text) (parts : List Part)
  /-- A parameter as it is written, and what it is. An `indirect` one names another. -/
  | parameter (source name : Text) (indirect : Bool) (subscript : Option Subscript)
      (operation : Operation)
  /-- The output of a command. -/
  | output (body : Option Command)
  /-- The output of the commands in a text. -/
  | textOutput (text : Text)
  | arithmetic (expression : List Part)
  /-- The name of a file that leads from or to a command. -/
  | channel (reads : Bool) (body : Option Command)

/-- What stands in brackets behind a name. -/
inductive Subscript
  /-- All elements; with a star they are one text. -/
  | all (star : Bool)
  | one (parts : List Part)

/-- What an expansion makes of a parameter. With a colon an empty value counts as none. -/
inductive Operation
  | value
  | length
  /-- The keys of a list. -/
  | keys (star : Bool)
  /-- The names of the variables that begin like this. -/
  | names (star : Bool)
  | default (colon : Bool) (word : List Part)
  | assign (colon : Bool) (word : List Part)
  | fail (colon : Bool) (word : List Part)
  | replace (colon : Bool) (word : List Part)
  | trim (atEnd longest : Bool) (pattern : List Part)
  | substitute (extent : Extent) (pattern replacement : List Part)
  | slice (offset : List Part) (length : Option (List Part))
  | recase (kind : Recasing) (all : Bool) (pattern : List Part)
  | transform (kind : Char)
  /-- There is no such operation. -/
  | bad

/-- An element of a list that is written out. -/
inductive Element
  | word (word : List Part)
  | entry (subscript : List Part) (appends : Bool) (value : List Part)

inductive Assigned
  | text (value : List Part)
  | list (elements : List Element)

inductive Assignment
  | mk (name : Text) (subscript : Option (List Part)) (appends : Bool) (value : Assigned)

/-- A word of a command, which can be an assignment where the command takes them. -/
inductive Item
  | word (word : List Part)
  | assignment (assignment : Assignment)

/-- A redirection, with its word as it is written. -/
inductive Redirect
  | mk (target : Redirected) (kind : RedirectKind) (source : Text) (word : List Part)

/-- A condition in double brackets. -/
inductive Condition
  | word (word : List Part)
  | unary (operator : Text) (operand : List Part)
  | binary (left : List Part) (operator : Text) (right : List Part)
  | negation (body : Condition)
  | both (first second : Condition)
  | either (first second : Condition)
  | group (body : Condition)

inductive Command
  | simple (line : Nat) (assignments : List Assignment) (items : List Item)
      (redirects : List Redirect)
  | pipeline (line : Nat) (stages : List Command)
  | negation (body : Command)
  | timed (portable : Bool) (body : Option Command)
  | andThen (first second : Command)
  | orElse (first second : Command)
  | sequence (first second : Command)
  | background (line : Nat) (body : Command)
  | group (body : Command)
  | subshell (line : Nat) (body : Command)
  | redirected (line : Nat) (body : Command) (redirects : List Redirect)
  | conditional (test yes : Command) (no : Option Command)
  | loop (untilTrue : Bool) (test body : Command)
  /-- The values come from words or are the arguments. -/
  | each (line : Nat) (name : Text) (ofArgs : Bool) (words : List (List Part)) (body : Command)
  /-- A loop with three expressions. -/
  | counting (line : Nat) (start test step : List Part) (body : Command)
  | menu (line : Nat) (name : Text) (ofArgs : Bool) (words : List (List Part)) (body : Command)
  | choose (line : Nat) (word : List Part) (arms : List Arm)
  | define (line : Nat) (name : Text) (body : Command)
  | condition (line : Nat) (condition : Condition)
  | arithmetic (line : Nat) (expression : List Part)
  /-- A command in the background with pipes to and from it. -/
  | coprocess (line : Nat) (name : Text) (body : Command)

/-- The patterns and the commands of one case of a choice. -/
inductive Arm
  | mk (patterns : List (List Part)) (body : Option Command) (ending : ArmEnd)

end

abbrev Word := List Part

/-- A letter of an expanded word, or the place of something else in it. -/
inductive Atom
  /-- A letter, which can be `quoted` or come from an expansion that is split. -/
  | letter (c : Char) (quoted splits : Bool)
  /-- One of several values ends here. -/
  | cut
  /-- There is a field here even if it is empty. -/
  | mark
  deriving DecidableEq

end Slipway.Rich
