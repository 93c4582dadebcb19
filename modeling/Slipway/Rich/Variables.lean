import Slipway.Rich.Syntax

/-!
# What a rich shell keeps

Variables, which hold a text or a list of texts, in scopes that are searched from the innermost one
on; functions, the calls that are going on, and other things that only a rich shell has.
-/

namespace Slipway.Rich

open Shell (Text)

inductive Content
  /-- There is no value yet. -/
  | none
  | text (text : Text)
  /-- Texts with numbers, in the order of these. -/
  | indexed (elements : List (Nat × Text))
  /-- Texts with keys, the latest first. -/
  | keyed (elements : List (Text × Text))

structure Variable where
  content : Content := .none
  exported : Bool := false
  readonly : Bool := false
  /-- Values are expressions, of which the result is kept. -/
  integer : Bool := false
  recasing : Option Recasing := none
  /-- Only the first letter is changed. -/
  capital : Bool := false
  /-- The value is the name of another variable. -/
  reference : Bool := false
  traced : Bool := false
  /-- It was made a list, but no values were given. -/
  pending : Bool := false

structure Scope where
  entries : List (Text × Variable) := []
  /-- Whether a function call has opened it, so that it can have variables of its own. -/
  isCall : Bool := false
  /-- The options as they were, if they are to be put back. -/
  options : Option (List String) := none

structure Definition where
  line : Nat
  source : Text
  body : Command
  exported : Bool := false
  readonly : Bool := false
  traced : Bool := false

/-- A call of a function, or of the script in a file. -/
structure Call where
  name : Text
  /-- The file with the commands. -/
  source : Text
  /-- The line of the call. -/
  line : Nat

/-- A command that reads what is written to a channel, once nobody writes to it any more. -/
structure Reader where
  channel : Nat
  body : Option Command
  /-- The descriptors that it has. -/
  descriptors : List (Nat × Nat)

structure Context where
  /-- The innermost first. -/
  scopes : List Scope := [{}]
  functions : List (Text × Definition) := []
  /-- The special options that are on. -/
  extras : List String := []
  calls : List Call := []
  /-- The endings of the commands of the last pipeline. -/
  pipeStatuses : List Nat := []
  lastArg : Text := []
  /-- The state of the random numbers. -/
  seed : Nat := 4711
  /-- The directories below the current one on the stack of directories. -/
  directories : List Text := []
  /-- The programs that were found, and how often each was used. -/
  found : List (Text × Text × Nat) := []
  /-- The variables that are no longer special because they were removed. -/
  plain : List Text := []
  /-- Whether the commands are those of an argument. -/
  fromArgument : Bool := false
  /-- Whether the commands are those of a file. -/
  fromFile : Bool := false
  readers : List Reader := []
  /-- Actions at errors, commands and the ends of functions. -/
  actions : List (String × Text) := []
  /-- The actions of the shell that this one is a copy of, at signals and at other events. They are
  shown as long as no action is set. -/
  former : Option (List (Nat × Text) × List (String × Text)) := none
  /-- Whether such an action is being carried out. -/
  inAction : Bool := false
  /-- How deep texts that are run as commands are in each other. -/
  evaluations : Nat := 0
  /-- The builtins that are not used. -/
  disabled : List Text := []
  /-- The command that is being run. -/
  command : Option Command := none
  /-- Whether the output of the shell is going to be part of a word. -/
  isCaptured : Bool := false
  /-- Whether the shell is a copy of another one. -/
  isCopy : Bool := false
  /-- How many shells the shell is a copy of, one of the other. -/
  depth : Nat := 0
  /-- The descriptors of the processes that run beside the shell, by the channels. -/
  partners : List Nat := []

end Slipway.Rich
