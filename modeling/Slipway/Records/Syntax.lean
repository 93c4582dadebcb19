import Slipway.Regex.Basic
import Slipway.Shell.Syntax

/-!
# Programs over records

Programs that are carried out for each record of their input: rules with conditions and actions,
functions, and expressions over the fields of a record. Names are resolved: a shared slot belongs to
the whole program, an own one to the call of a function.
-/

namespace Slipway.Records

open Shell (Text)

/-- Where something is kept. -/
inductive Slot
  | shared (index : Nat)
  | own (index : Nat)
  deriving DecidableEq

/-- A regular expression with its written form. -/
structure Pattern where
  source : Text
  regex : Regex

inductive Operator
  | add
  | subtract
  | multiply
  | divide
  | remainder
  | power
  deriving DecidableEq

inductive Relation
  | less
  | lessOrEqual
  | equal
  | notEqual
  | greater
  | greaterOrEqual
  deriving DecidableEq

inductive Builtin
  | index
  | substr
  | length
  | split
  | search
  | sub
  | gsub
  | sprintf
  | sin
  | cos
  | exp
  | log
  | sqrt
  | int
  | atan2
  | rand
  | srand
  | close
  | system
  | toupper
  | tolower
  | fflush
  | strftime
  | mktime
  | systime
  deriving DecidableEq

inductive Expr
  | number (x : Float)
  | text (s : Text)
  | pattern (p : Pattern)
  | slot (place : Slot)
  | element (table : Slot) (subscripts : List Expr)
  | field (index : Expr)
  | assign (target : Expr) (operator : Option Operator) (value : Expr)
  /-- One more or one less, with the value before or behind the step. -/
  | step (target : Expr) (up : Bool) (valueBefore : Bool)
  | not (e : Expr)
  | negate (e : Expr)
  | plus (e : Expr)
  | arithmetic (operator : Operator) (a b : Expr)
  | compare (relation : Relation) (a b : Expr)
  | join (a b : Expr)
  | both (a b : Expr)
  | either (a b : Expr)
  | fits (subject pattern : Expr)
  | member (subscripts : List Expr) (table : Slot)
  | choose (condition yes no : Expr)
  | call (function : Nat) (args : List Expr)
  | builtin (function : Builtin) (args : List Expr)
  | readMain (target : Option Expr)
  | readFile (file : Expr) (target : Option Expr)
  | readCommand (command : Expr) (target : Option Expr)

/-- Where output goes. -/
inductive Direction
  | replace
  | append
  | pipe
  deriving DecidableEq

inductive Statement
  | expr (e : Expr)
  | print (args : List Expr) (target : Option (Direction × Expr))
  | printf (args : List Expr) (target : Option (Direction × Expr))
  | branch (condition : Expr) (yes no : Statement)
  | whileLoop (condition : Expr) (body : Statement)
  | doWhile (body : Statement) (condition : Expr)
  | forLoop (first : Statement) (condition : Option Expr) (next body : Statement)
  | forEach (target : Expr) (table : Slot) (body : Statement)
  | block (statements : List Statement)
  | next
  | nextFile
  | exit (code : Option Expr)
  | giveBack (value : Option Expr)
  | leave
  | again
  | delete (table : Slot) (subscripts : List Expr)
  | clear (table : Slot)

structure Function where
  name : Text
  params : List Text := []
  /-- Which parameters are tables. -/
  tables : List Bool := []
  body : Option Statement := none

/-- When an action is carried out. -/
inductive Trigger
  | start
  | finish
  | always
  | when (condition : Expr)
  /-- From a record on up to another; the number is that of the rule. -/
  | range (first last : Expr) (number : Nat)

structure Rule where
  trigger : Trigger
  /-- The record is printed where there is no action. -/
  action : Option Statement

structure Program where
  rules : List Rule := []
  functions : Array Function := #[]
  /-- The names of the shared slots. -/
  names : List (Text × Nat) := []
  /-- The shared slots that are tables. -/
  tables : List Nat := []

/-! ## Slots that every program has -/

def builtinNames : List String := [
  "NF", "NR", "FNR", "FS", "OFS", "ORS", "RS", "FILENAME", "SUBSEP", "RSTART", "RLENGTH", "CONVFMT",
  "OFMT", "ENVIRON", "ARGC", "ARGV"]

def slotNF : Nat := 0
def slotNR : Nat := 1
def slotFNR : Nat := 2
def slotFS : Nat := 3
def slotOFS : Nat := 4
def slotORS : Nat := 5
def slotRS : Nat := 6
def slotFilename : Nat := 7
def slotSubsep : Nat := 8
def slotRstart : Nat := 9
def slotRlength : Nat := 10
def slotConvfmt : Nat := 11
def slotOfmt : Nat := 12
def slotEnviron : Nat := 13
def slotArgc : Nat := 14
def slotArgv : Nat := 15

end Slipway.Records
