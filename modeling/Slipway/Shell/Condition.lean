import Slipway.Shell.Number

/-!
# Conditions

What `test` decides: about texts, numbers and files.
-/

namespace Slipway.Shell

namespace Condition

def unaryOperators : List String := [
  "-r", "-w", "-x", "-e", "-f", "-d", "-c", "-b", "-p", "-u", "-g", "-k", "-s", "-t", "-z", "-n",
  "-h", "-O", "-G", "-L", "-S"]

def binaryOperators : List String := [
  "=", "!=", "<", ">", "-eq", "-ne", "-ge", "-gt", "-le", "-lt", "-nt", "-ot", "-ef"]

def isUnary (text : Text) : Bool := unaryOperators.contains (String.ofList text)

def isBinary (text : Text) : Bool := binaryOperators.contains (String.ofList text)

/-! ## Texts, numbers and files -/

def integer (text : Text) : Eval Int := do
  match number? 10 text with
  | some n => pure n
  | none => badNumber text

def nodeOf? (name : Text) (followLast : Bool := true) : Eval (Option (Location × Node)) :=
  return (← findNode (pathOf name) followLast).toOption

/-- A property of the node that a path leads to. -/
def nodeIs (name : Text) (p : Node → Bool) : Eval Bool := do
  match ← nodeOf? name with
  | some (_, node) => pure (p node)
  | none => pure false

def isLink (name : Text) : Eval Bool := do
  match ← nodeOf? name false with
  | some (_, .link _) => pure true
  | _ => pure false

def modeBit (bit : Nat) (node : Node) : Bool := node.mode / bit % 2 = 1

def unary (operator operand : Text) : Eval Bool :=
  match String.ofList operator with
  | "-n" => pure (!operand.isEmpty)
  | "-z" => pure operand.isEmpty
  | "-e" => nodeIs operand (fun _ => true)
  | "-f" => nodeIs operand Node.isRegular
  | "-d" => nodeIs operand Node.isDirectory
  | "-c" => nodeIs operand (fun node => FileSystem.kindOf node = .device)
  | "-r" => nodeIs operand (fun node => ownerReads node.mode)
  | "-w" => nodeIs operand (fun node => ownerWrites node.mode)
  | "-x" => nodeIs operand (fun node => ownerExecutes node.mode)
  | "-s" => nodeIs operand (fun node => 0 < node.size)
  | "-u" => nodeIs operand (modeBit 0o4000)
  | "-g" => nodeIs operand (modeBit 0o2000)
  | "-k" => nodeIs operand (modeBit 0o1000)
  | "-O" => nodeIs operand (fun _ => true)
  | "-G" => nodeIs operand (fun _ => true)
  | "-L" => isLink operand
  | "-h" => isLink operand
  | "-t" => do
    let _ ← integer operand
    pure false
  | _ => pure false

def modifiedAt (found : Location × Node) (now : Int) : Int :=
  match found with
  | (_, .file data) => data.modified
  | _ => now

/-- Whether the first file is newer than the second. -/
def newer (left right : Text) : Eval Bool := do
  let now := (← get).machine.now
  match ← nodeOf? left, ← nodeOf? right with
  | some a, some b => pure (modifiedAt b now < modifiedAt a now)
  | _, _ => pure false

def sameFile (left right : Text) : Eval Bool := do
  match ← nodeOf? left, ← nodeOf? right with
  | some (a, .file x), some (b, .file y) => pure (a = b || x.serial = y.serial)
  | some (a, _), some (b, _) => pure (a = b)
  | _, _ => pure false

def textLt : Text → Text → Bool
  | [], d => !d.isEmpty
  | _ :: _, [] => false
  | c :: cs, d :: ds => if c = d then textLt cs ds else c < d

def binary (left operator right : Text) : Eval Bool :=
  let numbers (p : Int → Int → Bool) : Eval Bool := do
    let a ← integer left
    let b ← integer right
    pure (p a b)
  match String.ofList operator with
  | "=" => pure (left = right)
  | "!=" => pure (left ≠ right)
  | "<" => pure (textLt left right)
  | ">" => pure (textLt right left)
  | "-eq" => numbers (· = ·)
  | "-ne" => numbers (· ≠ ·)
  | "-lt" => numbers (· < ·)
  | "-le" => numbers (· ≤ ·)
  | "-gt" => numbers (fun a b => b < a)
  | "-ge" => numbers (fun a b => b ≤ a)
  | "-nt" => newer left right
  | "-ot" => newer right left
  | "-ef" => sameFile left right
  | _ => pure false

/-! ## Expressions -/

/-- What an operand is, seen with those behind it. -/
inductive Kind
  | ended
  | operand
  | unary
  | binary
  | negation
  | conjunction
  | disjunction
  | opens
  | closes
  deriving DecidableEq

/-- A unary operator is an operand where nothing follows it, or a comparison. -/
def standsAlone : List Text → Bool
  | [] => true
  | [_] => false
  | operator :: _ => isBinary operator

def kindOf : List Text → Kind
  | [] => .ended
  | text :: rest =>
    if isUnary text then (if standsAlone rest then .operand else .unary)
    else if isBinary text then .binary
    else
      match String.ofList text with
      | "!" => .negation
      | "-a" => .conjunction
      | "-o" => .disjunction
      | "(" => if rest.isEmpty then .operand else .opens
      | ")" => .closes
      | _ => .operand

/-- Complains about an operand. -/
def refuse {α : Type} (operand : Text) (message : String) : Eval α :=
  if operand.isEmpty then fail message else fail (operand.toString ++ ": " ++ message)

/-- The operands from the one on that was read last. -/
abbrev Reader (α : Type) := StateT (List Text) Eval α

def advance (count : Nat) : Reader Unit := modify (List.drop count)

/-- The kind of what comes behind the operand that was read last. -/
def behind : Reader Kind := return kindOf ((← get).drop 1)

mutual

/-- Conditions of which one has to hold. The first operand is of the given kind. -/
def anyOf : (fuel : Nat) → Kind → Reader Bool
  | 0, _ => pure false
  | fuel + 1, kind => do
    let left ← allOf fuel kind
    if (← behind) = .disjunction then
      advance 2
      let right ← anyOf fuel (kindOf (← get))
      pure (left || right)
    else pure left

/-- Conditions that all have to hold. -/
def allOf : (fuel : Nat) → Kind → Reader Bool
  | 0, _ => pure false
  | fuel + 1, kind => do
    let left ← negated fuel kind
    if (← behind) = .conjunction then
      advance 2
      let right ← allOf fuel (kindOf (← get))
      pure (left && right)
    else pure left

def negated : (fuel : Nat) → Kind → Reader Bool
  | 0, _ => pure false
  | fuel + 1, kind => do
    if kind = .negation then
      let next ← behind
      if next ≠ .ended then advance 1
      return !(← negated fuel next)
    else single fuel kind

/-- One condition, or several in brackets. -/
def single : (fuel : Nat) → Kind → Reader Bool
  | 0, _ => pure false
  | fuel + 1, kind => do
    match kind, ← get with
    | .ended, _ => pure false
    | .opens, _ => do
      advance 1
      let first := kindOf (← get)
      if first = .closes then pure false
      else
        let value ← anyOf fuel first
        advance 1
        if kindOf (← get) ≠ .closes then refuse [] "closing paren expected"
        pure value
    | .unary, operator :: rest => do
      advance 1
      match rest with
      | [] => refuse operator "argument expected"
      | operand :: _ => unary operator operand
    | _, left :: operator :: rest =>
      if isBinary operator then do
        advance 2
        match rest with
        | [] => refuse operator "argument expected"
        | right :: _ => binary left operator right
      else pure (!left.isEmpty)
    | _, [left] => pure (!left.isEmpty)
    | _, [] => pure false

end

/-- Evaluates an expression whose first operand is of the given kind. -/
def evaluateAs (args : List Text) (kind : Kind) : Eval Bool := do
  let (value, rest) ← (anyOf (4 * args.length + 4) kind).run args
  match rest with
  | last :: _ :: _ => refuse last "unexpected operator"
  | _ => pure value

def evaluate (args : List Text) : Eval Bool := evaluateAs args (kindOf args)

/-- The condition of three arguments, of which the first may be a negation that was seen to. -/
def evaluateThree (a b c : Text) : Eval Bool :=
  if isBinary b then evaluateAs [a, b, c] .operand
  else if a = ['('] ∧ c = [')'] then evaluate [b]
  else if a = ['!'] then evaluate [b, c]
  else evaluate [a, b, c]

end Condition

open Condition in
/-- Whether the condition that the arguments describe holds. Of three or four arguments their number
decides what is an operator. -/
def condition : List Text → Eval Bool
  | [] => pure false
  | [a, b, c] => do
    let value ← evaluateThree a b c
    pure (if a = ['!'] ∧ !isBinary b then !value else value)
  | [a, b, c, d] => do
    if a = ['('] ∧ d = [')'] then evaluate [b, c]
    else if a = ['!'] then return !(← evaluateThree b c d)
    else evaluate [a, b, c, d]
  | args => evaluate args

end Slipway.Shell
