import Slipway.Text.Basic

/-!
# Structured text

Values as JSON over several lines, two blanks further in for each level. Members stay in the order
in which they are listed.
-/

namespace Slipway

inductive JsonValue
  | null
  | bool (b : Bool)
  | int (n : Int)
  | text (s : String)
  | list (items : List JsonValue)
  | members (items : List (String × JsonValue))

namespace JsonValue

/-! ## Texts -/

/-- A control character is written by its name if it has a short one, and else by its number. -/
def escape (c : Char) : List Char :=
  match c with
  | '"' => ['\\', '"']
  | '\\' => ['\\', '\\']
  | '\x08' => ['\\', 'b']
  | '\x0c' => ['\\', 'f']
  | '\n' => ['\\', 'n']
  | '\r' => ['\\', 'r']
  | '\t' => ['\\', 't']
  | c => if c.toNat < 0x20 then '\\' :: 'u' :: fixedDigits 16 4 c.toNat else [c]

def quote (s : String) : String := "\"" ++ String.ofList (s.toList.flatMap escape) ++ "\""

/-! ## Layout -/

/-- The beginning of a line at this level. -/
def margin (level : Nat) : String := String.ofList (List.replicate (2 * level) ' ')

/-- Parts between two brackets, each on its own line one level further in than the brackets. -/
def block (level : Nat) (opening closing : String) (parts : List String) : String :=
  if parts.isEmpty then opening ++ closing
  else
    opening ++ "\n" ++ String.intercalate ",\n" (parts.map (margin (level + 1) ++ ·))
      ++ "\n" ++ margin level ++ closing

mutual

def layout (level : Nat) : JsonValue → String
  | null => "null"
  | bool b => if b then "true" else "false"
  | int n => toString n
  | text s => quote s
  | list items => block level "[" "]" (layoutItems (level + 1) items)
  | members items => block level "\x7b" "\x7d" (layoutMembers (level + 1) items)

def layoutItems (level : Nat) : List JsonValue → List String
  | [] => []
  | item :: rest => layout level item :: layoutItems level rest

def layoutMembers (level : Nat) : List (String × JsonValue) → List String
  | [] => []
  | (name, value) :: rest =>
    (quote name ++ ": " ++ layout level value) :: layoutMembers level rest

end

/-- The value from the margin on, without a newline at its end. -/
def pretty (value : JsonValue) : String := layout 0 value

end JsonValue

end Slipway
