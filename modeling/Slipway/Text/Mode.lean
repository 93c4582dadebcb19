import Slipway.Text.Characters

/-!
# Modes in symbols

Changes of file modes as they are written with letters: for whom, whether to add, take away or set,
and what.
-/

namespace Slipway

namespace Mode

/-- The bits of a mode that the letters for its owners stand for; without letters, all of them. -/
def ownerBits (letters : List Char) : Nat :=
  if letters.isEmpty || letters.contains 'a' then 0o7777
  else
    (if letters.contains 'u' then 0o4700 else 0) ||| (if letters.contains 'g' then 0o2070 else 0)
      ||| (if letters.contains 'o' then 0o1007 else 0)

/-- The bits of a right for everyone. A capital X is the right to execute for directories and for
files that someone may execute. -/
def rightBits (mode : Nat) (isDirectory : Bool) : Char → Nat
  | 'r' => 0o444
  | 'w' => 0o222
  | 'x' => 0o111
  | 'X' => if isDirectory || mode &&& 0o111 ≠ 0 then 0o111 else 0
  | 's' => 0o6000
  | 't' => 0o1000
  | 'u' => (mode / 0o100 % 8) * 0o111
  | 'g' => (mode / 0o10 % 8) * 0o111
  | 'o' => (mode % 8) * 0o111
  | _ => 0

def without (mode bits : Nat) : Nat := mode &&& (0o7777 ^^^ (bits &&& 0o7777))

/-- One change of a mode. Without owners, the bits of `mask` are left alone. -/
def applyRights (mask : Nat) (isDirectory : Bool) (owners : List Char) (sign : Char)
    (rights : List Char) (mode : Nat) : Nat :=
  let bits := rights.foldl (fun bits c => bits ||| rightBits mode isDirectory c) 0
  let chosen := bits &&& ownerBits owners
  let chosen := if owners.isEmpty then without chosen mask else chosen
  match sign with
  | '+' => mode ||| chosen
  | '-' => without mode chosen
  | _ =>
    let kept := if isDirectory then without (ownerBits owners) 0o6000 else ownerBits owners
    without mode kept ||| chosen

/-- The changes behind the owners up to a comma or the end, and what follows them. -/
def applyActions (mask : Nat) (isDirectory : Bool) (owners : List Char) : (fuel : Nat) →
    (mode : Nat) → List Char → Option (Nat × List Char)
  | 0, _, _ => none
  | fuel + 1, mode, text =>
    match text with
    | sign :: rest =>
      if sign = '+' ∨ sign = '-' ∨ sign = '=' then
        let rights := rest.takeWhile (fun c => "rwxXstugo".toList.contains c)
        let mode := applyRights mask isDirectory owners sign rights mode
        match rest.drop rights.length with
        | [] => some (mode, [])
        | ',' :: rest => if rest.isEmpty then none else some (mode, rest)
        | rest => applyActions mask isDirectory owners fuel mode rest
      else none
    | [] => none

/-- The mode that a list of changes makes of a mode. -/
def applySymbols? (mask : Nat) (isDirectory : Bool) : (fuel : Nat) → (mode : Nat) →
    (text : List Char) → Option Nat
  | 0, _, _ => none
  | fuel + 1, mode, text =>
    let owners := text.takeWhile (fun c => "ugoa".toList.contains c)
    match applyActions mask isDirectory owners (text.length + 1) mode (text.drop owners.length) with
    | none => none
    | some (mode, []) => some mode
    | some (mode, rest) => applySymbols? mask isDirectory fuel mode rest

/-- The mode in octal digits, or the one that changes make of `mode`. -/
def change? (mask : Nat) (isDirectory : Bool) (mode : Nat) (text : List Char) : Option Nat :=
  if !text.isEmpty ∧ text.all (fun c => '0' ≤ c ∧ c ≤ '7') then
    let n := text.foldl (fun n c => n * 8 + (c.toNat - '0'.toNat)) 0
    if 0o7777 < n then none else some n
  else applySymbols? mask isDirectory (text.length + 1) mode text

/-- The three rights of a digit. -/
def rightLetters (digit : Nat) : List Char :=
  (if digit / 4 % 2 = 1 then ['r'] else []) ++ (if digit / 2 % 2 = 1 then ['w'] else [])
    ++ (if digit % 2 = 1 then ['x'] else [])

/-- A mode as a list of what it sets. -/
def symbols (mode : Nat) : List Char :=
  'u' :: '=' :: rightLetters (mode / 0o100 % 8) ++ ',' :: 'g' :: '=' ::
    rightLetters (mode / 0o10 % 8) ++ ',' :: 'o' :: '=' :: rightLetters (mode % 8)

/-- A mode in ten characters, as lists of files show it. -/
def listing (kind : Char) (mode : Nat) : List Char :=
  let rights := fun (digit : Nat) (special : Bool) (on off : Char) =>
    [if digit / 4 % 2 = 1 then 'r' else '-', if digit / 2 % 2 = 1 then 'w' else '-',
      if special then (if digit % 2 = 1 then on else off) else if digit % 2 = 1 then 'x' else '-']
  kind :: rights (mode / 0o100 % 8) (mode / 0o4000 % 2 = 1) 's' 'S'
    ++ rights (mode / 0o10 % 8) (mode / 0o2000 % 2 = 1) 's' 'S'
    ++ rights (mode % 8) (mode / 0o1000 % 2 = 1) 't' 'T'

end Mode

end Slipway
