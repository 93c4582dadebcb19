import Slipway.Rich.Builtin.Input

/-!
# Redirections of rich scripts

Having descriptors lead somewhere else, one redirection after the other. A message tells which of
them cannot be carried out.
-/

namespace Slipway.Rich

open Shell (Text Eval self modifySelf naturalText Opening openFile newInput)

/-- What stands behind `>&` or `<&` in the end. -/
inductive CopySource
  | closed
  | descriptor (number : Nat) (isMoved : Bool)
  | word (text : Text)

def copySource (text : Text) : CopySource :=
  let digits := if text.getLast? = some '-' then text.dropLast else text
  if text = ['-'] then .closed
  else if !digits.isEmpty ∧ digits.all Char.isDigit then
    .descriptor (Shell.valueOfDigits 10 digits) (digits.length ≠ text.length)
  else .word text

/-- The lowest descriptor that is free, from ten on. -/
def freeFrom : (fuel : Nat) → (candidate : Nat) → Eval Nat
  | 0, candidate => pure candidate
  | fuel + 1, candidate => do
    if ((← self).descriptors.lookup candidate).isSome then freeFrom fuel (candidate + 1)
    else pure candidate

/-- The descriptor that a redirection is about, or none if a variable does not name one. -/
def descriptorOf (target : Redirected) (usual : Nat) (closes : Bool) : Eval (Option Nat) := do
  match target with
  | .usual => pure (some usual)
  | .descriptor n => pure (some n)
  | .free name =>
    if closes then
      let value ← text? (String.ofList name)
      pure ((value.filter (fun v => !v.isEmpty && v.all Char.isDigit)).map (Shell.valueOfDigits 10))
    else
      let n ← freeFrom 100 10
      putText name (naturalText n)
      pure (some n)

section

variable (r : Shell.Runner)

/-- The name of the file that a word is, if it is one name. -/
def fileNameOf (word : Word) : Eval (Option Text) := do
  match ← expandFields r word with
  | [name] => pure (some name)
  | _ => pure none

/-- Has a descriptor lead to a channel. What is wrong is told by a message. -/
def connectTo (target : Redirected) (usual id : Nat) : Eval (Option String) := do
  match ← descriptorOf target usual false with
  | some n => do
    modifySelf (·.connect n (some id))
    pure none
  | none => pure (some "")

/-- Opens a file for descriptors. -/
def redirectToFile (opening : Opening) (name : Text) (connect : Nat → Eval (Option String)) :
    Eval (Option String) := do
  match ← openFile opening name with
  | .ok id => connect id
  | .error e =>
    if opening = .fresh ∧ e = .alreadyThere then
      pure (some (Text.toString name ++ ": cannot overwrite existing file"))
    else pure (some (Text.toString name ++ ": " ++ Shell.errorText e))

/-- Has the output and the messages lead to one place. -/
def connectBoth (id : Nat) : Eval (Option String) := do
  modifySelf (fun p => (p.connect 1 (some id)).connect 2 (some id))
  pure none

/-- Carries out a redirection that copies a descriptor. -/
def redirectCopy (target : Redirected) (kind : RedirectKind) (source : Text) (word : Word) :
    Eval (Option String) := do
  let usual := if kind = .copyInput then 0 else 1
  let ambiguous : Eval (Option String) := pure (some (Text.toString source ++ ": ambiguous redirect"))
  match (← fileNameOf r word).map copySource with
  | none => ambiguous
  | some .closed => do
    match ← descriptorOf target usual true with
    | some n => do
      modifySelf (·.connect n none)
      pure none
    | none =>
      match target with
      | .free name => pure (some (Text.toString name ++ ": Bad file descriptor"))
      | _ => pure none
  | some (.descriptor n isMoved) => do
    match (← get).channel? n with
    | some id => do
      let problem ← connectTo target usual id
      if isMoved then modifySelf (·.connect n none)
      pure problem
    | none =>
      let isWritten := source.all (fun c => c.isDigit || c = '-')
      let shown : Text := match target with
        | .descriptor m => if isWritten then naturalText n
          else if m = usual then source else naturalText m
        | _ => if isWritten then naturalText n else source
      pure (some (Text.toString shown ++ ": Bad file descriptor"))
  | some (.word name) =>
    let isOutput : Bool := match target with
      | .usual => kind = .copyOutput
      | .descriptor 1 => kind = .copyOutput
      | _ => false
    if isOutput then redirectToFile .write name connectBoth else ambiguous

/-- Carries out a redirection, and tells what is wrong with it. -/
def redirect (redirect : Redirect) : Eval (Option String) := do
  let .mk target kind source word := redirect
  let file (usual : Nat) (opening : Text → Eval Opening) : Eval (Option String) := do
    match ← fileNameOf r word with
    | none => pure (some (Text.toString source ++ ": ambiguous redirect"))
    | some name => do redirectToFile (← opening name) name (connectTo target usual)
  let toBoth (opening : Opening) : Eval (Option String) := do
    match ← fileNameOf r word with
    | none => pure (some (Text.toString source ++ ": ambiguous redirect"))
    | some name => redirectToFile opening name connectBoth
  match kind with
  | .input => file 0 (fun _ => pure .read)
  | .output => file 1 Shell.openingForOutput
  | .replacing => file 1 (fun _ => pure .write)
  | .append => file 1 (fun _ => pure .append)
  | .both => file 0 (fun _ => pure .both)
  | .all => toBoth .write
  | .appendAll => toBoth .append
  | .document _ _ _ => do
    let text ← textOfParts r { quoted := true } word
    connectTo target 0 (← newInput text.toBytes)
  | .line => do
    let text ← expandText r word
    connectTo target 0 (← newInput (text ++ ['\n']).toBytes)
  | kind => redirectCopy r target kind source word

/-- Carries out redirections up to the first that fails, and tells whether all could be. -/
def redirectAll : List Redirect → Eval Bool
  | [] => pure true
  | first :: rest => do
    match ← redirect r first with
    | none => redirectAll rest
    | some message => do
      warn message
      pure false

end

/-- The descriptors as they were before, with those that variables took the numbers of. -/
def restoreDescriptors (before : List (Nat × Nat)) (redirects : List Redirect) : Eval Unit := do
  let taken ← redirects.filterMapM fun (.mk target _ _ _) => do
    match target with
    | .free name => do
      let value ← text? (String.ofList name)
      pure (value.map (Shell.valueOfDigits 10))
    | _ => pure none
  let now := (← self).descriptors
  let kept := taken.filterMap (fun n => (now.lookup n).map (n, ·))
  let others := before.filter (fun (e : Nat × Nat) => !taken.contains e.1)
  modifySelf (fun p => { p with descriptors := kept ++ others })

end Slipway.Rich
