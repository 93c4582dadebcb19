import Slipway.Shell.Number

/-!
# Setting variables

Giving variables values and marks, and making them local to a function call.
-/

namespace Slipway.Shell

/-- What else changes with the value of a variable. -/
def Process.notice (p : Process) (name value : Text) : Process :=
  match String.ofList name with
  | "OPTIND" =>
    let index := ((number? 10 value).getD 1).toNat
    { p with optionPlace := { index := if index = 0 then 1 else index } }
  | "PATH" => { p with found := [] }
  | _ => p

def readOnlyText (name : Text) : String := name.toString ++ ": is read only"

def Process.isReadOnly (p : Process) (name : Text) : Bool :=
  ((p.bindings.lookup name).map (·.readonly)).getD false

/-- Gives a variable a value. -/
def assign (name value : Text) (exported : Bool := false) : Eval Unit := do
  let p ← self
  if p.isReadOnly name then fail (readOnlyText name)
  let exported := exported || p.has "allexport"
  modifySelf (fun p => (p.notice name value).bind name
    (fun v => { v with value := some value, exported := v.exported || exported }))

/-- Gives something a value that may be no variable. -/
def assignNamed (name value : Text) : Eval Unit := do
  if !isName name then fail (name.toString ++ ": bad variable name")
  assign name value

/-- Marks a variable, and gives it a value if there is one. -/
def mark (f : Variable → Variable) (name : Text) (value : Option Text) : Eval Unit := do
  if !isName name then fail (name.toString ++ ": bad variable name")
  if let some value := value then assign name value
  modifySelf (·.bind name f)

/-- Removes a variable. -/
def unset (name : Text) : Eval Unit := do
  if !isName name then fail (name.toString ++ ": bad variable name")
  if (← self).isReadOnly name then fail (readOnlyText name)
  modifySelf (fun p => (p.notice name []).unbind name)

/-! ## Local variables -/

def pushFrame : Eval Unit := modifySelf (fun p => { p with frames := {} :: p.frames })

/-- Puts back a variable as it was. -/
def Process.restore (p : Process) (saved : Text × Option Variable) : Process :=
  match saved with
  | (name, some old) =>
    (p.notice name (old.value.getD [])).bind name (fun _ => old)
  | (name, none) => (p.notice name []).unbind name

/-- Puts back what was made local since the last frame was pushed. -/
def popFrame : Eval Unit :=
  modifySelf fun p =>
    match p.frames with
    | [] => p
    | frame :: frames =>
      let p := frame.saved.foldl Process.restore p
      { p with frames, options := frame.options.getD p.options }

/-- Remembers a variable for the end of the call. -/
def Process.save (p : Process) (name : Text) : Process :=
  match p.frames with
  | [] => p
  | frame :: frames =>
    { p with frames := { frame with saved := (name, p.bindings.lookup name) :: frame.saved }
        :: frames }

/-- Makes a variable local, with a new value if there is one. -/
def makeLocal (name : Text) (value : Option Text) (exported : Bool := false) : Eval Unit := do
  if !isName name then fail (name.toString ++ ": bad variable name")
  modifySelf (·.save name)
  match value with
  | some value => assign name value exported
  | none => pure ()

/-- Makes the options local. -/
def saveOptions : Eval Unit :=
  modifySelf fun p =>
    match p.frames with
    | [] => p
    | frame :: frames =>
      { p with frames := { frame with options := some (frame.options.getD p.options) } :: frames }

end Slipway.Shell
