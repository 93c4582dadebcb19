import Slipway.Records.Eval
import Slipway.Tool.Options

/-!
# Starting programs over records

The arguments give a program, or files with one, the separator of fields and values of slots; what
follows them are the inputs.
-/

namespace Slipway.Records

open Shell (Text Eval errorText complain self)

/-- What the options say. -/
structure Request where
  separator : Option Text := none
  assignments : List Text := []
  files : List Text := []
  rest : List Text := []

def Request.add (q : Request) (c : Char) (value : Text) : Request :=
  match c with
  | 'F' => { q with separator := some value }
  | 'v' => { q with assignments := q.assignments ++ [value] }
  | 'f' => { q with files := q.files ++ [value] }
  | _ => q

def readOptions : (fuel : Nat) → Request → List Text → Except String Request
  | 0, q, args => .ok { q with rest := args }
  | fuel + 1, q, args =>
    match args with
    | [] => .ok q
    | arg :: rest =>
      if arg = "--".toList then .ok { q with rest }
      else
        match arg with
        | ['-'] => .ok { q with rest := args }
        | '-' :: c :: value =>
          if ['F', 'v', 'f', 'W'].contains c then
            match value, rest with
            | [], [] => .error ("option -" ++ String.singleton c ++ " lacks argument")
            | [], value :: rest => readOptions fuel (q.add c value) rest
            | value, rest => readOptions fuel (q.add c value) rest
          else .error ("not an option: " ++ Text.toString arg)
        | _ => .ok { q with rest := args }
/-- A message of the program about itself, and the code for it. -/
def refuse (text : String) : Eval Nat := do
  complain (messageName (← self) ++ ": " ++ text ++ "\n")
  pure 2

/-- The text of the program: what is in its files, or the first argument. -/
def sourceOf (q : Request) : Eval (Except String (Text × List Text)) := do
  match q.files with
  | [] =>
    match q.rest with
    | [] => pure (.error "")
    | source :: rest => pure (.ok (source, rest))
  | files => do
    let mut source : Text := []
    for file in files do
      match ← Shell.contentOf file with
      | .ok bytes => source := source ++ Text.ofBytes bytes
      | .error e =>
        return .error ("cannot open \"" ++ Text.toString file ++ "\" (" ++ errorText e ++ ")")
    pure (.ok (source, q.rest))

/-- The text that a message about the program begins with. -/
def refusalText (file : Option Text) (e : Refusal) : String :=
  let place := match file with
    | some name => Text.toString name ++ ": "
    | none => ""
  place ++ (if e.isPlain then "" else "line ") ++ toString e.line ++ ": " ++ e.message

/-- The table of the arguments, which count from 0. -/
def argumentTable (args : List Text) : Table :=
  args.zipIdx.foldl (fun (t : Table) (arg, i) =>
    (t.touchNumber i).set (toString i).toList (.input arg)) {}

def environmentTable (environment : List (Text × Text)) : Table :=
  environment.foldl (fun (t : Table) (name, value) => (t.touchText name).set name (.input value)) {}

/-- The store before anything was carried out. -/
def Store.initial (program : Program) (environment : List (Text × Text)) (args : List Text)
    (seed : Nat) : Store :=
  let count := program.names.length
  let s : Store := { program, shared := Array.replicate count .unset, nextTable := count, seed }
  let text (s : String) : Value := .text s.toList
  let values : List (Nat × Value) := [
    (slotNF, .number 0), (slotNR, .number 0), (slotFNR, .number 0), (slotFS, text " "),
    (slotOFS, text " "), (slotORS, text "\n"), (slotRS, text "\n"), (slotSubsep, text "\x1c"),
    (slotConvfmt, text "%.6g"), (slotOfmt, text "%.6g"),
    (slotArgc, .number (Float.ofNat args.length))]
  let s := values.foldl (fun (s : Store) (slot, v) => s.setValue slot v) s
  let s := (s.setTable slotArgv (argumentTable args)).setTable slotEnviron
    (environmentTable environment)
  program.tables.foldl (fun (s : Store) id =>
    if s.tables.contains id then s else s.setTable id {}) s

/-- The program that is known by the name of its kind. -/
def start (r : Shell.Runner) (args : List Text) : Eval Nat := do
  match readOptions (args.length + 1) {} args with
  | .error text => refuse text
  | .ok q =>
    match ← sourceOf q with
    | .error "" => do
      complain "Usage: mawk [Options] [Program] [file ...]\n"
      pure 2
    | .error text => refuse text
    | .ok (source, rest) =>
      match parseProgram source with
      | .error refusals => do
        refusals.forM fun e => do
          let _ ← refuse (refusalText q.files.getLast? e)
        pure 2
      | .ok program => do
        let p ← self
        let m := (← get).machine
        let store := Store.initial program (Tool.environmentOf p) (p.name :: rest) (m.now.toNat + p.number)
        let wrong? := q.assignments.find? fun a =>
          let name := a.takeWhile (· ≠ '=')
          name.length = a.length || !Shell.isName name
        match wrong? with
        | some a => refuse ("improper assignment: -v " ++ Text.toString a)
        | none => do
          let body : Run Unit := do
            if let some separator := q.separator then
              modify (fun s => s.setValue slotFS (.text (unescaped separator)))
            q.assignments.forM (fun a => do let _ ← assignArgument a)
            runProgram r
          let (_, s) ← (body.run.run store : Eval _)
          pure s.code

end Slipway.Records
