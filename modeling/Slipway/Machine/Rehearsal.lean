import Slipway.Machine.Edit

/-!
# Rehearsals

A runner whose answers are written down in advance. Each answer is used once and may come with
edits to the machine.
-/

namespace Slipway

structure Response where
  edits : List Edit
  result : Except SystemError ProcessOutput

structure Rehearsal where
  responses : List Response := []
  /-- Whether an edit could not be made. -/
  broken : Bool := false

/-- Answers with the first response that is left. -/
def Rehearsal.runner : Runner Rehearsal := fun _ m r =>
  match r.responses with
  | [] => (.error (.described .other "runner exhausted"), m, r)
  | response :: rest =>
    match m.edit? response.edits with
    | some m => (response.result, m, { r with responses := rest })
    | none => (response.result, m, { responses := rest, broken := true })

end Slipway
