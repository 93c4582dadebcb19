import Slipway.Machine.Basic

/-!
# Programs on a machine

A program runs on a machine with a runner, which decides what processes do. What the program tells
and starts is kept in order.
-/

namespace Slipway

/-- What becomes of a process: its output or the failure to start it, and what it leaves of the
machine. The runner may remember things in a `σ`. -/
abbrev Runner (σ : Type) :=
  Invocation → Machine → σ → Except SystemError ProcessOutput × Machine × σ

/-- What a program tells beside its result. -/
inductive Message
  | event (event : Event)
  | problem (line : String)

structure World (σ : Type) where
  machine : Machine
  runner : σ
  /-- The processes started so far, the latest first. -/
  started : List Invocation := []
  /-- Events and problems, the latest first. -/
  messages : List Message := []
  /-- Lines for the user, the latest first. -/
  lines : List String := []

namespace World

variable {σ : Type}

/-- What an action does in a world. Time does not pass while a program runs. -/
def reply (runner : Runner σ) (w : World σ) : (action : Action) → action.Reply × World σ
  | .file action =>
    let (r, machine) := w.machine.reply action
    (r, { w with machine })
  | .start invocation =>
    let (r, machine, state) := runner invocation w.machine w.runner
    (r, { w with machine, runner := state, started := invocation :: w.started })
  | .note event => ((), { w with messages := .event event :: w.messages })
  | .print line => ((), { w with lines := line :: w.lines })
  | .complain line => ((), { w with messages := .problem line :: w.messages })
  | .clock => (0, w)

/-- Runs a program in a world. -/
def run {α : Type} (runner : Runner σ) (w : World σ) : Program α → α × World σ
  | .done a => (a, w)
  | .ask action next =>
    let (r, w) := w.reply runner action
    w.run runner (next r)

end World

end Slipway
