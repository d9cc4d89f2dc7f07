import ChipEight.Random.Source
import ChipEight.State

/-!
# Cores and actions on them

A core is a state with the random source that its instructions draw on. Instructions are actions
(`Exec`): they read and change the state, take random words, and may fail, in which case the core
stays as the action has left it.
-/

namespace ChipEight

/-- A state and the random source that its instructions draw on. -/
structure Core where
  state : State := .fresh
  source : Random.Source

/-- An action on a core that may fail; a failure does not undo anything. -/
abbrev Exec := EStateM Fault Core

namespace Exec

/-- The state as it is now. -/
def state : Exec State := do return (← get).state

/-- Changes the state. -/
def update (f : State → State) : Exec Unit := modify fun c => { c with state := f c.state }

/-- Takes the next random word. -/
def randomWord : Exec UInt32 :=
  modifyGet fun c => let (w, source) := c.source.next; (w, { c with source })

/-- Fails if an access was refused. -/
def attempt {α : Type} : Except Fault α → Exec α
  | .ok a => pure a
  | .error e => throw e

section Run

variable {α : Type} (c : Core)

@[simp] theorem run_state : state.run c = .ok c.state c := rfl

@[simp] theorem run_update (f : State → State) :
    (update f).run c = .ok () { c with state := f c.state } := rfl

@[simp] theorem run_randomWord :
    randomWord.run c = .ok (c.source.word c.source.taken) { c with source := c.source.next.2 } :=
  rfl

@[simp] theorem run_attempt_ok (a : α) : (attempt (.ok a)).run c = .ok a c := rfl

@[simp] theorem run_attempt_error (e : Fault) :
    (attempt (.error e : Except Fault α)).run c = .error e c := rfl

end Run

end Exec

end ChipEight
