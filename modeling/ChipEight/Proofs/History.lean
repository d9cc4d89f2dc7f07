import ChipEight.Proofs.Cycle
import Mathlib.Data.List.Induction

/-!
# What a history has met

Many things that a machine shows are matters of the past: the last write to an address, the last
time the screen was shown, the speaker that was linked. They are told from the calls of the history,
each with the machine that it met.

* `step_eq_elim`: a cycle comes to the machine after its instruction, or leaves the machine as it
  was.
* `load_eq_memory`: loading changes nothing but memory.
* `Machine.visits`: the calls of a history with their machines, in order.
* `calls_concat`, `visits_concat`: one call more in the end, for inductions on what came last.
* `calls_last`: what calls set or leave alone is as it was last set.
* `calls_keep`: what only some instructions change stays as it is without them.
-/

namespace ChipEight

namespace Machine

theorem step_eq_elim (m : Machine) : m.step.1 = m.executes?.elim m m.after := by
  cases h : m.executes? with
  | some i => exact step_of_executes h
  | none =>
    obtain ⟨e, he⟩ := executes?_eq_none_iff.1 h
    exact (step_of_fault he).1

theorem load_eq_memory (m : Machine) (program : List UInt8) :
    (m.load program).1 = { m with state.memory := (m.load program).1.state.memory } := by
  unfold load
  split <;> rfl

/-- The calls of a history, each with the machine that it meets. -/
def visits (m : Machine) : List Call → List (Machine × Call)
  | [] => []
  | c :: cs => (m, c) :: (m.call c).1.visits cs

variable (m : Machine) (cs : List Call) (c : Call)

theorem calls_concat : (m.calls (cs ++ [c])).1 = ((m.calls cs).1.call c).1 := by
  rw [calls_append]
  rfl

theorem visits_concat : m.visits (cs ++ [c]) = m.visits cs ++ [((m.calls cs).1, c)] := by
  induction cs generalizing m with
  | nil => rfl
  | cons d cs ih => exact congrArg ((m, d) :: ·) (ih (m.call d).1)

/-- **The last word counts.** If a call either sets what is looked at or leaves it as it was, then
after a history it is as the last call that set it has set it. -/
theorem calls_last {α : Type} (view : Machine → α) {set? : Call → Option α}
    (hcall : ∀ m c, view (m.call c).1 = (set? c).getD (view m)) :
    view (m.calls cs).1 = (cs.filterMap set?).getLast?.getD (view m) := by
  induction cs using List.reverseRecOn with
  | nil => rfl
  | append_singleton cs c ih =>
    rw [calls_concat, hcall, ih, List.filterMap_append]
    cases h : set? c with
    | none => simp [h]
    | some a => simp [h]

variable {m cs}

/-- **What is kept by all but some instructions** is kept by a history that carries out none of
these. -/
theorem calls_keep {α : Type} (view : Machine → α) (allowed : State → Instruction → Prop)
    (hcall : ∀ m c, (∀ i, m.completes? c = some i → allowed m.state i) →
      view (m.call c).1 = view m)
    (h : ∀ e ∈ m.completed cs, allowed e.1 e.2) : view (m.calls cs).1 = view m := by
  induction cs generalizing m with
  | nil => rfl
  | cons c cs ih =>
    rw [calls_cons, ih fun e he => h e (List.mem_append_right _ he)]
    exact hcall m c fun i hi => h _ (mem_completed_of_completes? hi cs)

end Machine

end ChipEight
