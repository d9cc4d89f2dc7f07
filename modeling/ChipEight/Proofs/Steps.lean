import ChipEight.Proofs.Bounds
import ChipEight.Proofs.Latches
import Mathlib.Data.ENat.Lattice
import Mathlib.Data.Nat.Count

/-!
# Cycle after cycle

A machine left to itself: the machine after so many cycles (`Machine.steps`), the first cycle that
fails (`Machine.firstFailure`), and how many of the first cycles draw or start a tone.

* `succeeds_of_lt_firstFailure`, `fails_at_firstFailure`: what the first failure is.
* `inBounds_steps`, `keys_steps`: what cycles keep.
-/

namespace ChipEight

/-- Whether an instruction starts a tone. -/
def Instruction.sounds (s : State) : Instruction → Bool
  | setSound x => s.v.get x != 0
  | _ => false

/-- As long as the sound timer rests, it is set exactly by what starts a tone. -/
theorem Instruction.soundAfter_pos_iff {s : State} (h : s.sound = 0) (i : Instruction) :
    i.soundAfter s > 0 ↔ i.sounds s = true := by
  cases i with
  | setSound x =>
    simp only [soundAfter, sounds, bne_iff_ne]
    split <;> simp [*]
  | _ => simp [soundAfter, sounds, h]

namespace Machine

/-- The machine after a number of cycles, whether they fail or not. -/
def steps (m : Machine) : Nat → Machine
  | 0 => m
  | n + 1 => (m.steps n).step.1

open Classical in
/-- The number of cycles before the first that fails; infinite if none does. -/
noncomputable def firstFailure (m : Machine) : ℕ∞ :=
  if h : ∃ k, (m.steps k).step.2.fault? ≠ none then (Nat.find h : ℕ∞) else ⊤

/-- Whether the next cycle draws on the screen. -/
def draws (m : Machine) : Bool := m.executes?.any Instruction.draws

/-- Whether the next cycle starts a tone. -/
def sounds (m : Machine) : Bool := m.executes?.any fun i => i.sounds m.state

/-- How many of the first cycles draw on the screen. -/
def drawings (m : Machine) (n : Nat) : Nat := Nat.count (fun j => (m.steps j).draws) n

/-- How many of the first cycles start a tone. -/
def tones (m : Machine) (n : Nat) : Nat := Nat.count (fun j => (m.steps j).sounds) n

variable {m : Machine}

theorem succeeds_of_lt_firstFailure {j : Nat} (h : (j : ℕ∞) < m.firstFailure) :
    (m.steps j).step.2.fault? = none := by
  by_contra hfail
  have hex : ∃ k, (m.steps k).step.2.fault? ≠ none := ⟨j, hfail⟩
  rw [firstFailure, dif_pos hex, Nat.cast_lt] at h
  exact Nat.find_min hex h hfail

theorem fails_at_firstFailure {k : Nat} (h : m.firstFailure = k) :
    (m.steps k).step.2.fault? ≠ none := by
  unfold firstFailure at h
  split at h
  · rename_i hex
    rw [← Nat.cast_inj.1 h]
    exact Nat.find_spec hex
  · exact absurd h (ENat.top_ne_natCast k)

/-- The first failure is the only one with nothing but successes before it. -/
theorem firstFailure_eq {k : Nat} (hfail : (m.steps k).step.2.fault? ≠ none)
    (hbefore : ∀ j < k, (m.steps j).step.2.fault? = none) : m.firstFailure = k := by
  have hex : ∃ k, (m.steps k).step.2.fault? ≠ none := ⟨k, hfail⟩
  rw [firstFailure, dif_pos hex, Nat.cast_inj, Nat.find_eq_iff]
  exact ⟨hfail, fun j hj => not_not.2 (hbefore j hj)⟩

theorem executes_of_success (h : m.step.2.fault? = none) : ∃ i, m.executes? = some i := by
  rw [fault?_step] at h
  cases hi : m.executes? with
  | some i => exact ⟨i, rfl⟩
  | none =>
    obtain ⟨e, he⟩ := executes?_eq_none_iff.1 hi
    rw [h] at he
    cases he

theorem drawings_succ (m : Machine) (n : Nat) :
    m.drawings (n + 1) = m.drawings n + (m.steps n).draws.toNat := by
  unfold drawings
  rw [Nat.count_succ]
  cases (m.steps n).draws <;> rfl

theorem tones_succ (m : Machine) (n : Nat) :
    m.tones (n + 1) = m.tones n + (m.steps n).sounds.toNat := by
  unfold tones
  rw [Nat.count_succ]
  cases (m.steps n).sounds <;> rfl

/-- Cycles keep the bounds. -/
theorem inBounds_steps (h : m.state.InBounds) (n : Nat) : (m.steps n).state.InBounds := by
  induction n with
  | zero => exact h
  | succ n ih => exact inBounds_call ih .step

/-- No cycle moves a key. -/
theorem keys_steps (m : Machine) (n : Nat) : (m.steps n).state.keys = m.state.keys := by
  induction n with
  | zero => rfl
  | succ n ih =>
    have hstep : (m.steps n).step.1.state.keys = (m.steps n).state.keys := by
      cases hi : (m.steps n).executes? with
      | some i => rw [step_of_executes hi, state_after]; rfl
      | none =>
        obtain ⟨e, he⟩ := executes?_eq_none_iff.1 hi
        rw [(step_of_fault he).1]
    exact hstep.trans ih

end Machine

end ChipEight
