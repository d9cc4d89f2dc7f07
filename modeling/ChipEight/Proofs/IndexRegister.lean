import ChipEight.Proofs.CycleFaults
import ChipEight.Proofs.Redraw
import Mathlib.Algebra.BigOperators.Group.List.Basic
import Mathlib.Algebra.Order.Ring.Nat

/-!
# The index register does not wrap

I is moved on by additions and by reads, and stops at the largest word instead of starting again at
zero. Memory ends long before that, so an I that has left memory stays outside until an instruction
gives it a new value, and until then it is of no use.

* `Instruction.toNat_iAfter`, `Machine.index_call`: what one instruction and one call add to I.
* `Machine.index_calls`: what a history adds. To stop at the limit on the way comes to the same as
  to stop there in the end.
* `Machine.OutOfReach`: what can still be done with an I outside of memory.
* `Machine.index_never_wraps`: the three together.
-/

namespace ChipEight

namespace Instruction

/-- Whether an instruction gives I a new value, whatever it was. -/
def replacesIndex : Instruction → Bool
  | loadIndex _ | loadGlyph _ => true
  | _ => false

/-- How far an instruction moves I on. -/
def indexGain (s : State) : Instruction → Nat
  | addIndex x => (s.v.get x).toNat
  | read x => x.val + 1
  | _ => 0

/-- **An instruction moves I on by its gain**, but not past the largest word. -/
theorem toNat_iAfter {i : Instruction} (h : i.replacesIndex = false) (s : State) :
    (i.iAfter s).toNat = min (s.i.toNat + i.indexGain s) 0xFFFF := by
  have hword := s.i.toNat_lt
  have hstays : s.i.toNat = min (s.i.toNat + 0) 0xFFFF := by omega
  cases i with
  | loadIndex | loadGlyph => cases h
  | addIndex | read => exact s.toNat_indexPlus _
  | _ => exact hstays

end Instruction

namespace Machine

/-- The gains of a history: how far each of its successful cycles moves I on, in order. -/
def indexGains (m : Machine) (cs : List Call) : List Nat :=
  (m.completed cs).map fun e => e.2.indexGain e.1

/-- No cycle of the history succeeds with an instruction that gives I a new value. -/
def KeepsIndex (m : Machine) (cs : List Call) : Prop :=
  ∀ e ∈ m.completed cs, e.2.replacesIndex = false

variable {m : Machine}

/-! ## Gains -/

theorem KeepsIndex.of_prefix {ds cs : List Call} (h : m.KeepsIndex cs) (hds : ds <+: cs) :
    m.KeepsIndex ds := by
  obtain ⟨es, rfl⟩ := hds
  intro e he
  refine h e ?_
  rw [completed_append]
  exact List.mem_append_left _ he

theorem indexGains_append (m : Machine) (cs ds : List Call) :
    m.indexGains (cs ++ ds) = m.indexGains cs ++ (m.calls cs).1.indexGains ds := by
  unfold indexGains
  rw [completed_append, List.map_append]

/-- **One call** moves I on by the gain of what it carries out, but not past the largest word. -/
theorem index_call {c : Call} (h : m.KeepsIndex [c]) :
    (m.call c).1.state.i.toNat = min (m.state.i.toNat + (m.indexGains [c]).sum) 0xFFFF := by
  have hword := m.state.i.toNat_lt
  unfold KeepsIndex at h
  unfold indexGains
  rcases call_cases m c with ⟨i, hc, -, hm⟩ | ⟨hc, memory, keys, redraw, hm⟩
  · have hcompleted : m.completed [c] = [(m.state, i)] := by rw [completed_cons, hc]; rfl
    rw [hcompleted] at h ⊢
    have hi : i.replacesIndex = false := h (m.state, i) (List.mem_singleton_self _)
    rw [hm, List.map_singleton, List.sum_singleton]
    exact Instruction.toNat_iAfter hi m.state
  · have hcompleted : m.completed [c] = [] := by rw [completed_cons, hc]; rfl
    have hsame : (m.call c).1.state.i = m.state.i := by
      rw [show (m.call c).1.state = _ from congrArg Core.state hm]
    rw [hcompleted, hsame, List.map_nil, List.sum_nil]
    omega

/-- **A history moves I on by the sum of its gains**, but not past the largest word. -/
theorem index_calls {cs : List Call} (h : m.KeepsIndex cs) :
    (m.calls cs).1.state.i.toNat = min (m.state.i.toNat + (m.indexGains cs).sum) 0xFFFF := by
  have hword := m.state.i.toNat_lt
  induction cs using List.reverseRecOn with
  | nil =>
    have hstays : m.state.i.toNat = min (m.state.i.toNat + 0) 0xFFFF := by omega
    exact hstays
  | append_singleton cs c ih =>
    have hbefore := ih (h.of_prefix ⟨[c], rfl⟩)
    have hlast : (m.calls cs).1.KeepsIndex [c] := by
      intro e he
      refine h e ?_
      rw [completed_append]
      exact List.mem_append_right _ he
    have hcall := index_call hlast
    rw [calls_concat, indexGains_append, List.sum_append]
    -- the sum may have been cut off before the last gain came
    omega

/-! ## Outside of memory -/

/-- I is outside of memory, and the next cycle can do nothing with it. -/
structure OutOfReach (m : Machine) : Prop where
  beyond : 4096 ≤ m.state.i.toNat
  /-- Digits, stores, reads and draws fail, unless they ask for no byte at all. -/
  refused : ∀ i len, i.asks? = some len → 0 < len → m.executes? ≠ some i
  memory : m.step.1.state.memory = m.state.memory
  /-- Only clearing still changes the screen. -/
  screen : m.executes? ≠ some .clear → m.step.1.state.screen = m.state.screen

/-- What asks for a byte outside of memory is not carried out. -/
theorem executes?_ne_of_asks? (h : 4096 ≤ m.state.i.toNat) {i : Instruction} {len : Nat}
    (hasks : i.asks? = some len) (hpos : 0 < len) : m.executes? ≠ some i := by
  intro hi
  have hfault := (executes?_eq_some_iff.1 hi).2
  rw [Instruction.fault?_of_asks? hasks, State.overrun?, if_neg] at hfault
  · cases hfault
  · have hsize : Memory.size = 4096 := rfl
    omega

/-- **Out there I is of no use.** An empty sprite at the very end of memory can be drawn, but it
changes no pixel. -/
theorem outOfReach_of_le (h : 4096 ≤ m.state.i.toNat) : m.OutOfReach := by
  refine ⟨h, fun i len => executes?_ne_of_asks? h, ?_, fun hclear => ?_⟩
  · rw [step_eq_elim]
    cases hi : m.executes? with
    | none => rfl
    | some i =>
      cases i with
      | bcd x => exact absurd hi (executes?_ne_of_asks? h rfl (by decide))
      | store x => exact absurd hi (executes?_ne_of_asks? h rfl (Nat.succ_pos _))
      | _ => rfl
  · rw [step_eq_elim]
    cases hi : m.executes? with
    | none => rfl
    | some i =>
      cases i with
      | clear => exact absurd hi hclear
      | draw x y rows =>
        have hempty : rows.val = 0 := by
          by_contra hpos
          exact executes?_ne_of_asks? h rfl (Nat.pos_of_ne_zero hpos) hi
        change (m.state.drawn x y rows).1 = m.state.screen
        rw [State.drawn, hempty]
        rfl
      | _ => rfl

/-! ## What that comes to -/

/-- **I does not wrap.** Until it is given a new value, I is what it was plus the sum of its gains,
in whatever order they come, or the largest word if that is less. So it never decreases, and once
it has left memory it is out of reach. -/
theorem index_never_wraps (m : Machine) (cs : List Call) (h : m.KeepsIndex cs) :
    (m.calls cs).1.state.i.toNat = min (m.state.i.toNat + (m.indexGains cs).sum) 0xFFFF ∧
    (∀ (m' : Machine) (cs' : List Call), m'.KeepsIndex cs' → m'.state.i = m.state.i →
      (m'.indexGains cs').Perm (m.indexGains cs) →
      (m'.calls cs').1.state.i = (m.calls cs).1.state.i) ∧
    ∀ ds es, ds <+: es → es <+: cs →
      (m.calls ds).1.state.i.toNat ≤ (m.calls es).1.state.i.toNat ∧
      (4096 ≤ (m.calls ds).1.state.i.toNat → (m.calls es).1.OutOfReach) := by
  have hindex := index_calls h
  refine ⟨hindex, fun m' cs' h' hsame hperm => ?_, fun ds es hds hes => ?_⟩
  · have hindex' := index_calls h'
    rw [hsame, hperm.sum_eq, ← hindex] at hindex'
    exact UInt16.toNat_inj.1 hindex'
  · have hle : (m.calls ds).1.state.i.toNat ≤ (m.calls es).1.state.i.toNat := by
      have hshort := index_calls (h.of_prefix (hds.trans hes))
      have hlong := index_calls (h.of_prefix hes)
      obtain ⟨rest, rfl⟩ := hds
      rw [indexGains_append, List.sum_append] at hlong
      omega
    exact ⟨hle, fun hout => outOfReach_of_le (Nat.le_trans hout hle)⟩

/-- I is at the last address and moves on by one. An empty sprite can still be drawn there, but the
digits behind it have no room. -/
theorem index_never_wraps_past_end :
    let program : List UInt8 := [0x60, 0x01, 0xAF, 0xFF, 0xF0, 0x1E, 0xD0, 0x00, 0xF0, 0x33]
    let cs : List Call := [.step, .setKey 3 true, .step]
    let m := ((fresh (.cycling #[])).calls [.load program, .step, .step]).1
    m.KeepsIndex cs ∧ (m.calls cs).1.state.i.toNat = 0x1000 ∧ (m.calls cs).1.OutOfReach := by
  intro program cs m
  have hrun : (∀ e ∈ m.completed cs, e.2.replacesIndex = false) ∧ m.state.i.toNat = 0xFFF ∧
      m.indexGains cs = [1, 0] ∧ (m.calls [.step]).1.state.i.toNat = 0x1000 := by
    decide +kernel
  -- from here on the run must not be computed again
  clear_value m
  obtain ⟨hkeeps, hlast, hgains, hpast⟩ := hrun
  obtain ⟨hindex, -, hreach⟩ := index_never_wraps m cs hkeeps
  rw [hlast, hgains] at hindex
  obtain ⟨-, hout⟩ := hreach [.step] cs ⟨[.setKey 3 true, .step], rfl⟩ (List.prefix_refl cs)
  exact ⟨hkeeps, hindex, hout (Nat.le_of_eq hpast.symm)⟩

end Machine

end ChipEight
