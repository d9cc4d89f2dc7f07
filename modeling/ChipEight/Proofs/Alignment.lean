import ChipEight.Proofs.CallStack
import ChipEight.Proofs.History
import ChipEight.Proofs.StraightLine
import Mathlib.Algebra.Ring.Parity

/-!
# Even addresses

Programs start at an even address, and every instruction is two bytes long. So a machine stays at
even addresses until a jump leads away from them. Returns are what makes this more than a matter of
one cycle: they go where a call came from, however long ago that was.

* `State.Aligned`: the program counter and the open calls are at even addresses.
* `even_pcAfter_iff`: from there an instruction leads to an even address, unless it jumps to an odd
  one.
* `even_live_call`, `even_pc_call_iff`: what one call does to them.
* `aligned_calls`, `aligned_of_even`: what a history does.
* `aligned_until_odd_jump`: what is odd first is the program counter, and what makes it so is a
  jump.
-/

namespace ChipEight

/-- The address that an instruction jumps to, if it does. A return only goes back, and a skip only
goes on. -/
def Instruction.target? (s : State) : Instruction → Option Nat
  | jump a | call a => some a.val
  | jumpOffset a => some (((s.v.get baseRegister).toNat + a.val) % 4096)
  | _ => none

/-- The program counter and the open calls are at even addresses. -/
structure State.Aligned (s : State) : Prop where
  pc : Even s.pc.toNat
  live : ∀ p ∈ s.stack.live, Even p.toNat

/-- The program counter has 16 bits, and what it loses at the end is even. -/
theorem even_add_iff {p n : UInt16} (hn : Even n.toNat) : Even (p + n).toNat ↔ Even p.toNat := by
  rw [Nat.even_iff] at *
  rw [Nat.even_iff, UInt16.toNat_add]
  omega

/-- The latest open call is one of the live ones. -/
theorem Stack.top_mem_live {s : Stack} (h : 0 < s.depth ∧ s.depth ≤ capacity) :
    s.top ∈ s.live := by
  have hpop := pop?_eq s
  rw [if_pos h] at hpop
  rw [live_pop? hpop]
  exact List.mem_concat_self

namespace Instruction

variable {s : State} {i : Instruction}

theorem toNat_pcAfter_of_target? {t : Nat} (h : i.target? s = some t) :
    (i.pcAfter s).toNat = t := by
  cases i with
  | jump a | call a =>
    have ha := a.isLt
    cases h
    rw [pcAfter, UInt16.toNat_ofNat']
    omega
  | jumpOffset a =>
    cases h
    rw [pcAfter, UInt16.toNat_ofNat']
    omega
  | _ => cases h

/-- **From even addresses an instruction leads to an even one**, unless it jumps to an odd one. -/
theorem even_pcAfter_iff (h : s.Aligned) (hf : i.fault? s = none) :
    Even (i.pcAfter s).toNat ↔ ∀ t, i.target? s = some t → Even t := by
  cases ht : i.target? s with
  | some t => simp [toNat_pcAfter_of_target? ht]
  | none =>
    refine iff_of_true ?_ (by simp)
    have hnext : Even (s.pc + 2).toNat := (even_add_iff (by decide)).2 h.pc
    cases i with
    | jump | call | jumpOffset => cases ht
    | ret =>
      -- the call that it goes behind was at an even address
      exact (even_add_iff (by decide)).2 (h.live _ (Stack.top_mem_live (open_of_ret hf)))
    | skip test =>
      rw [pcAfter]
      split
      · exact (even_add_iff (by decide)).2 h.pc
      · exact hnext
    | waitKey x =>
      rw [pcAfter]
      split
      · exact h.pc
      · exact hnext
    | _ => exact hnext

end Instruction

namespace Machine

/-- The address that a call jumps to: none unless it is a cycle that succeeds, with an instruction
that jumps. -/
def jumps? (m : Machine) (c : Call) : Option Nat := (m.completes? c).bind (·.target? m.state)

variable {m : Machine}

/-! ## One call -/

/-- **The open calls stay at even addresses**, wherever a jump may lead. -/
theorem even_live_call (h : m.state.Aligned) (c : Call) :
    ∀ p ∈ (m.call c).1.state.stack.live, Even p.toNat := by
  rcases stack_call_cases m c with ⟨a, -, hl⟩ | ⟨-, q, hl, -⟩ | ⟨-, -, hs⟩
  · rw [hl]
    intro p hp
    rcases List.mem_append.1 hp with hold | hnew
    · exact h.live p hold
    · rw [List.mem_singleton.1 hnew]
      exact h.pc
  · intro p hp
    exact h.live p (hl ▸ List.mem_append_left _ hp)
  · rw [hs]
    exact h.live

/-- **The program counter stays even**, unless the call jumps to an odd address. -/
theorem even_pc_call_iff (h : m.state.Aligned) (c : Call) :
    Even (m.call c).1.state.pc.toNat ↔ ∀ t, m.jumps? c = some t → Even t := by
  unfold jumps?
  rcases call_cases m c with ⟨i, hc, hi, hm⟩ | ⟨hc, memory, keys, redraw, hm⟩
  · rw [hc, hm, state_after]
    exact Instruction.even_pcAfter_iff h (executes?_eq_some_iff.1 hi).2
  · rw [hc, show (m.call c).1.state = _ from congrArg Core.state hm]
    exact iff_of_true h.pc (by simp)

theorem toNat_pc_of_jumps? {c : Call} {t : Nat} (h : m.jumps? c = some t) :
    (m.call c).1.state.pc.toNat = t := by
  obtain ⟨i, hc, ht⟩ := Option.bind_eq_some_iff.1 h
  obtain ⟨rfl, hi⟩ := completes?_eq_some_iff.1 hc
  change m.step.1.state.pc.toNat = t
  rw [step_of_executes hi, state_after]
  exact Instruction.toNat_pcAfter_of_target? ht

/-! ## Histories -/

/-- **Without jumps to odd addresses a history stays at even ones.** -/
theorem aligned_calls (h : m.state.Aligned) {cs : List Call}
    (heven : ∀ v ∈ m.visits cs, ∀ t, v.1.jumps? v.2 = some t → Even t) :
    (m.calls cs).1.state.Aligned := by
  induction cs generalizing m with
  | nil => exact h
  | cons c cs ih =>
    have hpc := (even_pc_call_iff h c).2 (heven (m, c) List.mem_cons_self)
    exact ih ⟨hpc, even_live_call h c⟩ fun v hv => heven v (List.mem_cons_of_mem _ hv)

/-- The open calls are at even addresses as long as the program counter was. -/
theorem aligned_of_even (h : m.state.Aligned) {cs : List Call}
    (heven : ∀ ds, ds <+: cs → Even (m.calls ds).1.state.pc.toNat) :
    (m.calls cs).1.state.Aligned := by
  induction cs generalizing m with
  | nil => exact h
  | cons c cs ih =>
    have hpc : Even (m.call c).1.state.pc.toNat := heven [c] ⟨cs, rfl⟩
    exact ih ⟨hpc, even_live_call h c⟩ fun ds hds =>
      heven (c :: ds) (List.cons_prefix_cons.2 ⟨rfl, hds⟩)

/-- What was met on the way was met in the end. -/
theorem visits_subset {ds cs : List Call} (h : ds <+: cs) : m.visits ds ⊆ m.visits cs := by
  obtain ⟨es, rfl⟩ := h
  induction ds generalizing m with
  | nil => exact List.nil_subset _
  | cons c ds ih =>
    intro v hv
    rcases List.mem_cons.1 hv with rfl | hlater
    · exact List.mem_cons_self
    · exact List.mem_cons_of_mem _ (ih hlater)

/-! ## What that comes to -/

/-- The machine is at even addresses, and so is whatever it fetches. -/
structure AtEven (m : Machine) : Prop extends m.state.Aligned where
  /-- If there is a word to fetch, the next cycle obeys it, and it is one of the 2048 that memory is
  divided into. -/
  fetched : ∀ op, m.state.memory.word m.state.pc.toNat = .ok op →
    m.step = m.obey op ∧
      ∃ k < 2048, m.state.pc.toNat = 2 * k ∧ m.state.memory.word (2 * k) = .ok op

theorem AtEven.of_aligned (h : m.state.Aligned) : m.AtEven := by
  refine ⟨h, fun op hop => ⟨step_eq_obey hop, ?_⟩⟩
  have hin : m.state.pc.toNat + 2 ≤ Memory.size := Memory.word_eq_ok_iff.1 ⟨op, hop⟩
  obtain ⟨k, hk⟩ := h.pc
  rw [← Nat.two_mul] at hk
  have hlt : k < 2048 := by
    simp only [Memory.size] at hin
    omega
  exact ⟨k, hlt, hk, hk ▸ hop⟩

theorem aligned_fresh (source : Random.Source) : (fresh source).state.Aligned where
  pc := ⟨0x100, rfl⟩
  live _ hp := absurd hp List.not_mem_nil

/-- **A machine stays at even addresses until it jumps to an odd one.** If all jumps of a history,
calls among them, lead to even addresses, then the program counter and the open calls are even all
the time, and so is what is fetched. Conversely, as long as the program counter was even, a call
makes it odd exactly if it jumps to an odd address. -/
theorem aligned_until_odd_jump (source : Random.Source) :
    (∀ cs, (∀ v ∈ (fresh source).visits cs, ∀ t, v.1.jumps? v.2 = some t → Even t) →
      ∀ ds, ds <+: cs → ((fresh source).calls ds).1.AtEven) ∧
    ∀ cs c, (∀ ds, ds <+: cs → Even ((fresh source).calls ds).1.state.pc.toNat) →
      (Odd ((fresh source).calls (cs ++ [c])).1.state.pc.toNat ↔
        ∃ t, ((fresh source).calls cs).1.jumps? c = some t ∧ Odd t ∧
          ((fresh source).calls (cs ++ [c])).1.state.pc.toNat = t) := by
  refine ⟨fun cs heven ds hds => ?_, fun cs c heven => ?_⟩
  · exact .of_aligned (aligned_calls (aligned_fresh source) fun v hv =>
      heven v (visits_subset hds hv))
  · have halign := aligned_of_even (aligned_fresh source) heven
    rw [calls_concat, ← Nat.not_even_iff_odd, even_pc_call_iff halign]
    push Not
    constructor
    · rintro ⟨t, ht, hodd⟩
      exact ⟨t, ht, Nat.not_even_iff_odd.1 hodd, toNat_pc_of_jumps? ht⟩
    · rintro ⟨t, ht, hodd, -⟩
      exact ⟨t, ht, Nat.not_even_iff_odd.2 hodd⟩

/-- A call and its return stay at even addresses. The jump behind them does not. -/
theorem aligned_until_odd_jump_returned :
    let program : List UInt8 := [0x22, 0x04, 0x12, 0x07, 0x00, 0xEE]
    let cs : List Call := [.load program, .step, .setKey 3 true, .step]
    let m := fresh (.cycling #[])
    (m.calls cs).1.AtEven ∧ (m.calls cs).1.jumps? .step = some 0x207 ∧
      Odd (m.calls (cs ++ [.step])).1.state.pc.toNat := by
  intro program cs m
  have hrun : (∀ v ∈ m.visits cs, ∀ t ∈ v.1.jumps? v.2, Even t) ∧
      (∀ ds ∈ cs.inits, Even (m.calls ds).1.state.pc.toNat) ∧
      (m.calls cs).1.jumps? .step = some 0x207 ∧
      (m.calls (cs ++ [.step])).1.state.pc.toNat = 0x207 := by
    decide +kernel
  obtain ⟨hvisits, hinits, hjump, hpc⟩ := hrun
  obtain ⟨hkeeps, hleaves⟩ := aligned_until_odd_jump (.cycling #[])
  have hprefix : ∀ ds, ds <+: cs → Even (m.calls ds).1.state.pc.toNat := fun ds hds =>
    hinits ds ((List.mem_inits ds cs).2 hds)
  exact ⟨hkeeps cs hvisits cs (List.prefix_refl cs), hjump,
    (hleaves cs .step hprefix).2 ⟨0x207, hjump, by decide, hpc⟩⟩

end Machine

end ChipEight
