import ChipEight.Proofs.Bounds
import Mathlib.Data.List.Infix

/-!
# Calls and returns

The slots of the stack keep what was in them, and a counter says how many of them count. What they
amount to is a list of open calls.

* `stack_call_cases`: a call of the owner opens one, closes one, or leaves the stack alone.
* `live_calls`: so the live slots are the calls that were carried out and not yet returned from.
* `prefix_live_of_deeper`: a call stays open, with all those before it, as long as the stack does
  not come back to its depth.
* `calls_in_order`: the discipline as a whole.
-/

namespace ChipEight

/-- The open calls after one more instruction, carried out at `pc`. -/
def Instruction.openAfter (pc : UInt16) (opened : List UInt16) : Instruction → List UInt16
  | call _ => opened ++ [pc]
  | ret => opened.dropLast
  | _ => opened

/-- The addresses of the calls that were carried out and not yet returned from, the latest one
last. -/
def openCalls (opened : List UInt16) (done : List (State × Instruction)) : List UInt16 :=
  done.foldl (fun opened e => e.2.openAfter e.1.pc opened) opened

namespace Machine

/-! ## One call of the owner -/

/-- **What happens to the stack**: one more call is open, the latest one is closed and the machine
goes on behind it, or nothing. -/
theorem stack_call_cases (m : Machine) (c : Call) :
    (∃ a, m.completes? c = some (.call a) ∧
      (m.call c).1.state.stack.live = m.state.stack.live ++ [m.state.pc]) ∨
    (m.completes? c = some .ret ∧ ∃ p,
      m.state.stack.live = (m.call c).1.state.stack.live ++ [p] ∧
      (m.call c).1.state.pc = p + 2) ∨
    ((∀ a, m.completes? c ≠ some (.call a)) ∧ m.completes? c ≠ some .ret ∧
      (m.call c).1.state.stack = m.state.stack) := by
  rcases call_cases m c with ⟨i, hc, hi, hm⟩ | ⟨hc, memory, keys, redraw, hm⟩
  · rw [hc, hm, state_after]
    -- what succeeds had a slot to fill or to read
    have hf := (executes?_eq_some_iff.1 hi).2
    cases i with
    | call a =>
      have hpush := Stack.push?_eq m.state.stack m.state.pc
      rw [if_pos (Instruction.room_of_call hf)] at hpush
      exact .inl ⟨a, rfl, Stack.live_push? hpush⟩
    | ret =>
      have hpop := Stack.pop?_eq m.state.stack
      rw [if_pos (Instruction.open_of_ret hf)] at hpop
      exact .inr (.inl ⟨rfl, _, Stack.live_pop? hpop, rfl⟩)
    | _ => exact .inr (.inr ⟨by simp, by simp, rfl⟩)
  · rw [hc]
    refine .inr (.inr ⟨by simp, by simp, ?_⟩)
    rw [show (m.call c).1.state = _ from congrArg Core.state hm]

/-- The live slots after a call of the owner. -/
theorem live_call (m : Machine) (c : Call) :
    (m.call c).1.state.stack.live =
      match m.completes? c with
      | some i => i.openAfter m.state.pc m.state.stack.live
      | none => m.state.stack.live := by
  rcases stack_call_cases m c with ⟨a, hc, hl⟩ | ⟨hc, p, hl, -⟩ | ⟨hcall, hret, hs⟩
  · rw [hc, hl]; rfl
  · rw [hc, hl]; exact List.dropLast_concat.symm
  · rw [hs]
    cases hc : m.completes? c with
    | none => rfl
    | some i =>
      cases i with
      | call a => exact absurd hc (hcall a)
      | ret => exact absurd hc hret
      | _ => rfl

/-! ## Histories -/

/-- **The live slots are the open calls**, whatever the history. -/
theorem live_calls (m : Machine) (cs : List Call) :
    (m.calls cs).1.state.stack.live = openCalls m.state.stack.live (m.completed cs) := by
  -- the fold and the history both start at the front, so the calls open before are left general
  induction cs generalizing m with
  | nil => rfl
  | cons c cs ih =>
    have hstep := live_call m c
    unfold completed
    rw [show (m.calls (c :: cs)).1 = ((m.call c).1.calls cs).1 from rfl, ih]
    cases hc : m.completes? c with
    | none => rw [hstep, hc]; rfl
    | some i => rw [hstep, hc]; rfl

variable {m : Machine}

/-- As many slots are live as the counter says. -/
theorem length_live (h : m.state.InBounds) : m.state.stack.live.length = m.state.stack.depth :=
  Stack.length_live h.depth

/-- **A call stays open as long as the stack does not come back to its depth**, and so do those
before it. -/
theorem prefix_live_of_deeper {opened : List UInt16} {d : Nat} (hlen : opened.length = d + 1)
    (h : m.state.InBounds) (hopen : opened <+: m.state.stack.live) (ds : List Call)
    (hdeep : ∀ es, es <+: ds → (m.calls es).1.state.stack.depth ≠ d) :
    opened <+: (m.calls ds).1.state.stack.live := by
  induction ds generalizing m with
  | nil => exact hopen
  | cons c ds ih =>
    have hne : (m.call c).1.state.stack.depth ≠ d := hdeep [c] ⟨ds, rfl⟩
    have hlive := length_live (inBounds_call h c)
    have hstill : opened <+: (m.call c).1.state.stack.live := by
      rcases stack_call_cases m c with ⟨a, -, hl⟩ | ⟨-, p, hl, -⟩ | ⟨-, -, hs⟩
      · rw [hl]; exact hopen.trans (List.prefix_append _ _)
      · -- the closed call is not among them: else the stack would be back
        rw [hl] at hopen
        have hle := hopen.length_le
        rw [List.length_append, List.length_singleton, hlen] at hle
        exact List.prefix_of_prefix_length_le hopen (List.prefix_append _ _) (by omega)
      · rw [hs]; exact hopen
    exact ih (inBounds_call h c) hstill fun es hes =>
      hdeep (c :: es) (List.cons_prefix_cons.2 ⟨rfl, hes⟩)

/-- **The call of the owner that comes back to the depth of an open call is the return from it.** -/
theorem return_of_back {opened : List UInt16} {p : UInt16} (h : m.state.InBounds)
    (hopen : opened ++ [p] <+: m.state.stack.live) (c : Call)
    (hback : (m.call c).1.state.stack.depth = opened.length) :
    m.completes? c = some .ret ∧ (m.call c).1.state.pc = p + 2 ∧
      (m.call c).1.state.stack.live = opened := by
  have hlive := length_live (inBounds_call h c)
  have hle := hopen.length_le
  rw [List.length_append, List.length_singleton] at hle
  -- the stack is one deeper than `opened`, so only a return leads there
  rcases stack_call_cases m c with ⟨a, -, hl⟩ | ⟨hret, q, hl, hpc⟩ | ⟨-, -, hs⟩
  · rw [hl, List.length_append] at hlive; omega
  · rw [hl] at hopen
    have heq : opened ++ [p] = (m.call c).1.state.stack.live ++ [q] :=
      hopen.eq_of_length (by simp only [List.length_append, List.length_singleton]; omega)
    obtain ⟨hopened, hp⟩ := List.append_inj' heq rfl
    cases hp
    exact ⟨hret, hpc, hopened.symm⟩
  · rw [hs] at hlive hback; omega

/-! ## The discipline -/

/-- The open calls are `opened`, and whatever comes next respects that. -/
structure CallsInOrder (m : Machine) (opened : List UInt16) : Prop where
  live : m.state.stack.live = opened
  depth : m.state.stack.depth = opened.length
  /-- A call fails exactly if every slot is taken. -/
  overflow : ∀ a, m.state.instruction? = some (.call a) →
    m.step.2.fault? =
      if opened.length = Stack.capacity then some (.stackOverflow m.state.pc) else none
  /-- A call opens itself, in the first slot that is not live, and goes where it says. -/
  opens : ∀ a, m.executes? = some (.call a) →
    m.step.1.state.stack.live = opened ++ [m.state.pc] ∧
      m.step.1.state.stack.slots = m.state.stack.slots.setIfInBounds opened.length m.state.pc ∧
      m.step.1.state.pc.toNat = a.val
  /-- A return fails exactly if no call is open. -/
  underflow : m.state.instruction? = some .ret →
    m.step.2.fault? = if opened = [] then some (.stackUnderflow m.state.pc) else none
  /-- A return closes the latest call and goes on behind it; the slot keeps its content. -/
  closes : m.executes? = some .ret →
    ∃ before p, opened = before ++ [p] ∧ m.step.1.state.stack.live = before ∧
      m.step.1.state.stack.slots = m.state.stack.slots ∧
      m.step.1.state.pc.toNat = p.toNat + 2
  /-- Nothing else touches the stack. -/
  others : ∀ c, (∀ a, m.completes? c ≠ some (.call a)) → m.completes? c ≠ some .ret →
    (m.call c).1.state.stack = m.state.stack
  /-- After a call, what first comes back to its depth is a return. It goes on behind the call, and
  the slots below are as the call found them. -/
  matched : ∀ a ds c, m.executes? = some (.call a) →
    (∀ es, es <+: ds → (m.step.1.calls es).1.state.stack.depth ≠ m.state.stack.depth) →
    ((m.step.1.calls ds).1.call c).1.state.stack.depth = m.state.stack.depth →
    let back := ((m.step.1.calls ds).1.call c).1.state
    c = .step ∧ (m.step.1.calls ds).1.executes? = some .ret ∧
      back.pc.toNat = m.state.pc.toNat + 2 ∧
      ∀ k < m.state.stack.depth, back.stack.slots[k]? = m.state.stack.slots[k]?

section Discipline

variable {a : Address}

theorem live_of_call (hi : m.executes? = some (.call a)) :
    m.step.1.state.stack.live = m.state.stack.live ++ [m.state.pc] := by
  have hlive := live_call m .step
  rw [show m.completes? .step = some (.call a) from hi] at hlive
  exact hlive

theorem toNat_pc_of_call (hi : m.executes? = some (.call a)) :
    m.step.1.state.pc.toNat = a.val := by
  have ha := a.isLt
  have hpc : m.step.1.state.pc = .ofNat a.val := by rw [step_of_executes hi]; rfl
  rw [hpc, UInt16.toNat_ofNat']; omega

variable (h : m.state.InBounds)

include h

theorem fault?_of_call (hi : m.state.instruction? = some (.call a)) :
    m.step.2.fault? =
      if m.state.stack.live.length = Stack.capacity then some (.stackOverflow m.state.pc)
      else none := by
  have hd := h.depth
  rw [fault?_step_of_instruction? hi, Instruction.fault?, length_live h]
  by_cases hfull : m.state.stack.depth = Stack.capacity
  · rw [if_pos hfull, if_neg (by omega)]
  · rw [if_neg hfull, if_pos (by omega)]

theorem fault?_of_ret (hi : m.state.instruction? = some .ret) :
    m.step.2.fault? =
      if m.state.stack.live = [] then some (.stackUnderflow m.state.pc) else none := by
  have hempty : m.state.stack.live = [] ↔ m.state.stack.depth = 0 := by
    rw [← List.length_eq_zero_iff, length_live h]
  rw [fault?_step_of_instruction? hi, Instruction.fault?]
  by_cases hnone : m.state.stack.depth = 0
  · rw [if_neg (by omega), if_pos (hempty.2 hnone)]
  · rw [if_pos ⟨by omega, h.depth⟩, if_neg (mt hempty.1 hnone)]

theorem closed_of_ret (hi : m.executes? = some .ret) :
    ∃ before p, m.state.stack.live = before ++ [p] ∧ m.step.1.state.stack.live = before ∧
      m.step.1.state.stack.slots = m.state.stack.slots ∧
      m.step.1.state.pc.toNat = p.toNat + 2 := by
  rcases stack_call_cases m .step with ⟨a, hc, -⟩ | ⟨-, p, hl, hpc⟩ | ⟨-, hret, -⟩
  · rw [completes?_eq_some_iff, hi] at hc; cases hc.2
  · have hslots : m.step.1.state.stack.slots = m.state.stack.slots := by
      rw [step_of_executes hi]; rfl
    have hp : p.toNat ≤ 0xFFE := h.live_le (by rw [hl]; exact List.mem_concat_self)
    have hnext : m.step.1.state.pc = p + 2 := hpc
    exact ⟨_, p, hl, rfl, hslots, by rw [hnext, toNat_add_two hp]⟩
  · exact absurd hi hret

theorem return_of_call (hi : m.executes? = some (.call a)) (ds : List Call)
    (hdeep : ∀ es, es <+: ds → (m.step.1.calls es).1.state.stack.depth ≠ m.state.stack.depth)
    (c : Call)
    (hback : ((m.step.1.calls ds).1.call c).1.state.stack.depth = m.state.stack.depth) :
    (m.step.1.calls ds).1.completes? c = some .ret ∧
      ((m.step.1.calls ds).1.call c).1.state.pc = m.state.pc + 2 ∧
      ((m.step.1.calls ds).1.call c).1.state.stack.live = m.state.stack.live := by
  have hb : m.step.1.state.InBounds := inBounds_call h .step
  have hlen : (m.state.stack.live ++ [m.state.pc]).length = m.state.stack.depth + 1 := by
    rw [List.length_append, length_live h]; rfl
  have hopen : m.state.stack.live ++ [m.state.pc] <+: (m.step.1.calls ds).1.state.stack.live :=
    prefix_live_of_deeper hlen hb (live_of_call hi ▸ List.prefix_refl _) ds hdeep
  exact return_of_back (inBounds_calls hb ds) hopen c (hback.trans (length_live h).symm)

end Discipline

/-- **Calls and returns are in order, whatever the history.** -/
theorem calls_in_order (source : Random.Source) (cs : List Call) :
    CallsInOrder ((fresh source).calls cs).1 (openCalls [] ((fresh source).completed cs)) := by
  generalize hm : ((fresh source).calls cs).1 = m
  have hb : m.state.InBounds := Reachable.inBounds ⟨source, cs, hm⟩
  have hopened : openCalls [] ((fresh source).completed cs) = m.state.stack.live := by
    rw [← hm, live_calls]; rfl
  rw [hopened]
  refine ⟨rfl, (length_live hb).symm, fun a => fault?_of_call hb, ?_, fault?_of_ret hb,
    closed_of_ret hb, ?_, ?_⟩
  · intro a hi
    refine ⟨live_of_call hi, ?_, toNat_pc_of_call hi⟩
    rw [length_live hb, step_of_executes hi]; rfl
  · intro c hcall hret
    rcases stack_call_cases m c with ⟨a, hc, -⟩ | ⟨hc, -⟩ | ⟨-, -, hs⟩
    · exact absurd hc (hcall a)
    · exact absurd hc hret
    · exact hs
  · intro a ds c hi hdeep hback
    obtain ⟨hret, hpc, hl⟩ := return_of_call hb hi ds hdeep c hback
    obtain ⟨hc, hn⟩ := completes?_eq_some_iff.1 hret
    refine ⟨hc, hn, ?_, ?_⟩
    · rw [hpc, toNat_add_two (Nat.le_sub_of_add_le (pc_le_of_executes hi))]
    · intro k hk
      rw [← Stack.getElem?_live hk, ← hl, Stack.getElem?_live (hback.symm ▸ hk)]

/-- A call from 0x200 to 0x204, which on its way calls 0x208: the second return is its own. -/
theorem calls_in_order_nested :
    let program : List UInt8 := [0x22, 0x04, 0x00, 0x00, 0x22, 0x08, 0x00, 0xEE, 0x00, 0xEE]
    let m := ((fresh (.cycling #[])).calls [.load program]).1
    let between : List Call := [.step, .setKey 3 true, .step]
    m.executes? = some (.call 0x204) ∧
      ((m.step.1.calls between).1.call .step).1.state.pc.toNat = 0x202 := by
  intro program m between
  have hrun : m.executes? = some (.call 0x204) ∧ m.state.pc.toNat = 0x200 ∧
      (∀ es ∈ between.inits, (m.step.1.calls es).1.state.stack.depth ≠ m.state.stack.depth) ∧
      ((m.step.1.calls between).1.call .step).1.state.stack.depth = m.state.stack.depth := by
    decide +kernel
  have horder : CallsInOrder m _ := calls_in_order (.cycling #[]) [.load program]
  -- from here on the run must not be computed again
  clear_value m
  obtain ⟨hi, hpc, hdeep, hback⟩ := hrun
  have hreturn := horder.matched 0x204 between .step hi
    (fun es hes => hdeep es ((List.mem_inits es between).2 hes)) hback
  exact ⟨hi, hreturn.2.2.1.trans (congrArg (· + 2) hpc)⟩

end Machine

end ChipEight
