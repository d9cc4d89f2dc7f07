import ChipEight.Proofs.Failure
import ChipEight.Proofs.Latches

/-!
# A machine that failed

How a cycle fails is a matter of the state, and of nothing in it that keys, display or sound can
touch. So once a cycle has failed, the machine is at rest until a program is loaded.

* `at_rest_call`: what a call does to a machine whose next cycle fails.
* `failure_is_permanent`: what a whole history does to it.
-/

namespace ChipEight

namespace Machine

/-- The machine is as it was, apart from the keys, the redraw flag and the speaker. In particular,
no random word was taken. -/
def SameButLatches (m m' : Machine) : Prop :=
  ∃ keys redraw, m'.toCore = { m.toCore with state := { m.state with keys, redraw } }

namespace SameButLatches

variable {m m' m'' : Machine}

theorem refl (m : Machine) : m.SameButLatches m := ⟨m.state.keys, m.state.redraw, rfl⟩

theorem trans (h : m.SameButLatches m') (h' : m'.SameButLatches m'') : m.SameButLatches m'' := by
  obtain ⟨keys, redraw, hm⟩ := h
  obtain ⟨keys', redraw', hm'⟩ := h'
  exact ⟨keys', redraw', by rw [hm', hm]⟩

/-- Such machines fail alike. -/
theorem fault?_step (h : m.SameButLatches m') : m'.step.2.fault? = m.step.2.fault? := by
  obtain ⟨keys, redraw, hm⟩ := h
  have hs : m'.state = { m.state with keys, redraw } := congrArg Core.state hm
  rw [Machine.fault?_step, Machine.fault?_step, hs, State.fault?_latches]

end SameButLatches

variable {m : Machine} {e : Fault}

/-- **What a call does to a machine whose next cycle fails**, unless it loads a program: no more
than to latch something. A cycle meets the same fault again, and nothing sounds. -/
theorem at_rest_call (h : m.step.2.fault? = some e) (c : Call)
    (hload : ∀ program, c = .load program → (m.call c).2.fault? ≠ none) :
    m.SameButLatches (m.call c).1 ∧ (c = .step → (m.call c).2.fault? = some e) ∧
      ∀ speaker, .tone speaker ∉ (m.call c).2.events := by
  cases c with
  | step =>
    obtain ⟨hm, htone⟩ := step_of_fault ((fault?_step m).symm.trans h)
    exact ⟨hm.symm ▸ .refl m, fun _ => h, htone⟩
  | load program =>
    obtain ⟨d, hd⟩ := Option.ne_none_iff_exists'.1 (hload program rfl)
    rw [call_load_of_large (fault?_load_eq_some_iff.1 hd).1]
    exact ⟨.refl m, by simp, fun _ => List.not_mem_nil⟩
  | setKeys keys => exact ⟨⟨keys, m.state.redraw, rfl⟩, by simp, fun _ => List.not_mem_nil⟩
  | setKey key down =>
    exact ⟨⟨m.state.keys.move key down, m.state.redraw, rfl⟩, by simp, fun _ => List.not_mem_nil⟩
  | needsRedraw => exact ⟨.refl m, by simp, fun _ => List.not_mem_nil⟩
  | takeRedraw => exact ⟨⟨m.state.keys, false, rfl⟩, by simp, fun _ => List.not_mem_nil⟩
  | link speaker =>
    exact ⟨⟨m.state.keys, m.state.redraw, rfl⟩, by simp, fun _ => List.not_mem_nil⟩

/-- **A failure is for good**, as long as no program is loaded. Whatever else is called in between,
every cycle meets the same fault, nothing sounds, and at no time has anything changed but the keys,
the redraw flag and the speaker. -/
theorem failure_is_permanent (h : m.step.2.fault? = some e) (cs : List Call)
    (hloads : ∀ program reply, (.load program, reply) ∈ m.answered cs → reply.fault? ≠ none) :
    (∀ reply, (.step, reply) ∈ m.answered cs → reply.fault? = some e) ∧
      (∀ c reply, (c, reply) ∈ m.answered cs → ∀ speaker, .tone speaker ∉ reply.events) ∧
      ∀ ds, ds <+: cs → m.SameButLatches (m.calls ds).1 := by
  -- a machine at rest stays at rest, so the fault and the rest of the history are as before
  induction cs generalizing m with
  | nil =>
    refine ⟨by simp [answered_nil], by simp [answered_nil], ?_⟩
    intro ds hds
    rw [List.prefix_nil.1 hds]
    exact .refl m
  | cons c cs ih =>
    rw [answered_cons] at hloads ⊢
    have hload : ∀ program, c = .load program → (m.call c).2.fault? ≠ none := by
      rintro program rfl
      exact hloads program _ List.mem_cons_self
    obtain ⟨hsame, hstep, htone⟩ := at_rest_call h c hload
    obtain ⟨hsteps, htones, hsames⟩ := ih (hsame.fault?_step.trans h) fun program reply hmem =>
      hloads program reply (List.mem_cons_of_mem _ hmem)
    refine ⟨?_, ?_, ?_⟩
    · intro reply hmem
      rcases List.mem_cons.1 hmem with heq | hmem
      · cases heq; exact hstep rfl
      · exact hsteps reply hmem
    · intro d reply hmem
      rcases List.mem_cons.1 hmem with heq | hmem
      · cases heq; exact htone
      · exact htones d reply hmem
    · intro ds hds
      rcases List.prefix_cons_iff.1 hds with rfl | ⟨es, rfl, hes⟩
      · exact .refl m
      · exact hsame.trans (hsames es hes)

/-- A return with no call open, and then keys, a program that is too long, and another speaker. -/
theorem failure_is_permanent_after_return :
    let m := ((fresh (.cycling #[])).calls [.load [0x00, 0xEE]]).1
    let large : List UInt8 := List.replicate 3585 0
    let cs : List Call := [.step, .setKey 3 true, .load large, .takeRedraw, .link (.listener 1)]
    m.step.2.fault? = some (.stackUnderflow 0x200) ∧ m.SameButLatches (m.calls cs).1 := by
  intro m large cs
  have hstep : m.step.2.fault? = some (.stackUnderflow 0x200) := by decide +kernel
  have hlarge : Memory.programLimit < large.length := by rw [List.length_replicate]; decide
  clear_value m large
  refine ⟨hstep, (failure_is_permanent hstep cs ?_).2.2 cs (List.prefix_refl cs)⟩
  intro program reply hmem
  simp only [cs, answered_cons, answered_nil, List.mem_cons, Prod.mk.injEq, reduceCtorEq, false_and,
    false_or, or_false, List.not_mem_nil] at hmem
  obtain ⟨-, rfl⟩ := hmem
  rw [call_load_of_large hlarge]
  exact Option.some_ne_none _

end Machine

end ChipEight
