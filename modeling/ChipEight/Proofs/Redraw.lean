import ChipEight.Proofs.History
import ChipEight.Proofs.Latches

/-!
# No drawing is missed

A display looks at the redraw flag now and then, and shows the screen anew when it takes the flag.
It never looks at the pixels in between, so the flag has to be right about them.

* `needsRedraw_call`: a call sets the flag if it draws, and takes it if it says so.
* `screen_call`, `screen_calls`: the screen stays as it is in a call that does not draw, and in a
  history of such calls.
* `needsRedraw_calls`, `screen_eq_shown_or_needsRedraw`: what they come to in a history.
* `redraw_protocol`: the flag is set exactly if something was drawn since it was last taken, and a
  display is only out of date while it is set.
-/

namespace ChipEight

namespace Instruction

theorem redrawAfter_eq (s : State) (i : Instruction) : i.redrawAfter s = (i.draws || s.redraw) := by
  cases i <;> rfl

theorem screenAfter_of_not_draws {s : State} {i : Instruction} (h : i.draws = false) :
    i.screenAfter s = s.screen := by
  cases i with
  | clear | draw => cases h
  | _ => rfl

end Instruction

namespace Machine

/-! ## One call -/

/-- Whether a call draws on the screen: it is a cycle that succeeds, with an instruction that
does. -/
def drawsIn (m : Machine) (c : Call) : Bool := (m.completes? c).any Instruction.draws

/-- **A call sets the flag if it draws**, and takes it if it says so. -/
theorem needsRedraw_call (m : Machine) (c : Call) :
    (m.call c).1.needsRedraw = true ↔
      m.drawsIn c = true ∨ (m.needsRedraw = true ∧ c ≠ .takeRedraw) := by
  cases c with
  | step =>
    change m.step.1.needsRedraw = true ↔ m.executes?.any _ = true ∨ _
    rw [step_eq_elim]
    cases m.executes? with
    | some i =>
      have hflag : (m.after i).needsRedraw = (i.draws || m.needsRedraw) :=
        i.redrawAfter_eq m.state
      simp [hflag]
    | none => simp
  | load program =>
    change (m.load program).1.needsRedraw = true ↔ _
    rw [load_eq_memory]
    simp [needsRedraw, drawsIn, completes?]
  | takeRedraw => simp [call, takeRedraw, needsRedraw, drawsIn, completes?]
  | _ => simp [call, setKeys, setKey, link, needsRedraw, drawsIn, completes?]

/-- **The screen stays as it is in a call that does not draw.** -/
theorem screen_call {m : Machine} {c : Call} (h : m.drawsIn c = false) :
    (m.call c).1.state.screen = m.state.screen := by
  rcases call_cases m c with ⟨i, hc, -, hm⟩ | ⟨-, memory, keys, redraw, hm⟩
  · rw [hm]
    refine Instruction.screenAfter_of_not_draws (s := m.state) ?_
    rwa [drawsIn, hc] at h
  · rw [show (m.call c).1.state = _ from congrArg Core.state hm]

/-! ## Histories -/

/-- **So it does in a history** that carries out nothing that draws. -/
theorem screen_calls {m : Machine} {cs : List Call} (h : ∀ e ∈ m.completed cs, e.2.draws = false) :
    (m.calls cs).1.state.screen = m.state.screen := by
  refine calls_keep (·.state.screen) (fun _ i => i.draws = false) (fun m c hc => screen_call ?_) h
  rw [drawsIn, Option.any_eq_false]
  exact hc

/-- Something was drawn in the history, and the flag was not taken since. -/
def DrawnSinceTaken (m : Machine) (cs : List Call) : Prop :=
  ∃ before c after, cs = before ++ c :: after ∧ (m.calls before).1.drawsIn c = true ∧
    .takeRedraw ∉ after

/-- What a display shows after the history: the screen as it was when the flag was last taken. The
display is blank at first. -/
def shown (m : Machine) (cs : List Call) : Screen :=
  (m.visits cs).foldl (fun shown v => if v.2 = .takeRedraw then v.1.state.screen else shown) .blank

theorem drawnSinceTaken_concat (m : Machine) (cs : List Call) (c : Call) :
    m.DrawnSinceTaken (cs ++ [c]) ↔
      (m.calls cs).1.drawsIn c = true ∨ (m.DrawnSinceTaken cs ∧ c ≠ .takeRedraw) := by
  constructor
  · rintro ⟨before, d, after, hcs, hdraws, htaken⟩
    -- the call that drew is the last one, or one of those before it
    rcases List.eq_nil_or_concat after with rfl | ⟨rest, e, rfl⟩
    · obtain ⟨rfl, hd⟩ := List.append_inj' hcs rfl
      cases hd
      exact .inl hdraws
    · rw [List.concat_eq_append, ← List.cons_append, ← List.append_assoc] at hcs
      obtain ⟨rfl, he⟩ := List.append_inj' hcs rfl
      cases he
      rw [List.concat_eq_append, List.mem_append, not_or] at htaken
      refine .inr ⟨⟨before, d, rest, rfl, hdraws, htaken.1⟩, ?_⟩
      rintro rfl
      exact htaken.2 List.mem_cons_self
  · rintro (hdraws | ⟨⟨before, d, after, rfl, hdraws, htaken⟩, hc⟩)
    · exact ⟨cs, c, [], rfl, hdraws, List.not_mem_nil⟩
    · refine ⟨before, d, after ++ [c], by rw [List.append_assoc, List.cons_append], hdraws, ?_⟩
      rw [List.mem_append, List.mem_singleton]
      rintro (hmem | rfl)
      · exact htaken hmem
      · exact hc rfl

theorem shown_concat (m : Machine) (cs : List Call) (c : Call) :
    m.shown (cs ++ [c]) = if c = .takeRedraw then (m.calls cs).1.state.screen else m.shown cs := by
  unfold shown
  rw [visits_concat, List.foldl_append]
  rfl

variable {m : Machine}

/-- **The flag is set exactly if something was drawn since it was taken.** -/
theorem needsRedraw_calls (h : m.needsRedraw = false) (cs : List Call) :
    (m.calls cs).1.needsRedraw = true ↔ m.DrawnSinceTaken cs := by
  induction cs using List.reverseRecOn with
  | nil =>
    refine iff_of_false (Bool.eq_false_iff.1 h) ?_
    rintro ⟨before, c, after, hcs, -⟩
    simp at hcs
  | append_singleton cs c ih => rw [calls_concat, needsRedraw_call, drawnSinceTaken_concat, ih]

/-- **What a display shows is the screen**, unless the flag is set. -/
theorem screen_eq_shown_or_needsRedraw (h : m.state.screen = .blank) (cs : List Call) :
    (m.calls cs).1.state.screen = m.shown cs ∨ (m.calls cs).1.needsRedraw = true := by
  induction cs using List.reverseRecOn with
  | nil => exact .inl h
  | append_singleton cs c ih =>
    rw [calls_concat, needsRedraw_call, shown_concat]
    cases hdraws : (m.calls cs).1.drawsIn c with
    | true => exact .inr (.inl rfl)
    | false =>
      rw [screen_call hdraws]
      by_cases hc : c = .takeRedraw
      · -- the display takes over the screen as it is
        rw [if_pos hc]
        exact .inl rfl
      · rw [if_neg hc]
        exact ih.imp_right fun hneeds => .inr ⟨hneeds, hc⟩

/-- How the flag stands after a history in which something was `drawn` since it was last taken, or
nothing was, with a display that shows the screen `shown`. -/
structure RedrawProtocol (m : Machine) (drawn : Prop) (shown : Screen) : Prop where
  set_iff : m.needsRedraw = true ↔ drawn
  /-- Asking for the flag changes nothing. -/
  asked : m.call .needsRedraw = (m, { redraw? := some m.needsRedraw })
  /-- Taking it answers the same, and leaves it unset. -/
  taken : (m.call .takeRedraw).2 = { redraw? := some m.needsRedraw }
  unset : (m.call .takeRedraw).1.needsRedraw = false
  /-- If the screen is not what the display shows, the flag is set. -/
  noticed : m.state.screen ≠ shown → m.needsRedraw = true

/-- **No drawing is missed, whatever the history.** -/
theorem redraw_protocol (source : Random.Source) (cs : List Call) :
    RedrawProtocol ((fresh source).calls cs).1 ((fresh source).DrawnSinceTaken cs)
      ((fresh source).shown cs) := by
  refine ⟨needsRedraw_calls rfl cs, rfl, rfl, rfl, fun hne => ?_⟩
  rcases screen_eq_shown_or_needsRedraw (m := fresh source) rfl cs with heq | hneeds
  · exact absurd heq hne
  · exact hneeds

/-- A row of a digit is drawn and shown. Then the screen is cleared, and another draw fails: the
display is out of date, and the flag says so. -/
theorem redraw_protocol_cleared :
    let program : List UInt8 := [0xF0, 0x29, 0xD0, 0x01, 0x00, 0xE0, 0xAF, 0xFF, 0xD0, 0x05]
    let cs : List Call :=
      [.load program, .step, .step, .takeRedraw, .step, .setKey 3 true, .step, .step]
    let m := ((fresh (.cycling #[])).calls cs).1
    let shown := (fresh (.cycling #[])).shown cs
    m.state.screen ≠ shown ∧ m.needsRedraw = true := by
  intro program cs m shown
  have hpixel : m.state.screen[0] = 0 ∧ shown[0] = 1 := by decide +kernel
  have hprotocol : RedrawProtocol m _ shown := redraw_protocol (.cycling #[]) cs
  -- from here on the run must not be computed again
  clear_value m shown
  have hne : m.state.screen ≠ shown := by
    rintro rfl
    rw [hpixel.1] at hpixel
    exact absurd hpixel.2 (by decide)
  exact ⟨hne, hprotocol.noticed hne⟩

end Machine

end ChipEight
