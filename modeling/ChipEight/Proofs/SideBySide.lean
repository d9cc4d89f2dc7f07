import ChipEight.Proofs.Timers

/-!
# Two runs side by side

Two machines that differ only in what is not looked at do the same, and calls that touch no more
than that can be made on one of them and not on the other. So histories are compared in which calls
of a kind, the `free` ones, may stand anywhere, while all the others are the same.

* `report_step`: what a cycle reports is a matter of the state and of the speaker.
* `cycle_congr`, `cycle_rel`: cycles on states that differ at most in the keys, the redraw flag and
  bytes that are not fetched carry out the same instruction and report the same.
* `Indistinct.run`: a relation between machines that every call keeps is kept by histories that are
  the same but for free calls, and the replies are the same.
-/

namespace ChipEight

/-! ## What a cycle reports -/

/-- What the next cycle reports if it sounds its tone on this speaker. -/
def State.report (s : State) (speaker : Speaker) : Report :=
  match s.memory.word s.pc.toNat with
  | .error e => ⟨some e, [.notice (.failed s.pc e)]⟩
  | .ok op =>
    match Instruction.decode op s.pc with
    | .error e => ⟨some e, [.notice (.failed s.pc e)]⟩
    | .ok i =>
      let trace := Event.notice (.decoded s.pc op i s.v s.i)
      match i.fault? s with
      | some e => ⟨some e, [trace, .notice (.failed s.pc e)]⟩
      | none => ⟨none, trace :: if i.soundAfter s > 0 then [.tone speaker] else []⟩

/-- The event as it would be with a mute speaker. -/
def Event.muted : Event → Event
  | tone _ => tone .mute
  | notice n => notice n

/-- The report as it would be with a mute speaker. -/
def Report.muted (r : Report) : Report := { r with events := r.events.map Event.muted }

/-- The reply as it would be with a mute speaker. -/
def Reply.muted (r : Reply) : Reply := { r with toReport := r.toReport.muted }

theorem Report.tones_muted (r : Report) : r.muted.tones = r.tones.map fun _ => .mute := by
  have hevent : ∀ event : Event, event.muted.speaker? = event.speaker?.map fun _ => .mute := by
    intro event
    cases event <;> rfl
  unfold tones muted
  rw [List.filterMap_map, List.map_filterMap]
  exact List.filterMap_congr fun event _ => hevent event

theorem State.report_muted (s : State) (speaker : Speaker) :
    (s.report speaker).muted = s.report .mute := by
  unfold report
  split
  · rfl
  · split
    · rfl
    · split
      · rfl
      · split <;> rfl

theorem Instruction.soundAfter_unseen (s : State) (memory : Memory) (keys : Keypad) (redraw : Bool)
    (i : Instruction) : i.soundAfter { s with memory, keys, redraw } = i.soundAfter s := by
  cases i <;> rfl

namespace Machine

variable {m m' : Machine}

/-- **What a cycle reports is a matter of the state and of the speaker.** -/
theorem report_step (m : Machine) : m.step.2 = m.state.report m.speaker := by
  unfold State.report
  cases hw : m.state.memory.word m.state.pc.toNat with
  | error e => simp only [step, hw]
  | ok op =>
    cases hd : Instruction.decode op m.state.pc with
    | error e => simp only [step, hw, hd]
    | ok i =>
      cases hf : i.fault? m.state with
      | some e =>
        have hrun := Instruction.execute_eq_error_iff.2 ⟨hf, rfl⟩
        simp only [step, hw, hd, hrun, hf]
      | none =>
        have hrun := Instruction.execute_eq_ok_iff.2 ⟨hf, rfl⟩
        simp only [step, hw, hd, hrun, hf, tick, State.tick, decide_eq_true_eq]
        rfl

/-- **Cycles with the same word to obey** carry out the same instruction or meet the same fault,
whatever else is in memory, which keys are down, whether the redraw flag is set, and what the random
source holds. They report the same, if not to the same speaker. -/
theorem cycle_congr {memory : Memory} {keys : Keypad} {redraw : Bool}
    (hs : m'.state = { m.state with memory, keys, redraw })
    (hword : memory.word m.state.pc.toNat = m.state.memory.word m.state.pc.toNat) :
    m'.executes? = m.executes? ∧ m'.step.2.muted = m.step.2.muted := by
  have hreport : m'.step.2.muted = m.step.2.muted := by
    rw [report_step, report_step, State.report_muted, State.report_muted, hs]
    simp only [State.report, hword, Instruction.fault?_unseen, Instruction.soundAfter_unseen]
  have hfault : m'.step.2.fault? = m.step.2.fault? := congrArg (·.fault?) hreport
  have hinstruction : m'.state.instruction? = m.state.instruction? := by
    rw [hs]
    simp only [State.instruction?, hword]
  refine ⟨?_, hreport⟩
  unfold executes?
  rw [hfault, hinstruction]

/-- So they come to machines that are still related, if that goes for both staying as they are and
for both carrying out the instruction. -/
theorem cycle_rel {R : Machine → Machine → Prop} {memory : Memory} {keys : Keypad} {redraw : Bool}
    (hs : m'.state = { m.state with memory, keys, redraw })
    (hword : memory.word m.state.pc.toNat = m.state.memory.word m.state.pc.toNat)
    (hstay : m.executes? = none → R m m')
    (hafter : ∀ i, m.executes? = some i → R (m.after i) (m'.after i)) :
    R m.step.1 m'.step.1 ∧ m'.step.2.muted = m.step.2.muted ∧ m'.executes? = m.executes? := by
  obtain ⟨hexecutes, hreport⟩ := cycle_congr hs hword
  refine ⟨?_, hreport, hexecutes⟩
  rw [step_eq_elim, step_eq_elim, hexecutes]
  cases hm : m.executes? with
  | none => exact hstay hm
  | some i => exact hafter i hm

end Machine

/-! ## Histories that are the same but for free calls -/

/-- The histories have the same calls in the same order, apart from free ones. -/
inductive SameBut (free : Call → Bool) : List Call → List Call → Prop
  | nil : SameBut free [] []
  | left {c cs ds} : free c = true → SameBut free cs ds → SameBut free (c :: cs) ds
  | right {c cs ds} : free c = true → SameBut free cs ds → SameBut free cs (c :: ds)
  | both {c cs ds} : free c = false → SameBut free cs ds → SameBut free (c :: cs) (c :: ds)

theorem SameBut.of_filter_eq {free : Call → Bool} {cs ds : List Call}
    (h : cs.filter (!free ·) = ds.filter (!free ·)) : SameBut free cs ds := by
  induction cs generalizing ds with
  | nil =>
    induction ds with
    | nil => exact .nil
    | cons d ds ihd =>
      cases hd : free d with
      | true => exact .right hd (ihd (by simpa [hd] using h))
      | false => simp [hd] at h
  | cons c cs ih =>
    cases hc : free c with
    | true => exact .left hc (ih (by simpa [hc] using h))
    | false =>
      -- the same call comes up in the other history, behind some that are free
      induction ds with
      | nil => simp [hc] at h
      | cons d ds ihd =>
        cases hd : free d with
        | true => exact .right hd (ihd (by simpa [hd] using h))
        | false =>
          simp only [List.filter_cons, hc, hd, Bool.not_false, if_true, List.cons.injEq] at h
          obtain ⟨rfl, htail⟩ := h
          exact .both hc (ih htail)

namespace Machine

/-- The calls of a history that are not free, each with its reply as it would be with a mute
speaker. -/
def replies (free : Call → Bool) (m : Machine) (cs : List Call) : List (Call × Reply) :=
  ((m.answered cs).filter fun e => !free e.1).map fun e => (e.1, e.2.muted)

/-- What two histories have in common. -/
structure Alike (free : Call → Bool) (m m' : Machine) (cs ds : List Call) : Prop where
  /-- The calls that are in both get the same replies, call by call. A tone in one is a tone in the
  other, if not on the same speaker. -/
  replies : m'.replies free ds = m.replies free cs
  /-- All in all, as many tones sound. -/
  tones : (m'.heard ds).length = (m.heard cs).length
  /-- The same instructions are carried out. -/
  instructions : (m'.completed ds).map Prod.snd = (m.completed cs).map Prod.snd

section Cons

variable {free : Call → Bool} {c : Call} (m : Machine) (cs : List Call)

theorem replies_cons_of_free (h : free c = true) :
    m.replies free (c :: cs) = (m.call c).1.replies free cs := by
  unfold replies
  rw [answered_cons, List.filter_cons_of_neg (by simp [h])]

theorem replies_cons (h : free c = false) :
    m.replies free (c :: cs) = (c, (m.call c).2.muted) :: (m.call c).1.replies free cs := by
  unfold replies
  rw [answered_cons, List.filter_cons_of_pos (by simp [h]), List.map_cons]

theorem heard_cons_of_ne_step (h : c ≠ .step) : m.heard (c :: cs) = (m.call c).1.heard cs := by
  rw [heard_cons, m.tones_of_ne_step h, List.nil_append]

theorem completed_cons_of_ne_step (h : c ≠ .step) :
    m.completed (c :: cs) = (m.call c).1.completed cs := by
  rw [completed_cons, completes?_of_ne_step m h]
  rfl

end Cons

/-- A relation between machines that cannot be told apart by what is not free, as long as all
instructions that are carried out are `allowed`. -/
structure Indistinct (free : Call → Bool) (allowed : Instruction → Prop)
    (R : Machine → Machine → Prop) : Prop where
  step : free .step = false
  left : ∀ {m m' c}, R m m' → free c = true → R (m.call c).1 m'
  right : ∀ {m m' c}, R m m' → free c = true → R m (m'.call c).1
  both : ∀ {m m' c}, R m m' → free c = false → (∀ i, m.completes? c = some i → allowed i) →
    R (m.call c).1 (m'.call c).1 ∧ (m'.call c).2.muted = (m.call c).2.muted ∧
      m'.completes? c = m.completes? c

variable {free : Call → Bool} {allowed : Instruction → Prop} {R : Machine → Machine → Prop}
  {cs ds : List Call}

/-- **What every call keeps, two histories keep that are the same but for free calls**, and they
come to the same. -/
theorem Indistinct.run (hR : Indistinct free allowed R) (h : SameBut free cs ds) {m m' : Machine}
    (hm : R m m') (hallowed : ∀ e ∈ m.completed cs, allowed e.2) :
    R (m.calls cs).1 (m'.calls ds).1 ∧ Alike free m m' cs ds := by
  have ne_step : ∀ {c}, free c = true → c ≠ .step := by
    rintro c hc rfl
    rw [hR.step] at hc
    cases hc
  -- a free call moves one of the machines only, and no cycle is free
  induction h generalizing m m' with
  | nil => exact ⟨hm, rfl, rfl, rfl⟩
  | @left c cs ds hc _ ih =>
    rw [completed_cons_of_ne_step m cs (ne_step hc)] at hallowed
    obtain ⟨hend, hreplies, htones, hcompleted⟩ := ih (hR.left hm hc) hallowed
    refine ⟨hend, ?_, ?_, ?_⟩
    · rw [replies_cons_of_free m cs hc, hreplies]
    · rw [heard_cons_of_ne_step m cs (ne_step hc), htones]
    · rw [completed_cons_of_ne_step m cs (ne_step hc), hcompleted]
  | @right c cs ds hc _ ih =>
    obtain ⟨hend, hreplies, htones, hcompleted⟩ := ih (hR.right hm hc) hallowed
    refine ⟨hend, ?_, ?_, ?_⟩
    · rw [replies_cons_of_free m' ds hc, hreplies]
    · rw [heard_cons_of_ne_step m' ds (ne_step hc), htones]
    · rw [completed_cons_of_ne_step m' ds (ne_step hc), hcompleted]
  | @both c cs ds hc _ ih =>
    have hfirst : ∀ i, m.completes? c = some i → allowed i := fun i hi =>
      hallowed _ (mem_completed_of_completes? hi cs)
    obtain ⟨hnext, hreply, hsame⟩ := hR.both hm hc hfirst
    obtain ⟨hend, hreplies, htones, hcompleted⟩ := ih hnext fun e he =>
      hallowed e (List.mem_append_right _ he)
    refine ⟨hend, ?_, ?_, ?_⟩
    · rw [replies_cons m cs hc, replies_cons m' ds hc, hreply, hreplies]
    · -- the speakers may be others, so only the numbers of the tones agree
      have htone : (m'.call c).2.tones.length = (m.call c).2.tones.length := by
        have hmuted : (m'.call c).2.toReport.muted.tones = (m.call c).2.toReport.muted.tones :=
          congrArg (fun r : Reply => r.tones) hreply
        rw [Report.tones_muted, Report.tones_muted] at hmuted
        simpa using congrArg List.length hmuted
      rw [heard_cons, heard_cons, List.length_append, List.length_append, htone, htones]
    · rw [completed_cons, completed_cons, hsame, List.map_append, List.map_append, hcompleted]
      cases m.completes? c <;> rfl

end Machine

end ChipEight
