import ChipEight.Proofs.History
import ChipEight.Proofs.Steps

/-!
# Timers over a history

Both timers tick once in every cycle that succeeds, after its instruction. So a tone sounds in the
cycle that asks for it, and the sound timer is never seen running; and the delay timer is seen one
below what it was set to.

* `tones_call`, `tones_calls`: the tones of a call, and those of a history in order.
* `one_tone_per_request`: every cycle that asks for a tone sounds one, on the speaker that was
  linked last, and nothing else does.
* `delay_call`, `delay_calls`: the delay timer after a call, and after a history that does not set
  it.
* `delay_counts_down`: what that means for a machine that sets it.
-/

namespace ChipEight

/-! ## Tones -/

/-- The speaker that an event sounds on, if it is a tone. -/
def Event.speaker? : Event → Option Speaker
  | tone speaker => some speaker
  | notice _ => none

/-- The speakers that the tones of a call sound on, in order. -/
def Report.tones (r : Report) : List Speaker := r.events.filterMap Event.speaker?

/-- The speaker that a call links. -/
def Call.links? : Call → Option Speaker
  | link speaker => some speaker
  | _ => none

/-- The speaker that is linked after the calls: that of the last link, and at first a mute one. -/
def Call.linked (cs : List Call) : Speaker := (cs.filterMap links?).getLast?.getD .mute

theorem Report.tones_eq_nil {r : Report} (h : ∀ speaker, .tone speaker ∉ r.events) :
    r.tones = [] := by
  refine List.filterMap_eq_nil_iff.2 fun event hmem => ?_
  cases event with
  | notice notice => rfl
  | tone speaker => exact absurd hmem (h speaker)

namespace Machine

/-- Whether a call asks for a tone: it is a cycle that succeeds, and sets the sound timer to
anything but zero. -/
def soundsIn (m : Machine) (c : Call) : Bool := (m.completes? c).any fun i => i.sounds m.state

/-- The speakers that the tones of a history sound on, in order. -/
def heard (m : Machine) (cs : List Call) : List Speaker := (m.calls cs).2.flatMap (·.toReport.tones)

theorem heard_cons (m : Machine) (c : Call) (cs : List Call) :
    m.heard (c :: cs) = (m.call c).2.tones ++ (m.call c).1.heard cs := rfl

/-- Only a cycle sounds a tone. -/
theorem tones_of_ne_step (m : Machine) {c : Call} (h : c ≠ .step) : (m.call c).2.tones = [] := by
  cases c with
  | step => exact absurd rfl h
  | load program =>
    change (m.load program).2.tones = []
    unfold load
    split <;> rfl
  | _ => rfl

theorem speaker_call (m : Machine) (c : Call) :
    (m.call c).1.speaker = c.links?.getD m.speaker := by
  cases c with
  | step =>
    change m.step.1.speaker = m.speaker
    rw [step_eq_elim]
    cases m.executes? <;> rfl
  | load program =>
    change (m.load program).1.speaker = m.speaker
    rw [load_eq_memory]
  | _ => rfl

theorem speaker_calls (m : Machine) (cs : List Call) :
    (m.calls cs).1.speaker = (cs.filterMap Call.links?).getLast?.getD m.speaker :=
  m.calls_last cs (·.speaker) speaker_call

variable {m : Machine}

/-- **A call that asks for a tone sounds one**, on the speaker that is linked, and no other call
does. The sound timer must be at rest, else a cycle would sound a tone that it did not ask for. -/
theorem tones_call (h : m.state.sound = 0) (c : Call) :
    (m.call c).2.tones = if m.soundsIn c then [m.speaker] else [] := by
  cases c with
  | step =>
    change m.step.2.tones = if m.executes?.any _ then _ else _
    cases hi : m.executes? with
    | some i =>
      obtain ⟨op, hreport⟩ := report_of_executes hi
      have hsounds := Instruction.soundAfter_pos_iff h i
      rw [hreport, Option.any_some]
      by_cases hask : i.sounds m.state = true
      · rw [if_pos (hsounds.2 hask), if_pos hask]
        rfl
      · rw [if_neg (mt hsounds.1 hask), if_neg hask]
        rfl
    | none =>
      obtain ⟨e, he⟩ := executes?_eq_none_iff.1 hi
      exact Report.tones_eq_nil (step_of_fault he).2
  | _ => exact m.tones_of_ne_step (by simp)

/-- **The tones of a history** are those that it asked for, each on the speaker linked then. -/
theorem tones_calls (h : m.state.InBounds) (cs : List Call) :
    m.heard cs = ((m.visits cs).filter fun v => v.1.soundsIn v.2).map (·.1.speaker) := by
  -- every call leaves the sound timer at rest for the next one
  induction cs generalizing m with
  | nil => rfl
  | cons c cs ih =>
    rw [heard_cons, tones_call h.silent, ih (inBounds_call h c), visits, List.filter_cons]
    by_cases hask : m.soundsIn c = true
    · rw [if_pos hask, if_pos hask]
      rfl
    · rw [if_neg hask, if_neg hask]
      rfl

/-- **One tone for each request.** After any history, a call sounds a tone exactly if it asks for
one, on the speaker that was linked last. So what a speaker has sounded is what was asked for while
it was linked. And between two calls the sound timer is at rest. -/
theorem one_tone_per_request (source : Random.Source) (cs : List Call) :
    ((fresh source).calls cs).1.speaker = Call.linked cs ∧
      (∀ c, (((fresh source).calls cs).1.call c).2.tones =
        if ((fresh source).calls cs).1.soundsIn c then [Call.linked cs] else []) ∧
      (∀ speaker, ((fresh source).heard cs).count speaker =
        ((fresh source).visits cs).countP fun v => v.1.soundsIn v.2 && v.1.speaker == speaker) ∧
      ((fresh source).calls cs).1.state.sound = 0 := by
  have hspeaker : ((fresh source).calls cs).1.speaker = Call.linked cs := speaker_calls _ cs
  have hsilent : ((fresh source).calls cs).1.state.sound = 0 := (inBounds_calls .fresh cs).silent
  refine ⟨hspeaker, fun c => ?_, fun speaker => ?_, hsilent⟩
  · rw [tones_call hsilent, hspeaker]
  · rw [tones_calls .fresh, List.count, List.countP_map, List.countP_filter]
    refine List.countP_congr fun v _ => ?_
    rw [Function.comp_apply, Bool.and_comm]

/-- Two speakers, one after the other, and a request in between that asks for no time at all. -/
example :
    let program : List UInt8 := [0x61, 0x20, 0xF1, 0x18, 0xF0, 0x18, 0xF1, 0x18]
    (fresh (.cycling #[])).heard [.load program, .link (.listener 1), .step, .step,
      .link (.listener 2), .step, .step] = [.listener 1, .listener 2] := by
  decide +kernel

end Machine

/-! ## The delay timer -/

/-- Whether an instruction sets the delay timer. -/
def Instruction.setsDelay : Instruction → Bool
  | setDelay _ => true
  | _ => false

theorem Instruction.delayAfter_of_not_sets {s : State} {i : Instruction} (h : i.setsDelay = false) :
    i.delayAfter s = s.delay := by
  cases i with
  | setDelay x => cases h
  | _ => rfl

theorem toNat_countDown (t : UInt8) : (if t > 0 then t - 1 else 0).toNat = t.toNat - 1 := by
  have hruns : t > 0 ↔ 0 < t.toNat := UInt8.lt_iff_toNat_lt
  by_cases h : t > 0
  · have hpos : 1 ≤ t := UInt8.le_iff_toNat_le.2 (hruns.1 h)
    rw [if_pos h, UInt8.toNat_sub_of_le _ _ hpos]
    rfl
  · have hzero : t.toNat = 0 := Nat.eq_zero_of_not_pos (mt hruns.2 h)
    rw [if_neg h, hzero]
    rfl

namespace Machine

/-- **The delay timer after a call**: what the instruction left of it, less the tick. It stays if no
instruction was carried out. -/
theorem delay_call (m : Machine) (c : Call) :
    (m.call c).1.state.delay.toNat =
      match m.completes? c with
      | some i => (i.delayAfter m.state).toNat - 1
      | none => m.state.delay.toNat := by
  rcases call_cases m c with ⟨i, hc, -, hm⟩ | ⟨hc, memory, keys, redraw, hm⟩
  · rw [hc, hm]
    exact toNat_countDown (i.delayAfter m.state)
  · rw [hc, show (m.call c).1.state = _ from congrArg Core.state hm]

/-- **As long as it is not set, the delay timer counts the successful cycles.** -/
theorem delay_calls {m : Machine} {cs : List Call}
    (h : ∀ e ∈ m.completed cs, e.2.setsDelay = false) :
    (m.calls cs).1.state.delay.toNat = m.state.delay.toNat - (m.completed cs).length := by
  induction cs generalizing m with
  | nil => rfl
  | cons c cs ih =>
    have hcall := delay_call m c
    have hfirst := fun i hi => h (m.state, i) (mem_completed_of_completes? hi cs)
    unfold completed at h ⊢
    rw [show (m.calls (c :: cs)).1 = ((m.call c).1.calls cs).1 from rfl,
      ih fun e hmem => h e (List.mem_append_right _ hmem), hcall]
    cases hc : m.completes? c with
    | none => rfl
    | some i =>
      have hi : i.setsDelay = false := hfirst i hc
      simp only [Option.map_some, Option.toList_some, List.length_append, List.length_singleton,
        Instruction.delayAfter_of_not_sets hi]
      omega

theorem v_step_of_readDelay {m : Machine} {y : Register} (h : m.executes? = some (.readDelay y)) :
    m.step.1.state.v.get y = m.state.delay := by
  -- the register is written before the timer ticks
  rw [step_of_executes h]
  exact (State.getElem_setV m.state y y _).trans (if_pos rfl)

/-- The machine has set its delay timer to `d`, and has come through `n` more cycles since. Here
subtraction stops at zero, as the timer does. -/
structure DelayedFrom (m : Machine) (d n : Nat) : Prop where
  timer : m.state.delay.toNat = d - 1 - n
  /-- If the next cycle, the one after those, asks for the timer, this is what it gets. -/
  read : ∀ y, m.executes? = some (.readDelay y) → (m.step.1.state.v.get y).toNat = d - (n + 1)

/-- **The delay timer counts down**, from when it is set to when it is set again, once for every
cycle that succeeds. Whatever else is called in between makes no difference. Before it is first set,
it is at rest. -/
theorem delay_counts_down :
    (∀ source cs, (∀ e ∈ (fresh source).completed cs, e.2.setsDelay = false) →
      ((fresh source).calls cs).1.state.delay = 0) ∧
    ∀ (m : Machine) (x : Register) (cs : List Call), m.executes? = some (.setDelay x) →
      (∀ e ∈ m.step.1.completed cs, e.2.setsDelay = false) →
      DelayedFrom (m.step.1.calls cs).1 (m.state.v.get x).toNat
        (m.step.1.completed cs).length := by
  refine ⟨fun source cs h => ?_, fun m x cs hset h => ?_⟩
  · have hrest : (fresh source).state.delay.toNat = 0 := rfl
    exact UInt8.toNat_inj.1 ((delay_calls h).trans (by rw [hrest, Nat.zero_sub]; rfl))
  · -- the cycle that sets the timer ticks too
    have hfirst : m.step.1.state.delay.toNat = (m.state.v.get x).toNat - 1 := by
      have hcall := delay_call m .step
      rw [show m.completes? .step = some (.setDelay x) from hset] at hcall
      exact hcall
    have htimer := delay_calls h
    rw [hfirst] at htimer
    refine ⟨htimer, fun y hread => ?_⟩
    rw [v_step_of_readDelay hread, htimer]
    omega

/-- The timer is set to five. Then a register is loaded, a key moves, and the flag is taken; the
timer is at three, and that is what the next cycle reads. -/
theorem delay_counts_down_from_five :
    let program : List UInt8 := [0x61, 0x05, 0xF1, 0x15, 0x60, 0x00, 0xF2, 0x07]
    let cs : List Call := [.step, .setKey 3 true, .takeRedraw]
    let m := ((fresh (.cycling #[])).calls [.load program, .step]).1
    m.executes? = some (.setDelay 1) ∧ (m.step.1.calls cs).1.executes? = some (.readDelay 2) ∧
      (m.step.1.calls cs).1.state.delay.toNat = 3 ∧
      ((m.step.1.calls cs).1.step.1.state.v.get 2).toNat = 3 := by
  intro program cs m
  have hrun : m.executes? = some (.setDelay 1) ∧
      (m.step.1.calls cs).1.executes? = some (.readDelay 2) ∧
      (∀ e ∈ m.step.1.completed cs, e.2.setsDelay = false) ∧
      m.state.v.get 1 = 5 ∧ (m.step.1.completed cs).length = 1 := by
    decide +kernel
  -- from here on the run must not be computed again
  clear_value m
  obtain ⟨hset, hread, hcs, hfive, hone⟩ := hrun
  have hdelayed := delay_counts_down.2 m 1 cs hset hcs
  rw [hfive, hone] at hdelayed
  exact ⟨hset, hread, hdelayed.timer, hdelayed.read 2 hread⟩

end Machine

end ChipEight
