import ChipEight.CommandLine.Outcome
import ChipEight.Proofs.SessionLog
import ChipEight.Proofs.Steps

/-!
# Sessions drive their machine cycle by cycle

A session holds the keys before every cycle and takes the redraw flag back after it, and it counts.
None of that has a part in the cycles, so what a session comes to can be told by the machine on its
own: by its steps, its first failure, and how many of its cycles draw or start a tone.

* `Session.Follows`: how a session stands after so many cycles of a machine. `follows_cycle` is one
  cycle more, `follows_failing_cycle` one that fails.
* `run_follows`, `run_fails`, `run_ends`: whole runs. Once a run fails, more budget makes no
  difference.
* `CommandLine.Request.outcome_of_steps`: what the program leaves behind.
-/

namespace ChipEight

/-! ## A cycle on a display -/

namespace Machine

variable {m : Machine} (redraw : Bool) (speaker : Speaker)

/-- A cycle that succeeds, on another display: the redraw flag comes on if the cycle draws, and a
tone is heard if it starts one. -/
theorem step_withDisplay_of_success (hsilent : m.state.sound = 0) (hok : m.step.2.fault? = none) :
    ∃ events, (m.withDisplay redraw speaker).step =
        (m.step.1.withDisplay (m.draws || redraw) speaker, ⟨none, events⟩) ∧
      events.countP Event.isTone = m.sounds.toNat := by
  obtain ⟨i, hi⟩ := executes_of_success hok
  have hexec := (m.executes?_withDisplay redraw speaker).trans hi
  obtain ⟨op, hreport⟩ := report_of_executes hexec
  have hdraws : m.draws = i.draws := by rw [draws, hi]; rfl
  have hsounds : m.sounds = i.sounds m.state := by rw [sounds, hi]; rfl
  have hmachine := step_of_executes hexec
  rw [after_withDisplay, ← step_of_executes hi, ← hdraws] at hmachine
  refine ⟨_, Prod.ext hmachine hreport, ?_⟩
  -- a tone sounds when the timer runs, and it only runs if this cycle has set it
  have htone := Instruction.soundAfter_pos_iff (s := (m.withDisplay redraw speaker).state) hsilent i
  have hsame : i.sounds (m.withDisplay redraw speaker).state = m.sounds := hsounds.symm
  rw [hsame] at htone
  rw [List.countP_cons_of_neg (by simp [trace, Event.isTone])]
  by_cases h : m.sounds
  · rw [if_pos (htone.2 h), h]; rfl
  · rw [if_neg (mt htone.1 h), Bool.eq_false_iff.2 h]; rfl

/-- A cycle that fails, on another display: nothing happens, and nothing is heard. -/
theorem step_withDisplay_of_failure {e : Fault} (hfail : m.step.2.fault? = some e) :
    ∃ events, (m.withDisplay redraw speaker).step =
        (m.withDisplay redraw speaker, ⟨some e, events⟩) ∧
      events.countP Event.isTone = 0 := by
  have hfault : (m.withDisplay redraw speaker).state.fault? = some e := by
    rw [fault?_withDisplay, ← fault?_step, hfail]
  obtain ⟨hmachine, hquiet⟩ := step_of_fault hfault
  have hreport := (fault?_step (m.withDisplay redraw speaker)).trans hfault
  refine ⟨(m.withDisplay redraw speaker).step.2.events,
    Prod.ext hmachine (by rw [← hreport]), List.countP_eq_zero.2 ?_⟩
  intro event hmem
  cases event with
  | notice => exact Bool.false_ne_true
  | tone speaker' => exact absurd hmem (hquiet speaker')

end Machine

namespace Session

/-! ## One cycle -/

section Cycle

variable {keys : Keypad} {s : Session} {m m' : Machine} {events : List Event}

theorem cycle_of_success (hm : s.machine.setKeys keys = m) (hstep : m.step = (m', ⟨none, events⟩)) :
    let t := events.foldl hear { s with machine := m' }
    s.cycle keys =
      ({ t with
          machine := t.machine.takeRedraw.1
          cycles := t.cycles + 1
          frames := t.frames + t.machine.needsRedraw.toNat }, none) := by
  simp only [cycle, hm, hstep]
  rfl

theorem cycle_of_failure {e : Fault} (hm : s.machine.setKeys keys = m)
    (hstep : m.step = (m', ⟨some e, events⟩)) :
    let t := events.foldl hear { s with machine := m' }
    s.cycle keys =
      (t.note .error .runner fun _ => (haltedEntry t.cycles t.machine.state.pc e).message,
        some e) := by
  simp only [cycle, hm, hstep, message_haltedEntry]

end Cycle

/-! ## Following a machine -/

/-- What a session says of the tones in the first cycles of a machine. -/
def beepEntries (m : Machine) (n : Nat) : List Log.Entry :=
  (List.range' 1 (m.tones n)).map beepEntry

theorem beepEntries_zero (m : Machine) : beepEntries m 0 = [] := rfl

/-- The session stands where the machine is after `n` cycles: the same core, and the counts of these
cycles. The redraw flag was taken, and these keys are held. All that it has said is `said`, as far
as the filter shows it. -/
structure Follows (s : Session) (f : Log.Filter) (m : Machine) (n : Nat) (held : Keypad)
    (said : List Log.Entry) : Prop where
  machine : s.machine = ((m.steps n).withDisplay false speaker).setKeys held
  filter : s.filter = f
  cycles : s.cycles = n
  frames : s.frames = m.drawings n
  beeps : s.beeps = m.tones n
  spoken : s.spoken = said.filter f.shows

variable {s t : Session} {f : Log.Filter} {m : Machine} {n : Nat} {held : Keypad}
  {opening said : List Log.Entry} {e : Fault}

namespace Follows

/-- With the keys held, a session differs from its machine in the display alone. -/
theorem setKeys (h : s.Follows f m n held said) :
    s.machine.setKeys m.state.keys = (m.steps n).withDisplay false speaker := by
  rw [h.machine, ← m.keys_steps n]
  rfl

/-- Notices of the engine make no difference. -/
theorem heard (h : s.Follows f m n held said) (hh : s.Heard t 0) : t.Follows f m n held said where
  machine := hh.machine.trans h.machine
  filter := hh.filter.trans h.filter
  cycles := hh.cycles.trans h.cycles
  frames := hh.frames.trans h.frames
  beeps := hh.beeps.trans h.beeps
  spoken := hh.spoken.trans ((List.append_nil _).trans h.spoken)

/-- A note adds to what was said. -/
theorem note (h : s.Follows f m n held said) (level : Log.Level) (message : Unit → String) :
    (s.note level .runner message).Follows f m n held
      (said ++ [⟨level, .runner, message ()⟩]) := by
  have hspoken := s.spoken_note level message
  rw [h.spoken, h.filter, ← List.filter_append] at hspoken
  obtain ⟨log, hlog⟩ := s.note_eq_log level .runner message
  rw [hlog] at hspoken ⊢
  exact ⟨h.machine, h.filter, h.cycles, h.frames, h.beeps, hspoken⟩

/-- In the end the counts are said. -/
theorem close (h : s.Follows f m n held said) :
    s.close.Follows f m n held (said ++ [countsEntry n (m.drawings n)]) := by
  have hcounts : s.close =
      s.note .info .runner fun _ => (countsEntry n (m.drawings n)).message := by
    rw [← h.frames, ← h.cycles]
    rfl
  rw [hcounts]
  exact h.note .info _

end Follows

/-- **One cycle more**, if it succeeds. -/
theorem follows_cycle (h : s.Follows f m n held (opening ++ beepEntries m n))
    (hsilent : (m.steps n).state.sound = 0) (hok : (m.steps n).step.2.fault? = none) :
    ∃ t, s.cycle m.state.keys = (t, none) ∧
      t.Follows f m (n + 1) m.state.keys (opening ++ beepEntries m (n + 1)) := by
  obtain ⟨events, hstep, htones⟩ :=
    Machine.step_withDisplay_of_success false speaker hsilent hok
  rw [Bool.or_false] at hstep
  have hheard := heard_foldl
    { s with machine := (m.steps (n + 1)).withDisplay (m.steps n).draws speaker } events
  rw [htones] at hheard
  refine ⟨_, cycle_of_success h.setKeys hstep, ⟨?_, ?_, ?_, ?_, ?_, ?_⟩⟩
  -- the flag is that of this cycle alone, since it was taken after the one before
  · refine (congrArg (fun m => m.takeRedraw.1) hheard.machine).trans ?_
    rw [← m.keys_steps (n + 1)]
    rfl
  · exact hheard.filter.trans h.filter
  · exact congrArg (· + 1) (hheard.cycles.trans h.cycles)
  · rw [m.drawings_succ, ← h.frames]
    exact congrArg₂ (· + ·) hheard.frames (congrArg (fun m => m.needsRedraw.toNat) hheard.machine)
  · rw [m.tones_succ, ← h.beeps]
    exact hheard.beeps
  · refine hheard.spoken.trans ?_
    -- the tones of this cycle are numbered on from those before
    have hnext : s.beeps + 1 = 1 + m.tones n := by rw [h.beeps, Nat.add_comm]
    change s.spoken ++ ((List.range' (s.beeps + 1) _).map beepEntry).filter s.filter.shows = _
    rw [h.spoken, h.filter, hnext, ← List.filter_append, beepEntries, List.append_assoc,
      ← List.map_append, List.range'_append_1, ← m.tones_succ]
    rfl

/-- **A cycle that fails** is one to report, and leaves all else as it was. -/
theorem follows_failing_cycle (h : s.Follows f m n held said)
    (hfail : (m.steps n).step.2.fault? = some e) :
    ∃ t, s.cycle m.state.keys = (t, some e) ∧
      t.Follows f m n m.state.keys (said ++ [haltedEntry n (m.steps n).state.pc e]) := by
  obtain ⟨events, hstep, htones⟩ := Machine.step_withDisplay_of_failure false speaker hfail
  have hheld : { s with machine := (m.steps n).withDisplay false speaker }.Follows f m n
      m.state.keys said :=
    { h with machine := by rw [← m.keys_steps n]; rfl }
  have hheard := heard_foldl { s with machine := (m.steps n).withDisplay false speaker } events
  rw [htones] at hheard
  have hquiet := hheld.heard hheard
  refine ⟨_, cycle_of_failure h.setKeys hstep, ?_⟩
  rw [hquiet.cycles, hquiet.machine]
  exact hquiet.note .error fun _ => (haltedEntry n (m.steps n).state.pc e).message

/-! ## Running -/

/-- As long as the cycles succeed, a session goes through them one by one. -/
theorem run_follows (h : s.Follows f m 0 held opening)
    (hbounds : m.state.InBounds) (hok : ∀ j < n, (m.steps j).step.2.fault? = none) :
    ∃ t, run m.state.keys n s = (t, none) ∧
      t.Follows f m n (if n = 0 then held else m.state.keys) (opening ++ beepEntries m n) := by
  induction n with
  | zero => exact ⟨s, rfl, by rwa [beepEntries_zero, List.append_nil]⟩
  | succ n ih =>
    obtain ⟨t, hrun, ht⟩ := ih fun j hj => hok j (Nat.lt_succ_of_lt hj)
    have hsilent := (Machine.inBounds_steps hbounds n).silent
    obtain ⟨u, hcycle, hu⟩ := follows_cycle ht hsilent (hok n (Nat.lt_succ_self n))
    refine ⟨u, ?_, by rwa [if_neg (Nat.succ_ne_zero n)]⟩
    rw [run_add, hrun]
    simp only [run, hcycle]

/-- **If a cycle fails, every budget that gets so far comes to the same.** -/
theorem run_fails (h : s.Follows f m 0 held opening)
    (hbounds : m.state.InBounds) (hn : m.firstFailure = n) :
    ∃ t e, (m.steps n).step.2.fault? = some e ∧
      (∀ budget, n < budget → run m.state.keys budget s = (t, some e)) ∧
      t.Follows f m n m.state.keys
        (opening ++ beepEntries m n ++ [haltedEntry n (m.steps n).state.pc e]) := by
  obtain ⟨e, he⟩ := Option.ne_none_iff_exists'.1 (Machine.fails_at_firstFailure hn)
  have hok : ∀ j < n, (m.steps j).step.2.fault? = none := fun j hj =>
    Machine.succeeds_of_lt_firstFailure (by rw [hn]; exact Nat.cast_lt.2 hj)
  obtain ⟨t, hrun, ht⟩ := run_follows h hbounds hok
  obtain ⟨u, hcycle, hu⟩ := follows_failing_cycle ht he
  refine ⟨u, e, he, fun budget hlt => ?_, hu⟩
  -- up to the failing cycle no budget shows, and behind it nothing is run
  obtain ⟨rest, rfl⟩ := Nat.exists_eq_add_of_lt hlt
  rw [Nat.add_assoc, run_add, hrun]
  simp only [run, hcycle]

/-- **A run goes through its budget or up to the first failure**, whichever comes first. -/
theorem run_ends (h : s.Follows f m 0 held opening)
    (hbounds : m.state.InBounds) (budget : Nat) :
    ∃ (n : Nat) (t : Session) (fault? : Option Fault), (n : ℕ∞) = min (budget : ℕ∞) m.firstFailure ∧
      run m.state.keys budget s = (t, fault?) ∧
      (fault? = none ↔ (budget : ℕ∞) ≤ m.firstFailure) ∧
      (∀ e, fault? = some e → (m.steps n).step.2.fault? = some e) ∧
      t.Follows f m n (if budget = 0 then held else m.state.keys)
        (opening ++ beepEntries m n ++
          (fault?.map (haltedEntry n (m.steps n).state.pc)).toList) := by
  by_cases hle : (budget : ℕ∞) ≤ m.firstFailure
  · have hok : ∀ j < budget, (m.steps j).step.2.fault? = none := fun j hj =>
      Machine.succeeds_of_lt_firstFailure (lt_of_lt_of_le (Nat.cast_lt.2 hj) hle)
    obtain ⟨t, hrun, ht⟩ := run_follows h hbounds hok
    refine ⟨budget, t, none, (min_eq_left hle).symm, hrun, iff_of_true rfl hle, by simp, ?_⟩
    rwa [Option.map_none, Option.toList_none, List.append_nil]
  · have hlt := lt_of_not_ge hle
    obtain ⟨n, hn⟩ := ENat.ne_top_iff_exists.1 (ne_top_of_lt hlt)
    obtain ⟨t, e, he, hrun, ht⟩ := run_fails h hbounds hn.symm
    have hbudget : n < budget := by rwa [← hn, Nat.cast_lt] at hlt
    refine ⟨n, t, some e, hn.trans (min_eq_right hlt.le).symm, hrun budget hbudget,
      iff_of_false (by simp) hle, by simpa using he, ?_⟩
    rwa [if_neg (Nat.ne_zero_of_lt hbudget)]

/-- A session starts with its program loaded and no key held, and says so. -/
theorem start_follows (machine : Machine) (f : Log.Filter) (path : String) {program : List UInt8}
    (hfits : program.length ≤ Memory.programLimit) (keys : Keypad)
    (hreleased : machine.state.keys = .released) (hredraw : machine.state.redraw = false) :
    ∃ s, start machine f path program = .ok s ∧
      s.Follows f ((machine.load program).1.setKeys keys) 0 .released
        [loadedEntry path program.length] := by
  have hload := Machine.load_of_fits (m := machine.link speaker) hfits
  have hbase : Follows { machine := ((machine.link speaker).load program).1, filter := f } f
      ((machine.load program).1.setKeys keys) 0 .released [] := by
    refine ⟨?_, rfl, rfl, rfl, rfl, rfl⟩
    rw [hload, Machine.load_of_fits hfits, ← hreleased, ← hredraw]
    rfl
  have hheard := hbase.heard (heard_hear _ (.notice (.loaded program.length)))
  refine ⟨_, ?_, hheard.note .info fun _ => (loadedEntry path program.length).message⟩
  simp only [start, hload]
  rfl

/-- The registers that are printed are those of the machine. -/
theorem Follows.summary (h : s.Follows f m n held said) :
    s.summary = printedState (m.steps n).state := by
  rw [summary_eq, h.machine]
  rfl

end Session

/-! ## What the program leaves behind -/

namespace CommandLine.Request

open Session

/-- The outcome in terms of the run that leads to it. -/
theorem outcome_of_run {r : Request} {env : Environment} {start ran : Session}
    {fault? : Option Fault} (hstart : r.start env = .ok start)
    (hrun : start.run r.keys r.budget = (ran, fault?)) :
    r.outcome env =
      { exitCode := if fault?.isSome then 1 else 0
        stdout := ran.close.summary ++ "\n"
        stderr := ran.close.log.toList.map Log.Entry.line ++
          (fault?.map fun e => failure e.record).toList } := by
  unfold outcome
  rw [hstart]
  simp only [hrun]
  cases fault? <;> simp

/-- **Sessions are their machines, cycle by cycle.** The machine here is that of the seed with the
program loaded and the keys held once and for all, and it comes through its first `k` cycles.

A run with a budget performs its cycles up to the first failure, which it reports. What it prints
and logs are the registers then, the tones one by one, how many cycles drew, and where it halted.
The core is that of the machine, but that the redraw flag was taken, and that keys are held from the
first cycle on. A run that meets the failure is the same for any larger budget. The cause that it
reports is the message of the fault. With no text for the filter of the log, what is shown of it are
the errors. -/
theorem outcome_of_steps (r : Request) (env : Environment) {program : List UInt8} {budget : UInt64}
    (hfile : env.contentsOf r.program = .ok program)
    (hfits : program.length ≤ Memory.programLimit) (hbudget : r.options.cycles? = some budget) :
    let m := ((Machine.seeded (r.options.seed?.getD env.entropy)).load program).1.setKeys r.keys
    let k := m.firstFailure
    (∃ (n : Nat) (start ran : Session) (fault? : Option Fault),
      (n : ℕ∞) = min (budget.toNat : ℕ∞) k ∧
      r.start env = .ok start ∧ start.run r.keys r.budget = (ran, fault?) ∧
      (fault? = none ↔ (budget.toNat : ℕ∞) ≤ k) ∧
      (∀ e, fault? = some e → (m.steps n).step.2.fault? = some e) ∧
      ran.close.Follows env.filter m n (if budget = 0 then .released else r.keys)
        ([loadedEntry r.program program.length] ++ beepEntries m n ++
          (fault?.map (haltedEntry n (m.steps n).state.pc)).toList ++
          [countsEntry n (m.drawings n)]) ∧
      r.outcome env =
        { exitCode := if fault?.isSome then 1 else 0
          stdout :=
            "pc " ++ Hex.printed 4 (m.steps n).state.pc.toNat ++
              " i " ++ Hex.printed 4 (m.steps n).state.i.toNat ++
              " v " ++ (m.steps n).state.v.printed ++ "\n"
          stderr := ran.close.log.toList.map Log.Entry.printed ++
            (fault?.map fun e => failure e.record).toList }) ∧
    (∀ other : UInt64, k < budget.toNat → k < other.toNat →
      { r with options.cycles? := some other }.outcome env = r.outcome env) ∧
    (∀ e : Fault, e.message = e.sentence) ∧
    (env.logging = "" → ∀ entry, env.filter.shows entry ↔ entry.level = .error) := by
  intro m k
  have hbounds : m.state.InBounds :=
    Machine.inBounds_calls .fresh [.load program, .setKeys r.keys]
  obtain ⟨start, hopen, hfollows⟩ := start_follows
    (Machine.seeded (r.options.seed?.getD env.entropy)) env.filter r.program hfits r.keys rfl rfl
  have hstart : ∀ cycles?, { r with options.cycles? := cycles? }.start env = .ok start := by
    intro cycles?
    simp only [Request.start, hfile, hopen]
  have hlimit : r.budget = budget.toNat := by rw [Request.budget, hbudget]
  have hzero : budget.toNat = 0 ↔ budget = 0 := by
    rw [← UInt64.toNat_inj]; rfl
  refine ⟨?_, ?_, Fault.message_eq_sentence, ?_⟩
  · obtain ⟨n, ran, fault?, hn, hrun, hends, hfault, hran⟩ := run_ends hfollows hbounds r.budget
    rw [hlimit] at hn hends
    simp only [hlimit, hzero] at hran
    refine ⟨n, start, ran, fault?, hn, hstart _, hrun, hends, hfault, hran.close, ?_⟩
    rw [outcome_of_run (hstart _) hrun, hran.close.summary, printedState,
      funext Log.Entry.line_eq_printed]
  · intro other hlt hlt'
    obtain ⟨n, hn⟩ := ENat.ne_top_iff_exists.1 (ne_top_of_lt hlt)
    obtain ⟨ran, e, -, hrun, -⟩ := run_fails hfollows hbounds hn.symm
    rw [← hn, Nat.cast_lt] at hlt hlt'
    rw [outcome_of_run (hstart _) (hrun _ (hlimit ▸ hlt)),
      outcome_of_run (hstart (some other)) (hrun _ hlt')]
  · intro hlogging entry
    rw [Environment.filter, hlogging]
    exact Log.Filter.shows_read_empty entry

/-- A program that clears the screen, sounds a tone, and returns from no call. -/
theorem outcome_of_steps_beeps :
    let program : List UInt8 := [0x00, 0xE0, 0x61, 0x01, 0xF1, 0x18, 0x00, 0xEE]
    let r : Request := { program := "rom.ch8", options := { cycles? := some 5, seed? := some 1 } }
    let env : Environment := { entropy := 0, contentsOf := fun _ => .ok program }
    r.outcome env =
      { exitCode := 1
        stdout :=
          "pc 0206 i 0000 v [00, 01, 00, 00, 00, 00, 00, 00, " ++
            "00, 00, 00, 00, 00, 00, 00, 00]\n"
        stderr :=
          ["[ERROR chip8::run] halted after 3 cycles at 0x206: " ++
              "stack underflow returning from 0x206",
            "Error: StackUnderflow \x7b address: 518 \x7d"] } ∧
      ∃ start ran : Session, r.start env = .ok start ∧
        start.run r.keys r.budget = (ran, some (.stackUnderflow 0x206)) ∧
        ran.close.cycles = 3 ∧ ran.close.frames = 1 ∧ ran.close.beeps = 1 := by
  intro program r env
  obtain ⟨⟨n, start, ran, fault?, hn, hstart, hrun, hends, hfault, hran, -⟩, -⟩ :=
    @outcome_of_steps r env program 5 rfl (by decide) rfl
  generalize hm : ((Machine.seeded (r.options.seed?.getD env.entropy)).load program).1.setKeys
    r.keys = m at *
  have hruns : (m.steps 3).step.2.fault? = some (.stackUnderflow 0x206) ∧
      (∀ j < 3, (m.steps j).step.2.fault? = none) ∧ m.drawings 3 = 1 ∧ m.tones 3 = 1 := by
    rw [← hm]; decide +kernel
  obtain ⟨hfail, hok, hframes, hbeeps⟩ := hruns
  have hfirst : m.firstFailure = (3 : Nat) :=
    Machine.firstFailure_eq (by rw [hfail]; exact Option.some_ne_none _) hok
  have hlt : m.firstFailure < (UInt64.toNat 5 : ℕ∞) := by
    rw [hfirst]; exact Nat.cast_lt.2 (by decide)
  rw [min_eq_right hlt.le, hfirst, Nat.cast_inj] at hn
  subst hn
  obtain ⟨e, rfl⟩ := Option.ne_none_iff_exists'.1 (mt hends.1 (not_le_of_gt hlt))
  cases Option.some.inj ((hfault e rfl).symm.trans hfail)
  refine ⟨?_, start, ran, hstart, hrun, hran.cycles, ?_, ?_⟩
  · -- the filter is read first, as its text cannot be split by evaluation
    have hfilter : env.filter = Log.Filter.errorsOnly := Log.Filter.read_empty
    unfold outcome Request.start
    rw [hfilter]
    decide +kernel
  · rw [hran.frames, hframes]
  · rw [hran.beeps, hbeeps]

end CommandLine.Request

end ChipEight
