import ChipEight.Proofs.Assembly
import ChipEight.Proofs.History
import ChipEight.Proofs.Wording

/-!
# The trace of a run

A cycle that gets as far as an instruction leaves a trace of it, and a cycle that fails says so, in
this order. A trace is a line of columns. Its program counter lies in memory, or there would be no
instruction, so it has three digits; and no mnemonic is wider than its column. So all traces have
the same width, and can be read back column by column.

* `Notice.length_trace`, `Notice.trace_inj`: the width of a trace, and what can be read off it.
* `Machine.logs_step`: what a cycle writes into the log, by how far it gets.
* `Machine.trace_of_mem_logged`: every trace of a run is that of one of its cycles.
* `Machine.trace_faithful`: all of that for whole runs.
-/

namespace ChipEight

/-- The entry of an event in a log, if it has one. -/
def Event.entry? : Event → Option Log.Entry
  | notice n => some ⟨n.level, .engine, n.message⟩
  | tone _ => none

/-- What a call writes into the log, in order. -/
def Report.entries (r : Report) : List Log.Entry := r.events.filterMap Event.entry?

namespace Notice

/-! ## The columns of a trace -/

variable {pc pc' : UInt16} {op op' : Opcode} {instruction instruction' : Instruction}
  {v v' : Registers} {i i' : UInt16}

theorem length_mnemonic_column (instruction : Instruction) :
    (Text.column 16 instruction.mnemonic).length = 16 :=
  Text.length_column instruction.length_mnemonic_le

/-- The program counter of a trace has three digits, if it lies in memory. -/
theorem trace_eq (hpc : pc.toNat < 0x1000) :
    trace pc op instruction v i =
      Hex.fixed 3 pc.toNat ++ (": " ++ (Hex.fixed 4 op.toNat ++ (" " ++
        (Text.column 16 instruction.mnemonic ++ (" v" ++ (v.text ++ (" i" ++
          Hex.fixed 4 i.toNat))))))) := by
  simp only [trace, Hex.atLeast_eq_fixed (by decide : 0 < 3) hpc, String.append_assoc]

/-- **All traces have the same width.** -/
theorem length_trace (hpc : pc.toNat < 0x1000) : (trace pc op instruction v i).length = 98 := by
  simp only [trace_eq hpc, String.length_append, Hex.length_fixed, length_mnemonic_column,
    v.length_text]
  rfl

example :
    trace 0x200 0x6105 (.load 1 0x05) (Vector.replicate 16 0) 0x0FFF =
      "200: 6105 LD V1, 0x05      v[00, 00, 00, 00, 00, 00, 00, 00, " ++
        "00, 00, 00, 00, 00, 00, 00, 00] i0FFF" := by
  decide +kernel

/-- **What a trace shows can be read off it.** -/
theorem trace_inj (hpc : pc.toNat < 0x1000) (hpc' : pc'.toNat < 0x1000)
    (h : trace pc op instruction v i = trace pc' op' instruction' v' i') :
    pc = pc' ∧ op = op' ∧ v = v' ∧ i = i' := by
  rw [trace_eq hpc, trace_eq hpc'] at h
  obtain ⟨hplace, h⟩ := Text.append_sep_inj (by simp) h
  obtain ⟨hword, h⟩ := Text.append_sep_inj (by simp) h
  obtain ⟨-, h⟩ := Text.append_sep_inj (by simp [length_mnemonic_column]) h
  obtain ⟨hregisters, hindex⟩ := Text.append_sep_inj (by simp [Registers.length_text]) h
  exact ⟨UInt16.toNat_inj.1 (Hex.fixed_inj hpc hpc' hplace),
    UInt16.toNat_inj.1 (Hex.fixed_inj op.toNat_lt op'.toNat_lt hword),
    Registers.text_injective hregisters,
    UInt16.toNat_inj.1 (Hex.fixed_inj i.toNat_lt i'.toNat_lt hindex)⟩

end Notice

namespace Machine

/-! ## Cycles -/

/-- The entry that shows a machine on the point of executing an instruction: its program counter,
the word there, the mnemonic in a column of its own, its registers, and I. -/
def traceEntry (m : Machine) (op : Opcode) (i : Instruction) : Log.Entry :=
  ⟨.trace, .engine,
    Hex.printed 3 m.state.pc.toNat ++ ": " ++ Hex.printed 4 op.toNat ++ " " ++
      String.ofList (i.mnemonic.toList.rightpad 16 ' ') ++ " v" ++ m.state.v.printed ++ " i" ++
      Hex.printed 4 m.state.i.toNat⟩

/-- The entry that says where and why a cycle has failed. -/
def failureEntry (m : Machine) (e : Fault) : Log.Entry :=
  ⟨.debug, .engine, "cycle at 0x" ++ Hex.printed 3 m.state.pc.toNat ++ " failed: " ++ e.sentence⟩

theorem entry?_decoded (m : Machine) (op : Opcode) (i : Instruction) :
    Event.entry? (.notice (.decoded m.state.pc op i m.state.v m.state.i)) =
      some (m.traceEntry op i) := by
  rw [traceEntry, ← Notice.trace_eq_columns]
  rfl

theorem entry?_failed (m : Machine) (e : Fault) :
    Event.entry? (.notice (.failed m.state.pc e)) = some (m.failureEntry e) := by
  rw [failureEntry, ← Notice.message_failed]
  rfl

/-- The word at the program counter is read as the instruction. -/
def Decodes (m : Machine) (op : Opcode) (i : Instruction) : Prop :=
  m.state.memory.word m.state.pc.toNat = .ok op ∧ Instruction.decode op m.state.pc = .ok i

/-- What a cycle fails with, and what it writes into the log, by how far it gets. -/
inductive Logs (m : Machine) : Option Fault → List Log.Entry → Prop
  | fetch {e} : m.state.memory.word m.state.pc.toNat = .error e →
      m.Logs (some e) [m.failureEntry e]
  | decode {op e} : m.state.memory.word m.state.pc.toNat = .ok op →
      Instruction.decode op m.state.pc = .error e → m.Logs (some e) [m.failureEntry e]
  | execute {op i e core} : m.Decodes op i → i.execute.run m.toCore = .error e core →
      m.Logs (some e) [m.traceEntry op i, m.failureEntry e]
  | success {op i core} : m.Decodes op i → i.execute.run m.toCore = .ok () core →
      m.Logs none [m.traceEntry op i]

theorem entries_tick (m : Machine) : m.tick.2.filterMap Event.entry? = [] := by
  unfold tick
  split
  split <;> rfl

/-- **What a cycle writes into the log.** -/
theorem logs_step (m : Machine) : m.Logs m.step.2.fault? m.step.2.entries := by
  cases hw : m.state.memory.word m.state.pc.toNat with
  | error e =>
    simp only [step, hw, Report.entries, List.filterMap_cons, entry?_failed, List.filterMap_nil]
    exact .fetch hw
  | ok op =>
    cases hd : Instruction.decode op m.state.pc with
    | error e =>
      simp only [step, hw, hd, Report.entries, List.filterMap_cons, entry?_failed,
        List.filterMap_nil]
      exact .decode hw hd
    | ok i =>
      cases hrun : i.execute.run m.toCore with
      | error e core =>
        simp only [step, hw, hd, hrun, Report.entries, List.filterMap_cons, entry?_decoded,
          entry?_failed, List.filterMap_nil]
        exact .execute ⟨hw, hd⟩ hrun
      | ok _ core =>
        simp only [step, hw, hd, hrun, Report.entries, List.filterMap_cons, entry?_decoded,
          entries_tick]
        exact .success ⟨hw, hd⟩ hrun

variable {m m' : Machine} {op op' : Opcode} {i i' : Instruction}

/-- A cycle leaves no trace but that of its instruction. -/
theorem trace_of_mem_step {entry : Log.Entry} (hentry : entry ∈ m.step.2.entries)
    (hlevel : entry.level = .trace) : ∃ op i, m.Decodes op i ∧ entry = m.traceEntry op i := by
  have hlogs := m.logs_step
  generalize m.step.2.fault? = fault?, m.step.2.entries = entries at hlogs hentry
  cases hlogs with
  | fetch | decode =>
    rw [List.mem_singleton.1 hentry] at hlevel
    cases hlevel
  | @execute op i e core hdecodes =>
    rcases List.mem_cons.1 hentry with htrace | hfailure
    · exact ⟨op, i, hdecodes, htrace⟩
    · rw [List.mem_singleton.1 hfailure] at hlevel
      cases hlevel
  | @success op i core hdecodes => exact ⟨op, i, hdecodes, List.mem_singleton.1 hentry⟩

/-- Only cycles leave traces. -/
theorem level_of_mem_call {c : Call} (hc : c ≠ .step) {entry : Log.Entry}
    (hentry : entry ∈ (m.call c).2.entries) : entry.level ≠ .trace := by
  cases c with
  | step => exact absurd rfl hc
  | load program =>
    change entry ∈ (m.load program).2.entries at hentry
    unfold load at hentry
    split at hentry
    · rw [List.mem_singleton.1 hentry]
      exact Log.Level.noConfusion
    · cases hentry
  | _ => cases hentry

theorem Decodes.pc_lt (h : m.Decodes op i) : m.state.pc.toNat < 0x1000 := by
  have hpc : m.state.pc.toNat + 2 ≤ 0x1000 := Memory.word_eq_ok_iff.1 ⟨op, h.1⟩
  omega

theorem message_traceEntry (m : Machine) (op : Opcode) (i : Instruction) :
    (m.traceEntry op i).message = Notice.trace m.state.pc op i m.state.v m.state.i :=
  (Notice.trace_eq_columns ..).symm

theorem length_traceEntry (h : m.Decodes op i) : (m.traceEntry op i).message.length = 98 := by
  rw [message_traceEntry]
  exact Notice.length_trace h.pc_lt

/-- **Two traces are the same** if and only if they show the same. -/
theorem traceEntry_eq_iff (h : m.Decodes op i) (h' : m'.Decodes op' i') :
    (m.traceEntry op i).message = (m'.traceEntry op' i').message ↔
      m.state.pc = m'.state.pc ∧ op = op' ∧ m.state.v = m'.state.v ∧ m.state.i = m'.state.i := by
  constructor
  · rw [message_traceEntry, message_traceEntry]
    exact Notice.trace_inj h.pc_lt h'.pc_lt
  · rintro ⟨hpc, rfl, hv, hi⟩
    have hread := Instruction.decode_eq_ok_iff.1 h.2
    rw [Instruction.decode_eq_ok_iff.1 h'.2] at hread
    cases hread
    simp only [traceEntry, hpc, hv, hi]

/-! ## Runs -/

/-- What a history writes into the log, in order. -/
def logged (m : Machine) (cs : List Call) : List Log.Entry :=
  (m.calls cs).2.flatMap (·.toReport.entries)

/-- A history writes what its calls write. -/
theorem logged_eq (m : Machine) (cs : List Call) :
    m.logged cs = (m.visits cs).flatMap fun visit => (visit.1.call visit.2).2.entries := by
  induction cs generalizing m with
  | nil => rfl
  | cons c cs ih => exact congrArg ((m.call c).2.entries ++ ·) (ih (m.call c).1)

/-- **Every trace of a run is that of one of its cycles**, and shows the machine as it met it. -/
theorem trace_of_mem_logged {cs : List Call} {entry : Log.Entry} (hentry : entry ∈ m.logged cs)
    (hlevel : entry.level = .trace) :
    ∃ m' op i, (m', .step) ∈ m.visits cs ∧ m'.Decodes op i ∧ entry = m'.traceEntry op i := by
  rw [logged_eq] at hentry
  obtain ⟨⟨m', c⟩, hvisit, hmem⟩ := List.mem_flatMap.1 hentry
  have hc : c = .step := by
    by_contra hne
    exact level_of_mem_call hne hmem hlevel
  subst hc
  obtain ⟨op, i, hdecodes, htrace⟩ := trace_of_mem_step hmem hlevel
  exact ⟨m', op, i, hvisit, hdecodes, htrace⟩

/-- **The trace of a run is faithful.** Every cycle of a run writes what it should into the log: a
trace of its instruction, if it has one, as the machine was before, and then the failure, if it
fails. Nothing else in the log is a trace. All traces have 98 characters, and those of any two runs
are the same if and only if they show the same program counter, word, registers and I. The cause
that a failure is told with is the message of the fault. -/
theorem trace_faithful (source : Random.Source) (cs : List Call) :
    ((fresh source).logged cs =
      ((fresh source).visits cs).flatMap fun visit => (visit.1.call visit.2).2.entries) ∧
    (∀ m, (m, .step) ∈ (fresh source).visits cs → m.Logs m.step.2.fault? m.step.2.entries) ∧
    (∀ entry ∈ (fresh source).logged cs, entry.level = .trace → entry.message.length = 98 ∧
      ∃ m op i, (m, .step) ∈ (fresh source).visits cs ∧ m.Decodes op i ∧
        entry = m.traceEntry op i) ∧
    (∀ m m' op op' i i', Decodes m op i → Decodes m' op' i' →
      ((m.traceEntry op i).message = (m'.traceEntry op' i').message ↔
        m.state.pc = m'.state.pc ∧ op = op' ∧ m.state.v = m'.state.v ∧
          m.state.i = m'.state.i)) ∧
    ∀ e : Fault, e.message = e.sentence := by
  refine ⟨logged_eq _ cs, fun m _ => m.logs_step, ?_, ?_, Fault.message_eq_sentence⟩
  · intro entry hentry hlevel
    obtain ⟨m, op, i, hvisit, hdecodes, rfl⟩ := trace_of_mem_logged hentry hlevel
    exact ⟨length_traceEntry hdecodes, m, op, i, hvisit, hdecodes, rfl⟩
  · intro m m' op op' i i' hdecodes hdecodes'
    exact traceEntry_eq_iff hdecodes hdecodes'

/-- A return with no call open leaves a trace before it fails, and then says where and why. -/
theorem trace_faithful_of_underflow :
    let calls : List Call := [.load [0x00, 0xEE], .step]
    let m := ((fresh (.cycling #[])).load [0x00, 0xEE]).1
    (m, .step) ∈ (fresh (.cycling #[])).visits calls ∧
      m.Logs m.step.2.fault? m.step.2.entries ∧ m.Decodes 0x00EE .ret ∧
      m.traceEntry 0x00EE .ret ∈ (fresh (.cycling #[])).logged calls ∧
      (m.traceEntry 0x00EE .ret).message.length = 98 ∧
      (m.failureEntry (.stackUnderflow 0x200)).message =
        "cycle at 0x200 failed: stack underflow returning from 0x200" := by
  intro calls m
  have hvisit : (m, .step) ∈ (fresh (.cycling #[])).visits calls :=
    List.mem_cons_of_mem _ List.mem_cons_self
  obtain ⟨hlog, hlogs, hwidth, -⟩ := trace_faithful (.cycling #[]) calls
  have hdecodes : m.Decodes 0x00EE .ret := by
    constructor <;> decide +kernel
  have hentry : m.traceEntry 0x00EE .ret ∈ (fresh (.cycling #[])).logged calls := by
    decide +kernel
  exact ⟨hvisit, hlogs m hvisit, hdecodes, hentry, (hwidth _ hentry rfl).1, by decide +kernel⟩

end Machine

end ChipEight
