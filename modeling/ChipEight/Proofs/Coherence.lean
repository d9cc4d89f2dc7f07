import ChipEight.Proofs.Failure
import ChipEight.Proofs.History
import ChipEight.Proofs.StraightLine

/-!
# Memory is its last writes

Programs are loaded over each other and write to themselves, and memory has only the bytes that came
of it. Here it is told from the writes of a history: loads that succeeded, and cycles that carried
out one of the two instructions that write.

* `Write.last?`: the byte of the last write that covers an address.
* `memory_call`: a call puts its write into memory, and does nothing else to it.
* `getElem_memory_calls`: so every byte is that of the last write that covers it, or as it was.
* `Recorded`: what these writes are, for each call that a machine may get.
* `getElem?_load`, `getElem?_reload`: where a program goes, and what it leaves of the one before.
* `memory_coherent`: the memory of a machine, its next fetch and its next load.
-/

namespace ChipEight

/-- Bytes that are put into memory one behind the other, from an address on. -/
structure Write where
  start : Nat
  bytes : List UInt8

namespace Write

/-- The byte that goes to an address, if the write covers it. -/
def byte? (w : Write) (a : Nat) : Option UInt8 :=
  if w.start ≤ a then w.bytes[a - w.start]? else none

/-- The byte of the last write that covers an address, if there is one. -/
def last? (ws : List Write) (a : Nat) : Option UInt8 := ws.reverse.findSome? (·.byte? a)

theorem last?_append (ws ws' : List Write) (a : Nat) :
    last? (ws ++ ws') a = (last? ws' a).or (last? ws a) := by
  unfold last?
  rw [List.reverse_append, List.findSome?_append]

/-- Memory after a write, if there is one. -/
def put? (w? : Option Write) (memory : Memory) : Memory :=
  w?.elim memory fun w => overlay memory w.start w.bytes

/-- **Read over write.** -/
theorem getElem_put? (w? : Option Write) (memory : Memory) (a : Nat) (ha : a < Memory.size) :
    (put? w? memory)[a] = (w?.bind (·.byte? a)).getD memory[a] := by
  cases w? with
  | none => rfl
  | some w =>
    simp only [put?, Option.elim_some, Option.bind_some, getElem_overlay, byte?]
    by_cases hle : w.start ≤ a
    · by_cases hlt : a < w.start + w.bytes.length
      · rw [dif_pos ⟨hle, hlt⟩, if_pos hle, List.getElem?_eq_getElem (by omega), Option.getD_some]
      · rw [dif_neg (by omega), if_pos hle, List.getElem?_eq_none (by omega), Option.getD_none]
    · rw [dif_neg (by omega), if_neg hle, Option.getD_none]

end Write

/-- The byte at an address before anything is written: the font, and zeros. -/
def Memory.initial (a : Nat) : UInt8 :=
  if 0x050 ≤ a ∧ a < 0x0A0 then Font.sheet.getD (a - 0x050) 0 else 0

theorem Memory.getElem_fresh (a : Nat) (ha : a < size) : fresh[a] = initial a := by
  have hsheet : Font.sheet.length = 80 := Font.length_sheet
  have hstart : fontStart.toNat = 80 := rfl
  unfold fresh initial
  rw [getElem_overlay]
  by_cases h : 0x050 ≤ a ∧ a < 0x0A0
  · rw [dif_pos ⟨by omega, by omega⟩, if_pos h, List.getD_eq_getElem?_getD,
      List.getElem?_eq_getElem (by omega), Option.getD_some]
    simp only [hstart]
  · rw [dif_neg (by omega), if_neg h, Vector.getElem_replicate]

/-- Two bytes make the word that is fetched. -/
theorem Memory.word_of_bytes {memory : Memory} {byte : Nat → UInt8}
    (hbytes : ∀ a (_ : a < size), memory[a] = byte a) {p : Nat} (hp : p ≤ 0xFFE) :
    ∃ op, memory.word p = .ok op ∧ op.toNat = (byte p).toNat * 256 + (byte (p + 1)).toNat := by
  have hsize : size = 4096 := rfl
  -- the address may be odd: nothing but the end of memory counts
  obtain ⟨op, hword⟩ := word_eq_ok_iff.2 (show p + 2 ≤ size by omega)
  obtain ⟨high, low, hhigh, hlow, hop⟩ := word_eq_iff.1 hword
  rw [Vector.getElem?_eq_getElem (show p < size by omega), hbytes] at hhigh
  rw [Vector.getElem?_eq_getElem (show p + 1 < size by omega), hbytes] at hlow
  cases hhigh
  cases hlow
  exact ⟨op, hword, by omega⟩

/-- What an instruction that succeeds writes: digits or registers, from I on. -/
def Instruction.write? (s : State) (i : Instruction) : Option Write :=
  match i with
  | bcd _ | store _ => some ⟨s.i.toNat, i.written s⟩
  | _ => none

theorem Instruction.memoryAfter_eq_put (s : State) (i : Instruction) :
    i.memoryAfter s = Write.put? (i.write? s) s.memory := by
  cases i <;> rfl

namespace Machine

/-! ## The writes of a history -/

/-- What a call writes: the program that it loads, or what its cycle writes, provided that it
succeeds. -/
def write? (m : Machine) : Call → Option Write
  | .load program =>
    if (m.load program).2.fault? = none then some ⟨0x200, program⟩ else none
  | .step => m.executes?.bind (·.write? m.state)
  | _ => none

/-- The writes of a history, the last one last. -/
def writes (m : Machine) (cs : List Call) : List Write :=
  (m.visits cs).filterMap fun v => v.1.write? v.2

theorem writes_concat (m : Machine) (cs : List Call) (c : Call) :
    m.writes (cs ++ [c]) = m.writes cs ++ ((m.calls cs).1.write? c).toList := by
  unfold writes
  rw [visits_concat, List.filterMap_append]
  cases h : (m.calls cs).1.write? c <;> simp [h]

/-- **A call puts its write into memory**, and leaves memory alone if it has none. -/
theorem memory_call (m : Machine) (c : Call) :
    (m.call c).1.state.memory = Write.put? (m.write? c) m.state.memory := by
  cases c with
  | step =>
    change m.step.1.state.memory = Write.put? (m.executes?.bind _) _
    rw [step_eq_elim]
    cases m.executes? with
    | some i => exact Instruction.memoryAfter_eq_put m.state i
    | none => rfl
  | load program =>
    change (m.load program).1.state.memory = Write.put? (if _ then _ else _) _
    by_cases h : program.length ≤ Memory.programLimit
    · rw [if_pos (fault?_load_eq_none_iff.2 h), load_of_fits h]
      rfl
    · rw [if_neg (mt fault?_load_eq_none_iff.1 h), load_of_large (Nat.not_le.1 h)]
      rfl
  | _ => rfl

/-- **Every byte is that of the last write that covers it**, or as it was. -/
theorem getElem_memory_calls (m : Machine) (cs : List Call) (a : Nat) (ha : a < Memory.size) :
    (m.calls cs).1.state.memory[a] = (Write.last? (m.writes cs) a).getD m.state.memory[a] := by
  -- from the end: what the last call writes hides what was there before
  induction cs using List.reverseRecOn with
  | nil => rfl
  | append_singleton cs c ih =>
    simp only [calls_concat, memory_call, Write.getElem_put?, ih]
    rw [writes_concat, Write.last?_append]
    -- the last call writes nothing, or does not cover the address, or decides
    cases hw : (m.calls cs).1.write? c with
    | none => rfl
    | some w =>
      have hlast : Write.last? (some w).toList a = w.byte? a := by
        simp [Write.last?]
      rw [hlast, Option.bind_some]
      cases w.byte? a <;> rfl

/-- The writes of a machine are recorded as they are: programs, decimal digits, registers, and
nothing else. -/
structure Recorded (m : Machine) : Prop where
  program : ∀ program, program.length ≤ 3584 →
    m.write? (.load program) = some ⟨0x200, program⟩
  /-- Three digits, the hundreds first, that stand for Vx. -/
  digits : ∀ x, m.completes? .step = some (.bcd x) → ∃ hundreds tens ones : UInt8,
    m.write? .step = some ⟨m.state.i.toNat, [hundreds, tens, ones]⟩ ∧
      hundreds.toNat ≤ 9 ∧ tens.toNat ≤ 9 ∧ ones.toNat ≤ 9 ∧
      100 * hundreds.toNat + 10 * tens.toNat + ones.toNat = (m.state.v.get x).toNat
  /-- The registers from V0 to Vx. -/
  registers : ∀ x, m.completes? .step = some (.store x) → ∃ bytes : List UInt8,
    m.write? .step = some ⟨m.state.i.toNat, bytes⟩ ∧ bytes.length = x.val + 1 ∧
      ∀ z ≤ x, bytes[z.val]? = some (m.state.v.get z)
  refused : ∀ program, 3584 < program.length → m.write? (.load program) = none
  /-- A cycle that fails writes as little as one that carries out another instruction. -/
  other : ∀ c, (∀ program, c ≠ .load program) → (∀ x, m.completes? c ≠ some (.bcd x)) →
    (∀ x, m.completes? c ≠ some (.store x)) → m.write? c = none

theorem recorded (m : Machine) : m.Recorded := by
  refine ⟨?_, ?_, ?_, ?_, ?_⟩
  · intro program hfits
    exact if_pos (fault?_load_eq_none_iff.2 hfits)
  · intro x hx
    have hwrite : m.write? .step = some ⟨m.state.i.toNat, decimalDigits (m.state.v.get x)⟩ :=
      congrArg (·.bind (·.write? m.state)) hx
    have hle := fun d => le_nine_of_mem_decimalDigits (b := m.state.v.get x) (d := d)
    have hvalue := value_decimalDigits (b := m.state.v.get x) rfl
    exact ⟨_, _, _, hwrite, hle _ (by simp [decimalDigits]), hle _ (by simp [decimalDigits]),
      hle _ (by simp [decimalDigits]), hvalue⟩
  · intro x hx
    have hwrite : m.write? .step =
        some ⟨m.state.i.toNat, m.state.v.toList.take (x.val + 1)⟩ :=
      congrArg (·.bind (·.write? m.state)) hx
    exact ⟨_, hwrite, length_take_registers m.state.v x, fun z => getElem?_take_registers m.state.v⟩
  · intro program hlarge
    exact if_neg (mt fault?_load_eq_none_iff.1 (Nat.not_le.2 hlarge))
  · intro c hload hdigits hregisters
    cases c with
    | load program => exact absurd rfl (hload program)
    | step =>
      change m.executes?.bind (·.write? m.state) = none
      cases hi : m.executes? with
      | none => rfl
      | some i =>
        cases i with
        | bcd x => exact absurd hi (hdigits x)
        | store x => exact absurd hi (hregisters x)
        | _ => rfl
    | _ => rfl

/-! ## Loading -/

variable {m : Machine}

/-- A program that fits comes over memory where it goes, and nowhere else. -/
theorem getElem?_load {program : List UInt8} (h : program.length ≤ 3584) (a : Nat) :
    (m.load program).1.state.memory[a]? =
      if 0x200 ≤ a ∧ a < 0x200 + program.length then program[a - 0x200]?
      else m.state.memory[a]? := by
  have hstart : Memory.programStart.toNat = 0x200 := rfl
  rw [load_of_fits h]
  by_cases ha : a < Memory.size
  · rw [Vector.getElem?_eq_getElem ha, Vector.getElem?_eq_getElem ha, getElem_overlay, hstart]
    by_cases hin : 0x200 ≤ a ∧ a < 0x200 + program.length
    · rw [dif_pos hin, if_pos hin, List.getElem?_eq_getElem]
    · rw [dif_neg hin, if_neg hin]
  · -- no program that fits gets there
    have hend : Memory.size = 4096 := rfl
    rw [if_neg (by omega), Vector.getElem?_eq_none (Nat.not_lt.1 ha),
      Vector.getElem?_eq_none (Nat.not_lt.1 ha)]

/-- What is loaded over a longer program leaves the tail of that in place. -/
theorem getElem?_reload {long short : List UInt8} (hle : short.length ≤ long.length)
    (hfits : long.length ≤ 3584) {k : Nat} (hk : k < long.length) :
    ((m.load long).1.load short).1.state.memory[0x200 + k]? =
      if k < short.length then short[k]? else long[k]? := by
  rw [getElem?_load (Nat.le_trans hle hfits), getElem?_load hfits, Nat.add_sub_cancel_left,
    if_pos (show 0x200 ≤ 0x200 + k ∧ 0x200 + k < 0x200 + long.length by omega)]
  by_cases hs : k < short.length
  · rw [if_pos (by omega), if_pos hs]
  · rw [if_neg (by omega), if_neg hs]

/-! ## What that comes to -/

/-- The byte at an address after the writes: that of the last one that covers it, or the one before
anything was written. -/
def recalled (ws : List Write) (a : Nat) : UInt8 := (Write.last? ws a).getD (Memory.initial a)

/-- The memory of the machine is that of the writes, and so is what it fetches from there. The next
program comes over it, and over nothing else. -/
structure Coherent (m : Machine) (ws : List Write) : Prop where
  bytes : ∀ a (_ : a < Memory.size), m.state.memory[a] = recalled ws a
  /-- The word at an address, even or odd, has two of these bytes. At the program counter, it is
  what the next cycle obeys. -/
  fetched : ∀ p ≤ 0xFFE, ∃ op, m.state.memory.word p = .ok op ∧
    op.toNat = (recalled ws p).toNat * 256 + (recalled ws (p + 1)).toNat ∧
    (m.state.pc.toNat = p → m.step = m.obey op)
  /-- A program is loaded exactly if it fits. -/
  fits : ∀ program, (m.load program).2.fault? = none ↔ program.length ≤ 3584
  /-- Loading changes nothing but memory. -/
  frame : ∀ program,
    (m.load program).1 = { m with state.memory := (m.load program).1.state.memory }
  /-- There it changes nothing but where the program goes. -/
  loaded : ∀ program, program.length ≤ 3584 → ∀ a, (m.load program).1.state.memory[a]? =
    if 0x200 ≤ a ∧ a < 0x200 + program.length then program[a - 0x200]? else m.state.memory[a]?
  refused : ∀ program, 3584 < program.length → (m.load program).1 = m
  /-- A program that is loaded over a longer one leaves the tail of that in place. -/
  reloaded : ∀ long short, short.length ≤ long.length → long.length ≤ 3584 → ∀ k < long.length,
    ((m.load long).1.load short).1.state.memory[0x200 + k]? =
      if k < short.length then short[k]? else long[k]?

/-- **Memory is coherent, whatever the history**: loads and cycles in any order, with failures among
them, programs over programs, and programs over themselves. The writes that it comes of
are recorded as they are, whatever machine a call finds. -/
theorem memory_coherent (source : Random.Source) (cs : List Call) :
    Coherent ((fresh source).calls cs).1 ((fresh source).writes cs) ∧
    ∀ m : Machine, m.Recorded := by
  refine ⟨?_, recorded⟩
  have hbytes : ∀ a (_ : a < Memory.size),
      ((fresh source).calls cs).1.state.memory[a] = recalled ((fresh source).writes cs) a := by
    intro a ha
    rw [getElem_memory_calls]
    exact congrArg _ (Memory.getElem_fresh a ha)
  refine ⟨hbytes, ?_, fun _ => fault?_load_eq_none_iff, load_eq_memory _,
    fun _ => getElem?_load, fun _ hlarge => congrArg Prod.fst (load_of_large hlarge),
    fun _ _ hle hfits _ => getElem?_reload hle hfits⟩
  intro p hp
  obtain ⟨op, hword, hop⟩ := Memory.word_of_bytes hbytes hp
  refine ⟨op, hword, hop, ?_⟩
  rintro rfl
  exact step_eq_obey hword

/-- Two registers are stored over the word behind, which stood for nothing and now clears the
screen. -/
example :
    let program : List UInt8 := [0x60, 0x00, 0x61, 0xE0, 0xA2, 0x08, 0xF1, 0x55, 0x01, 0x23]
    let m := ((fresh (.cycling #[])).calls [.load program, .step, .step, .step, .step]).1
    m.state.pc = 0x208 ∧ m.executes? = some .clear := by
  decide +kernel

end Machine

end ChipEight
