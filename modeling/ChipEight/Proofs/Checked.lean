import ChipEight.Proofs.Bounds
import Mathlib.Data.Nat.Bitwise
import Mathlib.Tactic.IntervalCases

/-!
# The cycle with every index and sum checked

The cycle once more, written out as reads and writes of array items and as sums of words. It is cut
off (`none`) at an index outside of its array and at a sum or product that does not fit in a word.

* `drawSprite_eq`: drawing row by row and bit by bit flips the pixels of `Screen.spriteCells`.
* `execute_eq`, `step_eq`: within the bounds nothing is ever cut off, and the checked cycle is the
  cycle.
-/

namespace ChipEight.Checked

/-! ## Checked operations -/

section Operations

variable {α : Type} {n : Nat}

/-- The item at an index. -/
def get (xs : Vector α n) (k : Nat) : Option α := xs[k]?

/-- The array with the item at an index replaced. -/
def set (xs : Vector α n) (k : Nat) (a : α) : Option (Vector α n) :=
  if h : k < n then some (xs.set k a) else none

/-- The items from `start` up to, but not including, `stop`. -/
def slice (xs : Vector α n) (start stop : Nat) : Option (List α) :=
  if start ≤ stop ∧ stop ≤ n then some ((xs.toList.drop start).take (stop - start)) else none

/-- The array with the items from `start` up to `stop` replaced, by as many others. -/
def copy (xs : Vector α n) (start stop : Nat) (ys : List α) : Option (Vector α n) :=
  if start ≤ stop ∧ stop ≤ n ∧ ys.length = stop - start then some (overlay xs start ys) else none

/-- The sum of two words. -/
def add (a b : UInt16) : Option UInt16 := if a.toNat + b.toNat < 2 ^ 16 then some (a + b) else none

/-- The product of two words. -/
def mul (a b : UInt16) : Option UInt16 := if a.toNat * b.toNat < 2 ^ 16 then some (a * b) else none

theorem get_fin (xs : Vector α n) (k : Fin n) : get xs k.val = some (xs.get k) :=
  Vector.getElem?_eq_getElem k.isLt

theorem set_fin (xs : Vector α n) (k : Fin n) (a : α) :
    set xs k.val a = some (xs.set k.val a) := by
  simp [set]

theorem slice_eq (xs : Vector α n) {start len : Nat} (h : start + len ≤ n) :
    slice xs start (start + len) = some ((xs.toList.drop start).take len) := by
  unfold slice
  rw [if_pos ⟨by omega, h⟩, Nat.add_sub_cancel_left]

theorem copy_eq {xs : Vector α n} {start len : Nat} {ys : List α} (h : start + len ≤ n)
    (hy : ys.length = len) : copy xs start (start + len) ys = some (overlay xs start ys) := by
  unfold copy
  rw [if_pos ⟨by omega, h, by omega⟩]

theorem add_eq {a b : UInt16} (h : a.toNat + b.toNat < 2 ^ 16) : add a b = some (a + b) :=
  if_pos h

end Operations

/-! ## Drawing -/

/-- One bit of a sprite row: if it is set, the pixel is read, noted and flipped. -/
def drawBit (px py : Nat) (row : UInt8) (p : Screen × Bool) (bit : Nat) : Option (Screen × Bool) :=
  if row &&& (0x80 >>> UInt8.ofNat bit) = 0 then some p
  else do
    let k := py * Screen.width + (px + bit) % Screen.width
    let pixel ← get p.1 k
    let screen ← set p.1 k (pixel ^^^ 1)
    return (screen, p.2 || pixel == 1)

/-- One sprite row, its bits from left to right. -/
def drawRow (px py : Nat) (p : Screen × Bool) (row : UInt8 × Nat) : Option (Screen × Bool) :=
  (List.range 8).foldlM (drawBit px ((py + row.2) % Screen.height) row.1) p

/-- A sprite, its rows from top to bottom. -/
def drawSprite (screen : Screen) (x y : UInt8) (rows : List UInt8) : Option (Screen × Bool) :=
  rows.zipIdx.foldlM (drawRow (x.toNat % Screen.width) (y.toNat % Screen.height)) (screen, false)

/-- Masking out a bit finds whether it is set. -/
theorem mask_eq_zero_iff (row : UInt8) {c : Nat} (hc : c < 8) :
    row &&& (0x80 >>> UInt8.ofNat c) = 0 ↔ Screen.lit row c = false := by
  -- the mask has a single bit, the one that column `c` is read from
  have hmask : (0x80 >>> UInt8.ofNat c : UInt8).toNat = 2 ^ (7 - c) := by
    interval_cases c <;> rfl
  rw [← UInt8.toNat_inj, UInt8.toNat_and, hmask, Nat.and_two_pow, Screen.lit]
  cases row.toNat.testBit (7 - c) <;> simp

theorem drawBit_eq (x y : UInt8) (row : UInt8) (r : Nat) (p : Screen × Bool) {c : Nat}
    (hc : c < 8) :
    drawBit (x.toNat % 64) ((y.toNat % 32 + r) % 32) row p c =
      some (if Screen.lit row c then Screen.flip p (Screen.cell (x.toNat + c) (y.toNat + r))
        else p) := by
  unfold drawBit
  cases hl : Screen.lit row c with
  | false => rw [if_pos ((mask_eq_zero_iff row hc).2 hl)]; rfl
  | true =>
    have hset : ¬ row &&& (0x80 >>> UInt8.ofNat c) = 0 := by
      rw [mask_eq_zero_iff row hc, hl]; simp
    have hk : (y.toNat % 32 + r) % 32 * Screen.width + (x.toNat % 64 + c) % Screen.width =
        (Screen.cell (x.toNat + c) (y.toNat + r)).val := by
      simp only [Screen.cell, Screen.width, Screen.height]; omega
    rw [if_neg hset]
    simp only [hk, get_fin, set_fin]
    rfl

theorem drawRow_eq (x y : UInt8) (row : UInt8) (r : Nat) (p : Screen × Bool) :
    drawRow (x.toNat % 64) (y.toNat % 32) p (row, r) =
      some ((((List.range 8).filter (Screen.lit row)).map fun c =>
        Screen.cell (x.toNat + c) (y.toNat + r)).foldl Screen.flip p) := by
  -- for any columns, so that the induction can take off the first one
  have bits : ∀ cs : List Nat, (∀ c ∈ cs, c < 8) → ∀ p,
      cs.foldlM (drawBit (x.toNat % 64) ((y.toNat % 32 + r) % 32) row) p =
        some (((cs.filter (Screen.lit row)).map fun c =>
          Screen.cell (x.toNat + c) (y.toNat + r)).foldl Screen.flip p) := by
    intro cs
    induction cs with
    | nil => intro _ _; rfl
    | cons c cs ih =>
      intro hcs p
      have hc : c < 8 := hcs c List.mem_cons_self
      rw [List.foldlM_cons, drawBit_eq x y row r p hc]
      simp only [Option.bind_eq_bind, Option.bind_some,
        ih fun d hd => hcs d (List.mem_cons_of_mem _ hd)]
      cases hl : Screen.lit row c <;> simp [hl]
  exact bits (List.range 8) (fun c => List.mem_range.1) p

/-- **Drawing row by row and bit by bit** stays within the screen and flips the pixels of the
sprite. -/
theorem drawSprite_eq (screen : Screen) (x y : UInt8) (rows : List UInt8) :
    drawSprite screen x y rows = some (screen.drawSprite x.toNat y.toNat rows) := by
  -- from any row on, with whatever was drawn above it
  have go : ∀ (rows : List UInt8) (r : Nat) (p : Screen × Bool),
      (rows.zipIdx r).foldlM (drawRow (x.toNat % 64) (y.toNat % 32)) p =
        some ((Screen.spriteCells x.toNat (y.toNat + r) rows).foldl Screen.flip p) := by
    intro rows
    induction rows with
    | nil => intro _ _; rfl
    | cons row rows ih =>
      intro r p
      rw [List.zipIdx_cons, List.foldlM_cons, drawRow_eq, Screen.spriteCells, List.foldl_append]
      simp only [Option.bind_eq_bind, Option.bind_some, ih, Nat.add_assoc]
  exact go rows 0 (screen, false)

/-! ## Instructions -/

/-- Whether a test holds. -/
def holds (s : State) : Test → Option Bool
  | .equalsByte x b => do return (← get s.v x.val) == b
  | .differsByte x b => do return (← get s.v x.val) != b
  | .equalsRegister x y => do return (← get s.v x.val) == (← get s.v y.val)
  | .differsRegister x y => do return (← get s.v x.val) != (← get s.v y.val)
  | .keyDown x => do return s.keys.down? (← get s.v x.val).toNat == some true
  | .keyUp x => do return s.keys.down? (← get s.v x.val).toNat == some false

/-- The result and the flag of an arithmetic instruction. -/
def compute (v : Registers) : Arith → Option (UInt8 × Bool)
  | .add x y => do
    let (a, b) := (← get v x.val, ← get v y.val)
    return (a + b, 256 ≤ a.toNat + b.toNat)
  | .sub x y => do
    let (a, b) := (← get v x.val, ← get v y.val)
    return (a - b, b < a)
  | .subFrom x y => do
    let (a, b) := (← get v x.val, ← get v y.val)
    return (b - a, a < b)
  | .shiftRight x => do
    let a ← get v x.val
    return (a >>> 1, a.toNat % 2 = 1)
  | .shiftLeft x => do
    let a ← get v x.val
    return (a <<< 1, 128 ≤ a.toNat)

/-- The indices `start` up to `start + len`, if they all lie in memory. -/
def memoryRange (start : UInt16) (len : Nat) : Except Fault (Nat × Nat) :=
  if start.toNat + len > Memory.size then .error (.outOfBounds (max start.toNat Memory.size))
  else .ok (start.toNat, start.toNat + len)

/-- Go on with the instruction after this one. -/
def next (s : State) : Option (Except Fault State) := do
  return .ok { s with pc := ← add s.pc 2 }

/-- One instruction; `w` is the next random word. -/
def execute (w : UInt32) (s : State) : Instruction → Option (Except Fault State)
  | .clear => next { s with screen := .blank, redraw := true }
  | .ret =>
    if s.stack.depth = 0 then return .error (.stackUnderflow s.pc)
    else do
      let depth := s.stack.depth - 1
      let pc ← add (← get s.stack.slots depth) 2
      return .ok { s with stack := ⟨s.stack.slots, depth⟩, pc }
  | .jump a => return .ok { s with pc := .ofNat a.val }
  | .call a =>
    if s.stack.depth = Stack.capacity then return .error (.stackOverflow s.pc)
    else do
      let slots ← set s.stack.slots s.stack.depth s.pc
      return .ok { s with stack := ⟨slots, s.stack.depth + 1⟩, pc := .ofNat a.val }
  | .skip test => do
    let pc ← add s.pc (if ← holds s test then 4 else 2)
    return .ok { s with pc }
  | .load x b => do next { s with v := ← set s.v x.val b }
  | .addByte x b => do next { s with v := ← set s.v x.val ((← get s.v x.val) + b) }
  | .combine op x y => do
    next { s with v := ← set s.v x.val (op.apply (← get s.v x.val) (← get s.v y.val)) }
  | .arith op => do
    let (result, flag) ← compute s.v op
    let v ← set s.v flagRegister.val flag.toUInt8
    next { s with v := ← set v op.target.val result }
  | .loadIndex a => next { s with i := .ofNat a.val }
  | .jumpOffset a => do
    let target ← add (← get s.v 0).toUInt16 (.ofNat a.val)
    return .ok { s with pc := target &&& 0x0FFF }
  | .random x mask => do next { s with v := ← set s.v x.val (w.toUInt8 &&& mask) }
  | .draw x y rows =>
    match memoryRange s.i rows.val with
    | .error e => return .error e
    | .ok (start, stop) => do
      let (px, py) := (← get s.v x.val, ← get s.v y.val)
      let (screen, hit) ← drawSprite s.screen px py (← slice s.memory start stop)
      next { s with screen, redraw := true, v := ← set s.v flagRegister.val hit.toUInt8 }
  | .readDelay x => do next { s with v := ← set s.v x.val s.delay }
  | .waitKey x =>
    match s.keys.lowest? with
    | none => return .ok s
    | some k => do next { s with v := ← set s.v x.val (.ofNat k.val) }
  | .setDelay x => do next { s with delay := ← get s.v x.val }
  | .setSound x => do next { s with sound := if (← get s.v x.val) = 0 then 0 else 1 }
  | .addIndex x => do next { s with i := s.indexPlus (← get s.v x.val).toNat }
  | .loadGlyph x => do
    let offset ← mul (← get s.v x.val).toUInt16 (.ofNat Font.glyphHeight)
    next { s with i := ← add Memory.fontStart offset }
  | .bcd x =>
    match memoryRange s.i 3 with
    | .error e => return .error e
    | .ok (start, stop) => do
      let digits := decimalDigits (← get s.v x.val)
      next { s with memory := ← copy s.memory start stop digits }
  | .store x =>
    match memoryRange s.i (x.val + 1) with
    | .error e => return .error e
    | .ok (start, stop) => do
      next { s with memory := ← copy s.memory start stop (← slice s.v 0 (x.val + 1)) }
  | .read x =>
    match memoryRange s.i (x.val + 1) with
    | .error e => return .error e
    | .ok (start, stop) => do
      let v ← copy s.v 0 (x.val + 1) (← slice s.memory start stop)
      let len ← add (.ofNat x.val) 1
      next { s with v, i := s.indexPlus len.toNat }

theorem holds_eq (s : State) (test : Test) : holds s test = some (test.holds s) := by
  cases test <;> simp only [holds, get_fin] <;> rfl

theorem compute_eq (v : Registers) (op : Arith) : compute v op = some (op.compute v) := by
  cases op <;> simp only [compute, get_fin] <;> rfl

theorem memoryRange_eq (start : UInt16) (len : Nat) :
    memoryRange start len =
      if start.toNat + len ≤ Memory.size then .ok (start.toNat, start.toNat + len)
      else .error (Memory.outside start.toNat) := by
  unfold memoryRange
  by_cases h : start.toNat + len ≤ Memory.size
  · rw [if_neg (Nat.not_lt.2 h), if_pos h]
  · rw [if_pos (Nat.not_le.1 h), if_neg h]; rfl

theorem memoryRange_i (s : State) (len : Nat) :
    memoryRange s.i len =
      match s.overrun? len with
      | some e => .error e
      | none => .ok (s.i.toNat, s.i.toNat + len) := by
  rw [memoryRange_eq, State.overrun?]
  split <;> rfl

/-- A state that may be read at I. -/
theorem le_of_overrun? {s : State} {len : Nat} (h : s.overrun? len = none) :
    s.i.toNat + len ≤ Memory.size := by
  by_contra hlen
  simp [State.overrun?, hlen] at h

/-! ### Sums that fit -/

/-- A jump with offset goes at most a little past the end of memory, and is then brought back. -/
theorem add_offset (b : UInt8) (a : Address) :
    add b.toUInt16 (.ofNat a.val) = some (b.toUInt16 + .ofNat a.val) := by
  have hb := b.toNat_lt
  have ha := a.isLt
  exact add_eq (by simp; omega)

theorem mask_offset (b : UInt8) (a : Address) :
    (b.toUInt16 + .ofNat a.val) &&& (0x0FFF : UInt16) = .ofNat ((b.toNat + a.val) % 4096) := by
  have hb := b.toNat_lt
  have ha := a.isLt
  have hlow : (0x0FFF : UInt16).toNat = 2 ^ 12 - 1 := rfl
  rw [← UInt16.toNat_inj, UInt16.toNat_and, UInt16.toNat_add, hlow, Nat.and_two_pow_sub_one_eq_mod,
    UInt8.toNat_toUInt16, UInt16.toNat_ofNat', UInt16.toNat_ofNat']
  omega

/-- Every byte has room for a glyph of its own. -/
theorem mul_glyph (b : UInt8) :
    mul b.toUInt16 (.ofNat Font.glyphHeight) = some (.ofNat (Font.glyphHeight * b.toNat)) := by
  have hb := b.toNat_lt
  have hheight : (UInt16.ofNat Font.glyphHeight).toNat = 5 := rfl
  have hprod : b.toUInt16 * .ofNat Font.glyphHeight = .ofNat (Font.glyphHeight * b.toNat) := by
    rw [← UInt16.toNat_inj, UInt16.toNat_mul, hheight, UInt8.toNat_toUInt16, UInt16.toNat_ofNat',
      Nat.mul_comm]
    rfl
  rw [mul, if_pos (by rw [hheight, UInt8.toNat_toUInt16]; omega), hprod]

theorem add_glyph (b : UInt8) :
    add Memory.fontStart (.ofNat (Font.glyphHeight * b.toNat)) =
      some (Memory.fontStart + .ofNat (Font.glyphHeight * b.toNat)) := by
  have hstart : Memory.fontStart.toNat = 80 := rfl
  have hoffset : Font.glyphHeight * b.toNat < 1280 :=
    Nat.mul_lt_mul_of_pos_left b.toNat_lt (by decide)
  have hword := UInt16.toNat_ofNat_of_lt' (Nat.lt_trans hoffset (by decide))
  exact add_eq (by rw [hstart, hword]; omega)

theorem toNat_register_add_one (x : Register) : (UInt16.ofNat x.val + 1).toNat = x.val + 1 := by
  have hx := x.isLt
  have hone : (1 : UInt16).toNat = 1 := rfl
  rw [UInt16.toNat_add, UInt16.toNat_ofNat']; omega

theorem register_add_one (x : Register) : add (.ofNat x.val) 1 = some (.ofNat x.val + 1) := by
  have hx := x.isLt
  have hone : (1 : UInt16).toNat = 1 := rfl
  exact add_eq (by rw [UInt16.toNat_ofNat']; omega)

section Execute

variable {s : State}

theorem next_eq (hpc : s.pc.toNat ≤ 0xFFE) : next s = some (.ok s.advance) := by
  have htwo : (2 : UInt16).toNat = 2 := rfl
  have hadd : add s.pc 2 = some (s.pc + 2) := add_eq (by omega)
  simp only [next, hadd]; rfl

theorem add_skip (hpc : s.pc.toNat ≤ 0xFFE) (skipped : Bool) :
    add s.pc (if skipped then 4 else 2) = some (if skipped then s.pc + 4 else s.pc + 2) := by
  have htwo : (2 : UInt16).toNat = 2 := rfl
  have hfour : (4 : UInt16).toNat = 4 := rfl
  cases skipped with
  | false => exact add_eq (a := s.pc) (b := 2) (by omega)
  | true => exact add_eq (a := s.pc) (b := 4) (by omega)

/-- The slot of the latest open call is there, and the address behind it does not wrap. -/
theorem get_top (h : s.InBounds) (hpos : 0 < s.stack.depth) :
    get s.stack.slots (s.stack.depth - 1) = some s.stack.top := by
  have hk : s.stack.depth - 1 < Stack.capacity := Nat.sub_one_lt_of_le hpos h.depth
  simp only [get, Stack.top, Vector.getElem?_eq_getElem hk, Option.getD_some]

theorem add_top (h : s.InBounds) (hpos : 0 < s.stack.depth) :
    add s.stack.top 2 = some (s.stack.top + 2) := by
  have htop := h.top_le hpos
  have htwo : (2 : UInt16).toNat = 2 := rfl
  exact add_eq (by omega)

/-- Unless every slot is taken, there is one for the next call. -/
theorem set_slot (hroom : s.stack.depth < Stack.capacity) :
    set s.stack.slots s.stack.depth s.pc =
      some (s.stack.slots.setIfInBounds s.stack.depth s.pc) := by
  rw [set, dif_pos hroom, Stack.set_eq_setIfInBounds _ hroom]

/-- **Within the bounds no index is out of range and no sum wraps**, and what comes out is what the
instruction comes to. -/
theorem execute_eq (w : UInt32) (h : s.InBounds) (hpc : s.pc.toNat ≤ 0xFFE) (i : Instruction) :
    execute w s i =
      some (match i.fault? s with
        | some e => .error e
        | none => .ok (i.stateAfter w s)) := by
  have hd := h.depth
  cases i with
  | clear => exact next_eq hpc
  | ret =>
    by_cases hz : s.stack.depth = 0
    · simp [execute, Instruction.fault?, hz]
    · have hpos := Nat.pos_of_ne_zero hz
      have hf : Instruction.ret.fault? s = none := if_pos ⟨hpos, hd⟩
      simp only [execute, if_neg hz, get_top h hpos, add_top h hpos, hf, Option.bind_eq_bind,
        Option.bind_some]
      rfl
  | jump a => rfl
  | call a =>
    by_cases hfull : s.stack.depth = Stack.capacity
    · simp [execute, Instruction.fault?, hfull]
    · have hroom : s.stack.depth < Stack.capacity := Nat.lt_of_le_of_ne hd hfull
      have hf : (Instruction.call a).fault? s = none := if_pos hroom
      simp only [execute, if_neg hfull, set_slot hroom, hf, Option.bind_eq_bind, Option.bind_some]
      rfl
  | skip test =>
    simp only [execute, holds_eq, add_skip hpc, Option.bind_eq_bind, Option.bind_some]
    rfl
  | load x b => simp only [execute, set_fin]; exact next_eq hpc
  | addByte x b => simp only [execute, get_fin, set_fin]; exact next_eq hpc
  | combine op x y => simp only [execute, get_fin, set_fin]; exact next_eq hpc
  | arith op => simp only [execute, compute_eq, set_fin]; exact next_eq hpc
  | loadIndex a => exact next_eq hpc
  | jumpOffset a =>
    have hget : get s.v 0 = some (s.v.get baseRegister) := get_fin s.v baseRegister
    simp only [execute, hget, add_offset, mask_offset, Option.bind_eq_bind, Option.bind_some]
    rfl
  | random x mask => simp only [execute, set_fin]; exact next_eq hpc
  | draw x y rows =>
    simp only [execute, Instruction.fault?, memoryRange_i]
    cases hr : s.overrun? rows.val with
    | some e => rfl
    | none =>
      have hslice : slice s.memory s.i.toNat (s.i.toNat + rows.val) =
          some (s.memory.span s.i.toNat rows.val) := slice_eq _ (le_of_overrun? hr)
      simp only [get_fin, hslice, drawSprite_eq, set_fin, Option.bind_eq_bind, Option.bind_some]
      exact next_eq hpc
  | readDelay x => simp only [execute, set_fin]; exact next_eq hpc
  | waitKey x =>
    simp only [execute, Instruction.fault?, Instruction.stateAfter, Instruction.vAfter,
      Instruction.pcAfter]
    cases s.keys.lowest? with
    | none => rfl
    | some k => simp only [set_fin]; exact next_eq hpc
  | setDelay x => simp only [execute, get_fin]; exact next_eq hpc
  | setSound x => simp only [execute, get_fin]; exact next_eq hpc
  | addIndex x => simp only [execute, get_fin]; exact next_eq hpc
  | loadGlyph x =>
    simp only [execute, get_fin, mul_glyph, add_glyph, Option.bind_eq_bind, Option.bind_some]
    exact next_eq hpc
  | bcd x =>
    simp only [execute, Instruction.fault?, memoryRange_i]
    cases hr : s.overrun? 3 with
    | some e => rfl
    | none =>
      have hdigits : (decimalDigits (s.v.get x)).length = 3 := rfl
      simp only [get_fin, copy_eq (le_of_overrun? hr) hdigits, Option.bind_eq_bind,
        Option.bind_some]
      exact next_eq hpc
  | store x =>
    have hx : 0 + (x.val + 1) ≤ 16 := by have := x.isLt; omega
    simp only [execute, Instruction.fault?, memoryRange_i]
    cases hr : s.overrun? (x.val + 1) with
    | some e => rfl
    | none =>
      have hslice : slice s.v 0 (x.val + 1) = some (s.v.toList.take (x.val + 1)) := by
        simpa using slice_eq s.v hx
      have hlen := length_take_registers s.v x
      simp only [hslice, copy_eq (le_of_overrun? hr) hlen, Option.bind_eq_bind, Option.bind_some]
      exact next_eq hpc
  | read x =>
    have hx : 0 + (x.val + 1) ≤ 16 := by have := x.isLt; omega
    simp only [execute, Instruction.fault?, memoryRange_i]
    cases hr : s.overrun? (x.val + 1) with
    | some e => rfl
    | none =>
      have hslice : slice s.memory s.i.toNat (s.i.toNat + (x.val + 1)) =
          some (s.memory.span s.i.toNat (x.val + 1)) := slice_eq _ (le_of_overrun? hr)
      have hcopy : copy s.v 0 (x.val + 1) (s.memory.span s.i.toNat (x.val + 1)) =
          some (overlay s.v 0 (s.memory.span s.i.toNat (x.val + 1))) := by
        simpa using copy_eq hx (Memory.length_span (le_of_overrun? hr))
      simp only [hslice, hcopy, register_add_one, toNat_register_add_one, Option.bind_eq_bind,
        Option.bind_some]
      exact next_eq hpc

end Execute

/-! ## Cycles -/

/-- The word at the program counter: two bytes, the high one first. -/
def fetch (s : State) : Option (Except Fault Opcode) :=
  match memoryRange s.pc 2 with
  | .error e => return .error e
  | .ok (start, stop) => do
    let bytes ← slice s.memory start stop
    let (high, low) := (← bytes[0]?, ← bytes[1]?)
    return .ok (high.toUInt16 <<< 8 ||| low.toUInt16)

/-- One cycle. -/
def step (m : Machine) : Option (Machine × Report) := do
  match ← fetch m.state with
  | .error e => return (m, ⟨some e, [m.failure e]⟩)
  | .ok op =>
    match Instruction.decode op m.state.pc with
    | .error e => return (m, ⟨some e, [m.failure e]⟩)
    | .ok i =>
      match ← execute (m.source.word m.source.taken) m.state i with
      | .error e => return (m, ⟨some e, [m.trace op i, m.failure e]⟩)
      | .ok state =>
        let (after, tones) := Machine.tick { m with state, source := i.sourceAfter m.source }
        return (after, ⟨none, m.trace op i :: tones⟩)

/-- The high byte shifted and the low byte put in are the word of the two. -/
theorem shift_or_eq (high low : UInt8) :
    high.toUInt16 <<< 8 ||| low.toUInt16 = Opcode.ofBytes high low := by
  have hl := low.toNat_lt
  have hh := high.toNat_lt
  have height : (8 : UInt16).toNat % 16 = 8 := rfl
  have hfits : high.toNat * 2 ^ 8 < 2 ^ 16 := by omega
  rw [← UInt16.toNat_inj, Opcode.toNat_ofBytes, UInt16.toNat_or, UInt16.toNat_shiftLeft, height,
    UInt8.toNat_toUInt16, UInt8.toNat_toUInt16, Nat.shiftLeft_eq, Nat.mod_eq_of_lt hfits,
    Nat.mul_comm, ← Nat.two_pow_add_eq_or_of_lt hl]

theorem fetch_eq (s : State) : fetch s = some (s.memory.word s.pc.toNat) := by
  unfold fetch Memory.word
  rw [memoryRange_eq]
  by_cases h : s.pc.toNat + 2 ≤ Memory.size
  · have hslice : slice s.memory s.pc.toNat (s.pc.toNat + 2) =
        some (s.memory.span s.pc.toNat 2) := slice_eq _ h
    have hbyte : ∀ k (_ : k < 2), (s.memory.span s.pc.toNat 2)[k]? =
        some s.memory[s.pc.toNat + k] := by
      intro k hk
      have hlen : k < (s.memory.span s.pc.toNat 2).length := by rw [Memory.length_span h]; exact hk
      rw [List.getElem?_eq_getElem hlen, Memory.getElem_span hlen (by omega)]
    rw [if_pos h, dif_pos h]
    simp only [hslice, hbyte 0 (by decide), hbyte 1 (by decide), Option.bind_eq_bind,
      Option.bind_some, shift_or_eq]
    rfl
  · rw [if_neg h, dif_neg h]; rfl

/-- **Within the bounds the checked cycle is never cut off**, and is the cycle. -/
theorem step_eq {m : Machine} (h : m.state.InBounds) : step m = some m.step := by
  unfold step
  rw [fetch_eq]
  simp only [Option.bind_eq_bind, Option.bind_some]
  cases hw : m.state.memory.word m.state.pc.toNat with
  | error e => simp only [Machine.step, hw]; rfl
  | ok op =>
    -- a word was fetched, so the program counter is short of the end of memory
    have hpc : m.state.pc.toNat ≤ 0xFFE :=
      Nat.le_sub_of_add_le (Memory.word_eq_ok_iff.1 ⟨op, hw⟩)
    cases hd : Instruction.decode op m.state.pc with
    | error e => simp only [Machine.step, hw, hd]; rfl
    | ok i =>
      have hrun := Instruction.execute_run i m.toCore
      simp only [Machine.step, hw, hd, execute_eq _ h hpc, hrun, Option.bind_some]
      cases i.fault? m.state <;> rfl

end ChipEight.Checked

namespace ChipEight

/-- **No history leads out of the bounds**, and so in no state that one leads to does the next cycle
use an index out of range or a sum that does not fit. -/
theorem Machine.bounded_and_never_cut_off (seed : UInt64) (cs : List Call) :
    ((seeded seed).calls cs).1.state.InBounds ∧
      Checked.step ((seeded seed).calls cs).1 = some ((seeded seed).calls cs).1.step := by
  have hreach : ((seeded seed).calls cs).1.Reachable := ⟨.seeded seed, cs, by rw [seeded_eq_fresh]⟩
  exact ⟨hreach.inBounds, Checked.step_eq hreach.inBounds⟩

end ChipEight
