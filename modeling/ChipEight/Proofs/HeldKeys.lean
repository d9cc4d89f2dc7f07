import ChipEight.Proofs.History
import ChipEight.Proofs.Input
import ChipEight.Proofs.Steps

/-!
# Keys are as they were last set

A machine never looks at a keyboard. Its owner sets the keys, all at once or one by one, and so they
stay. Two instructions ask for a key, one whether it is down and one whether it is up; they are not
each other's opposite, as a register may name a key that there is not.

* `Call.lastSet`: what the calls of a history have left a key at.
* `getElem_keys_call`, `getElem_keys_calls`: a key after one call, and after a history.
* `skips_keyDown_iff`, `skips_keyUp_iff`: when the two instructions skip.
* `keys_as_last_set`: the keys after any history, and the skips that depend on them.
-/

namespace ChipEight

/-- What a call sets key `k` to, if it does. -/
def Call.sets? (k : Nat) : Call → Option Bool
  | setKeys keys => keys.down? k
  | setKey key down => if key = k then some down else none
  | _ => none

/-- Whether the calls have left key `k` down: the last one that set it decides, and at first it is
up. -/
def Call.lastSet (cs : List Call) (k : Nat) : Bool := (cs.filterMap (sets? k)).getLast?.getD false

theorem Keypad.down?_eq_some_iff {keys : Keypad} {k : Nat} {down : Bool} :
    keys.down? k = some down ↔ ∃ h : k < count, keys[k] = down :=
  Vector.getElem?_eq_some_iff

/-! ## Skips -/

/-- The test makes the next instruction be skipped. -/
def Core.Skips (c : Core) (test : Test) : Prop :=
  (Instruction.skip test).execute.run c = .ok () { c with state := c.state.advanceTwo }

namespace Core

variable {c : Core} {test : Test} {x : Register}

theorem run_skip (c : Core) (test : Test) :
    (Instruction.skip test).execute.run c = .ok () { c with
      state := if test.holds c.state then c.state.advanceTwo else c.state.advance } :=
  rfl

/-- A test that holds is one that skips: the two ways to go on lead to different addresses. -/
theorem skips_iff_holds : c.Skips test ↔ test.holds c.state = true := by
  unfold Skips
  rw [run_skip]
  constructor
  · intro hrun
    by_contra hnot
    rw [if_neg hnot] at hrun
    injection hrun with _ hcore
    have hpc : c.state.pc + 2 = c.state.pc + 4 := congrArg (·.state.pc) hcore
    exact absurd (UInt16.add_right_inj _ |>.1 hpc) (by decide)
  · intro hholds
    rw [if_pos hholds]

/-- What does not skip goes on with the next instruction. -/
theorem run_of_not_skips (h : ¬c.Skips test) :
    (Instruction.skip test).execute.run c = .ok () { c with state := c.state.advance } := by
  rw [run_skip, if_neg (mt skips_iff_holds.2 h)]

theorem skips_keyDown_iff :
    c.Skips (.keyDown x) ↔ c.state.keys.down? (c.state.v.get x).toNat = some true := by
  rw [skips_iff_holds, Test.holds, beq_iff_eq]

theorem skips_keyUp_iff :
    c.Skips (.keyUp x) ↔ c.state.keys.down? (c.state.v.get x).toNat = some false := by
  rw [skips_iff_holds, Test.holds, beq_iff_eq]

end Core

namespace Machine

/-! ## Histories -/

/-- **A key after a call** is as the call sets it, or as it was. -/
theorem getElem_keys_call {k : Nat} (hk : k < Keypad.count) (m : Machine) (c : Call) :
    (m.call c).1.state.keys[k] = (c.sets? k).getD m.state.keys[k] := by
  cases c with
  | setKeys keys =>
    have hdown : keys.down? k = some keys[k] := Keypad.down?_eq_some_iff.2 ⟨hk, rfl⟩
    rw [Call.sets?, hdown]
    rfl
  | setKey key down =>
    change (m.state.keys.setIfInBounds key down)[k] = _
    rw [Vector.getElem_setIfInBounds, Call.sets?]
    split <;> rfl
  | step =>
    have hstep : m.step.1.state.keys = m.state.keys := m.keys_steps 1
    change m.step.1.state.keys[k] = _
    simp only [hstep]
    rfl
  | load program =>
    have hload : (m.load program).1.state.keys = m.state.keys :=
      congrArg (·.state.keys) (m.load_eq_memory program)
    change (m.load program).1.state.keys[k] = _
    simp only [hload]
    rfl
  | _ => rfl

/-- **A key after a history** is as the last call that set it has set it, or as it was. -/
theorem getElem_keys_calls {k : Nat} (hk : k < Keypad.count) (m : Machine) (cs : List Call) :
    (m.calls cs).1.state.keys[k] =
      (cs.filterMap (Call.sets? k)).getLast?.getD m.state.keys[k] :=
  m.calls_last cs (·.state.keys[k]) (getElem_keys_call hk)

/-- **A call that moves no keys leaves them alone**, whether it fails or not. -/
theorem keys_call {m : Machine} {c : Call} (h : c.isInput = false) :
    (m.call c).1.state.keys = m.state.keys := by
  refine Vector.ext fun k hk => ?_
  rw [getElem_keys_call hk]
  cases c with
  | setKeys | setKey => cases h
  | _ => rfl

/-- The keys of the machine are as `held` says, and these are the skips that depend on them. -/
structure Holds (m : Machine) (held : Nat → Bool) : Prop where
  keys : ∀ k (_ : k < 16), m.state.keys[k] = held k
  /-- No other calls have a part in the keys. -/
  kept : ∀ c, c.isInput = false → (m.call c).1.state.keys = m.state.keys
  /-- A number that names no key moves none. -/
  ignored : ∀ key down, 16 ≤ key → (m.call (.setKey key down)).1.state.keys = m.state.keys
  skips_keyDown : ∀ x, m.toCore.Skips (.keyDown x) ↔
    (m.state.v.get x).toNat < 16 ∧ held (m.state.v.get x).toNat = true
  skips_keyUp : ∀ x, m.toCore.Skips (.keyUp x) ↔
    (m.state.v.get x).toNat < 16 ∧ held (m.state.v.get x).toNat = false
  /-- Of a key that there is, exactly one of the two skips. -/
  either : ∀ x, (m.state.v.get x).toNat < 16 →
    (m.toCore.Skips (.keyDown x) ↔ ¬m.toCore.Skips (.keyUp x))
  /-- Of a key that there is not, neither does. -/
  neither : ∀ x, 16 ≤ (m.state.v.get x).toNat →
    ¬m.toCore.Skips (.keyDown x) ∧ ¬m.toCore.Skips (.keyUp x)
  /-- What does not skip goes on with the next instruction. -/
  goesOn : ∀ test, ¬m.toCore.Skips test → (Instruction.skip test).execute.run m.toCore =
    .ok () { m.toCore with state := m.state.advance }

theorem Holds.of_keys {m : Machine} {held : Nat → Bool}
    (h : ∀ k (_ : k < 16), m.state.keys[k] = held k) : m.Holds held := by
  -- a register that names a key asks for what is held, and any other one gets no answer
  have hdown : ∀ k down, m.state.keys.down? k = some down ↔ k < 16 ∧ held k = down := by
    intro k down
    rw [Keypad.down?_eq_some_iff]
    exact ⟨fun ⟨hk, hkey⟩ => ⟨hk, h k hk ▸ hkey⟩, fun ⟨hk, hkey⟩ => ⟨hk, (h k hk).trans hkey⟩⟩
  have hskipsDown := fun x => (Core.skips_keyDown_iff (c := m.toCore) (x := x)).trans (hdown _ _)
  have hskipsUp := fun x => (Core.skips_keyUp_iff (c := m.toCore) (x := x)).trans (hdown _ _)
  refine ⟨h, fun _ => keys_call, fun key down hkey => ?_, hskipsDown, hskipsUp, fun x hx => ?_,
    fun x hx => ?_, fun _ => Core.run_of_not_skips⟩
  · exact Vector.setIfInBounds_eq_of_size_le hkey
  · rw [hskipsDown, hskipsUp]
    simp [hx]
  · rw [hskipsDown, hskipsUp]
    exact ⟨fun hskip => Nat.not_lt.2 hx hskip.1, fun hskip => Nat.not_lt.2 hx hskip.1⟩

/-- **Keys are as they were last set**, whatever the history: by the last call that set them all, or
the last one that moved the key. The two instructions that ask for a key go by that. -/
theorem keys_as_last_set (source : Random.Source) (cs : List Call) :
    ((fresh source).calls cs).1.Holds (Call.lastSet cs) := by
  refine .of_keys fun k hk => ?_
  rw [getElem_keys_calls hk, Call.lastSet]
  congr 1
  exact Vector.getElem_replicate hk

/-- One key is pressed, then all are released, and then 4 and a key that there is not are pressed.
The cycle fails. -/
example :
    let cs : List Call :=
      [.setKey 3 true, .setKeys Keypad.released, .setKey 4 true, .setKey 20 true, .step]
    ((fresh (.cycling #[])).calls cs).1.state.keys.held = [4] := by
  decide +kernel

end Machine

end ChipEight
