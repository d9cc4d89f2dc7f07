import ChipEight.Machine.Basic

/-!
# Calls

What an owner can ask of a machine, as data, so that a use of the machine is a list of calls.

* `calls_append`: a history can be cut anywhere.
* `advanceMany_add`: so can a run.
-/

namespace ChipEight

/-- One call. -/
inductive Call
  | load (program : List UInt8)
  | step
  | setKeys (keys : Keypad)
  | setKey (key : Nat) (down : Bool)
  | needsRedraw
  | takeRedraw
  | link (speaker : Speaker)
  deriving DecidableEq

/-- The answer to a call: its report, and the redraw flag if the call asked for it. -/
structure Reply extends Report where
  redraw? : Option Bool := none
  deriving DecidableEq

namespace Machine

/-- Performs a call. -/
def call (m : Machine) : Call → Machine × Reply
  | .load program => let (m, r) := m.load program; (m, { toReport := r })
  | .step => let (m, r) := m.step; (m, { toReport := r })
  | .setKeys keys => (m.setKeys keys, {})
  | .setKey key down => (m.setKey key down, {})
  | .needsRedraw => (m, { redraw? := some m.needsRedraw })
  | .takeRedraw => let (m, taken) := m.takeRedraw; (m, { redraw? := some taken })
  | .link speaker => (m.link speaker, {})

/-- Performs calls in turn, whether they fail or not. -/
def calls (m : Machine) : List Call → Machine × List Reply
  | [] => (m, [])
  | c :: cs =>
    let (m, reply) := m.call c
    let (m, replies) := m.calls cs
    (m, reply :: replies)

theorem calls_append (m : Machine) (cs ds : List Call) :
    m.calls (cs ++ ds) =
      (((m.calls cs).1.calls ds).1, (m.calls cs).2 ++ ((m.calls cs).1.calls ds).2) := by
  induction cs generalizing m with
  | nil => rfl
  | cons c cs ih => simp [calls, ih]

end Machine

/-! ## Running -/

/-- How far a run has come: the successful cycles, the fault that ended it, and all events. -/
structure Run where
  machine : Machine
  cycles : Nat := 0
  fault? : Option Fault := none
  events : Array Event := #[]

namespace Run

/-- One more cycle; only a successful one counts. -/
def advance (r : Run) : Run :=
  let (machine, report) := r.machine.step
  { machine
    cycles := if report.fault?.isNone then r.cycles + 1 else r.cycles
    fault? := report.fault?
    events := r.events ++ report.events }

/-- Up to `n` more cycles, as long as none fails. -/
def advanceMany (r : Run) : Nat → Run
  | 0 => r
  | n + 1 =>
    match r.fault? with
    | none => r.advance.advanceMany n
    | some _ => r

theorem advanceMany_of_fault {r : Run} {e : Fault} (h : r.fault? = some e) (n : Nat) :
    r.advanceMany n = r := by
  cases n <;> simp [advanceMany, h]

/-- A run can be interrupted anywhere and taken up again. -/
theorem advanceMany_add (r : Run) (a b : Nat) :
    r.advanceMany (a + b) = (r.advanceMany a).advanceMany b := by
  induction a generalizing r with
  | zero => rw [Nat.zero_add, advanceMany]
  | succ a ih =>
    rw [Nat.succ_add]
    cases h : r.fault? with
    | none => simp only [advanceMany, h, ih]
    | some e => simp only [advanceMany_of_fault h]

end Run

/-- Runs for up to `n` cycles, and ends at the first that fails. -/
def Machine.run (m : Machine) (n : Nat) : Run := Run.advanceMany { machine := m } n

end ChipEight
