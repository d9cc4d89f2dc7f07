/-!
# Call stack

Sixteen slots for the addresses of open calls, filled from the bottom. A slot keeps its content
after the call has returned; only the first `depth` slots count (`live`).
-/

namespace ChipEight

/-- The number of calls that can be open at once. -/
abbrev Stack.capacity : Nat := 16

/-- The addresses of the open calls, in the first `depth` slots. -/
structure Stack where
  slots : Vector UInt16 Stack.capacity := Vector.replicate Stack.capacity 0
  depth : Nat := 0
  deriving DecidableEq

namespace Stack

/-- No call is open. -/
def empty : Stack := {}

/-- The addresses of the open calls, the first one first. -/
def live (s : Stack) : List UInt16 := s.slots.toList.take s.depth

/-- The stack with one more open call, unless every slot is taken. -/
def push? (s : Stack) (address : UInt16) : Option Stack :=
  if h : s.depth < capacity then some ⟨s.slots.set s.depth address, s.depth + 1⟩ else none

/-- The latest open call and the stack without it; the slot keeps its content. -/
def pop? (s : Stack) : Option (UInt16 × Stack) :=
  match s.depth with
  | 0 => none
  | d + 1 => s.slots[d]?.map fun address => (address, { s with depth := d })

/-- The address of the latest open call; zero if none is open. -/
def top (s : Stack) : UInt16 := s.slots[s.depth - 1]?.getD 0

theorem length_live {s : Stack} (h : s.depth ≤ capacity) : s.live.length = s.depth := by
  simp [live]; omega

theorem getElem?_live {s : Stack} {k : Nat} (h : k < s.depth) : s.live[k]? = s.slots[k]? := by
  simp [live, h]

theorem push?_eq_none_iff {s : Stack} {a : UInt16} : s.push? a = none ↔ capacity ≤ s.depth := by
  unfold push?; split <;> simp <;> omega

/-- Pushing adds at the end. -/
theorem live_push? {s t : Stack} {a : UInt16} (h : s.push? a = some t) :
    t.live = s.live ++ [a] := by
  unfold push? at h
  split at h
  · next hd =>
    cases h
    simp [live, List.take_add_one, hd, Vector.toList_set, List.take_set_of_le]
  · cases h

/-- Popping takes off the end. -/
theorem live_pop? {s t : Stack} {a : UInt16} (h : s.pop? = some (a, t)) :
    s.live = t.live ++ [a] := by
  unfold pop? at h
  split at h
  · cases h
  · next d hd =>
    obtain ⟨b, hb, e⟩ := Option.map_eq_some_iff.1 h
    cases e
    simp [live, hd, hb, List.take_add_one]

theorem pop?_eq_none_iff {s : Stack} (h : s.depth ≤ capacity) : s.pop? = none ↔ s.depth = 0 := by
  unfold pop?
  split
  · next hd => simp [hd]
  · next d hd => simp [hd]; omega

theorem set_eq_setIfInBounds (slots : Vector UInt16 capacity) {k : Nat} (h : k < capacity)
    (a : UInt16) : slots.set k a = slots.setIfInBounds k a := by
  simp [Vector.setIfInBounds, Array.setIfInBounds, Vector.set, h]

theorem push?_eq (s : Stack) (a : UInt16) :
    s.push? a =
      if s.depth < capacity then some ⟨s.slots.setIfInBounds s.depth a, s.depth + 1⟩ else none := by
  unfold push?
  split
  · rename_i h; rw [set_eq_setIfInBounds _ h]
  · rfl

theorem pop?_eq (s : Stack) :
    s.pop? =
      if 0 < s.depth ∧ s.depth ≤ capacity then some (s.top, ⟨s.slots, s.depth - 1⟩)
      else none := by
  unfold pop? top
  split
  · rename_i h; simp [h]
  · rename_i d h
    by_cases hd : d < capacity
    · simp [h, hd, Nat.succ_le_of_lt hd]
    · have hfull : ¬(0 < d + 1 ∧ d + 1 ≤ capacity) := fun hc => hd hc.2
      rw [h, if_neg hfull]
      simp [Nat.not_lt.1 hd]

end Stack

end ChipEight
