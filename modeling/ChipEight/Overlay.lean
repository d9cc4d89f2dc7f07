/-!
# Laying a list over a vector

`overlay xs start ys` replaces the items of `xs` from position `start` on by those of `ys`; the size
stays, and what would fall outside is dropped (`getElem_overlay`).
-/

namespace ChipEight

variable {α : Type} {n : Nat}

/-- The items of the list, put over those of the vector from `start` on. -/
def overlay (xs : Vector α n) (start : Nat) : List α → Vector α n
  | [] => xs
  | y :: ys => overlay (xs.setIfInBounds start y) (start + 1) ys

theorem getElem_overlay (xs : Vector α n) (start : Nat) (ys : List α) (a : Nat) (ha : a < n) :
    (overlay xs start ys)[a] =
      if h : start ≤ a ∧ a < start + ys.length then ys[a - start] else xs[a] := by
  induction ys generalizing xs start with
  | nil => rw [overlay, dif_neg (by simp only [List.length_nil]; omega)]
  | cons y ys ih =>
    simp only [overlay, ih, List.length_cons]
    by_cases h : start + 1 ≤ a ∧ a < start + 1 + ys.length
    · rw [dif_pos h, dif_pos (by omega)]
      simp [List.getElem_cons, show a - start ≠ 0 by omega,
        show a - start - 1 = a - (start + 1) by omega]
    · rw [dif_neg h, Vector.getElem_setIfInBounds]
      by_cases h' : start = a
      · subst h'; simp
      · simp [h']; omega

end ChipEight
