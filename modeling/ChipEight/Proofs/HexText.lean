import ChipEight.Hex
import Mathlib.Algebra.Order.Ring.Nat

/-!
# Hexadecimal texts determine their numbers

* `number?_digits`: numbers that fit in `w` digits are read back from them.
* `digits_inj`: so they are determined by them.
* `atLeast_eq_fixed`: numbers that have no more digits than they are given at least.
* `not_mem_digits`: which characters are no digits.
* `printed`: numbers as they ought to be printed, in the numerals of the standard library.
* `lt_pow_digitCount`: `digitCount n` digits are enough for `n`.
* `fixed_eq_printed`, `atLeast_eq_printed`: so that is how numbers are printed.
-/

namespace ChipEight.Hex

/-- The number that digits stand for, the most significant one first. -/
def number? (cs : List Char) : Option Nat :=
  cs.foldlM (fun n c => (value? c).map fun d => 16 * n + d.val) 0

/-- **Digits are read back**, if there are enough of them for the number. -/
theorem number?_digits {w n : Nat} (h : n < 16 ^ w) : number? (digits w n) = some n := by
  induction w generalizing n with
  | zero =>
    have hzero : n = 0 := by simpa using h
    rw [hzero]
    rfl
  | succ w ih =>
    have hrest : n / 16 < 16 ^ w := by
      rw [Nat.pow_succ] at h
      omega
    have hread : number? (digits w (n / 16)) = some (n / 16) := ih hrest
    have hlast : 16 * (n / 16) + n % 16 = n := Nat.div_add_mod n 16
    unfold number? at hread ⊢
    rw [digits, List.foldlM_append, hread]
    simp [value?_digit, nibble, hlast]

/-- Numbers that fit in `w` digits are determined by them. -/
theorem digits_inj {w m n : Nat} (hm : m < 16 ^ w) (hn : n < 16 ^ w)
    (h : digits w m = digits w n) : m = n := by
  have hread := number?_digits hm
  rw [h, number?_digits hn] at hread
  exact (Option.some.inj hread).symm

theorem fixed_inj {w m n : Nat} (hm : m < 16 ^ w) (hn : n < 16 ^ w)
    (h : fixed w m = fixed w n) : m = n :=
  digits_inj hm hn (String.ofList_inj.1 h)

theorem digitCount_le {w n : Nat} (hw : 0 < w) (h : n < 16 ^ w) : digitCount n ≤ w := by
  unfold digitCount
  by_cases hzero : n = 0
  · subst hzero
    exact hw
  · have hlog : n.log2 < 4 * w := by
      rw [Nat.log2_lt hzero, Nat.pow_mul]
      exact h
    omega

/-- A number that fits in the least number of digits has no more of them. -/
theorem atLeast_eq_fixed {w n : Nat} (hw : 0 < w) (h : n < 16 ^ w) : atLeast w n = fixed w n := by
  rw [atLeast, Nat.max_eq_left (digitCount_le hw h)]

/-- What has no value as a digit is not among the digits of a number. -/
theorem not_mem_digits {w n : Nat} {c : Char} (h : value? c = none) : c ∉ digits w n := by
  induction w generalizing n with
  | zero => exact List.not_mem_nil
  | succ w ih =>
    intro hc
    rcases List.mem_append.1 hc with hc | hc
    · exact ih hc
    · rw [List.mem_singleton.1 hc, value?_digit] at h
      cases h

/-! ## Numbers in print -/

/-- The hexadecimal digits of a number in upper case, as many as it needs. -/
def numerals (n : Nat) : List Char := (Nat.toDigits 16 n).map Char.toUpper

/-- A number in print: its digits, with zeros in front of them up to a width. -/
def printed (w n : Nat) : String := String.ofList ((numerals n).leftpad w '0')

theorem digit_nibble (n : Nat) : digit (nibble n) = (Nat.digitChar (n % 16)).toUpper := by
  have hdigit : ∀ d : Fin 16, digit d = (Nat.digitChar d.val).toUpper := by decide
  exact hdigit (nibble n)

theorem numerals_of_lt {n : Nat} (h : n < 16) : numerals n = [digit (nibble n)] := by
  rw [numerals, Nat.toDigits_of_lt_base h, digit_nibble, Nat.mod_eq_of_lt h]
  rfl

theorem numerals_of_le {n : Nat} (h : 16 ≤ n) :
    numerals n = numerals (n / 16) ++ [digit (nibble n)] := by
  rw [numerals, Nat.toDigits_of_base_le (by decide) h, List.map_append, digit_nibble]
  rfl

/-- Zeros in front stay in front when a digit is added behind. -/
theorem leftpad_concat (w : Nat) (cs : List Char) (c : Char) :
    (cs ++ [c]).leftpad (w + 1) '0' = cs.leftpad w '0' ++ [c] := by
  simp [List.leftpad]

theorem digits_eq_leftpad {w n : Nat} (h : n < 16 ^ (w + 1)) :
    digits (w + 1) n = (numerals n).leftpad (w + 1) '0' := by
  induction w generalizing n with
  | zero => rw [numerals_of_lt h]; rfl
  | succ w ih =>
    have hrest : n / 16 < 16 ^ (w + 1) := by
      rw [Nat.pow_succ] at h
      omega
    rw [digits, ih hrest]
    by_cases hn : n < 16
    · -- nothing but zeros is in front of a single digit
      rw [Nat.div_eq_of_lt hn, numerals_of_lt hn, numerals_of_lt (by decide)]
      simp [List.leftpad, List.replicate_succ', nibble, digit]
    · rw [numerals_of_le (Nat.not_lt.1 hn), leftpad_concat]

/-- **Numbers that fit in `w` digits** are printed with as many. -/
theorem fixed_eq_printed {w n : Nat} (hw : 0 < w) (h : n < 16 ^ w) : fixed w n = printed w n := by
  obtain ⟨w, rfl⟩ := Nat.exists_eq_add_one.2 hw
  rw [fixed, printed, digits_eq_leftpad h]

theorem lt_pow_digitCount (n : Nat) : n < 16 ^ digitCount n := by
  have h : n < 2 ^ (n.log2 + 1) := Nat.lt_log2_self
  have hle : 2 ^ (n.log2 + 1) ≤ 2 ^ (4 * digitCount n) :=
    Nat.pow_le_pow_right (by decide) (by unfold digitCount; omega)
  calc n < 2 ^ (4 * digitCount n) := Nat.lt_of_lt_of_le h hle
    _ = 16 ^ digitCount n := by rw [Nat.pow_mul]

/-- A number never has fewer digits than `digitCount` says. -/
theorem digitCount_le_length (n : Nat) : digitCount n ≤ (numerals n).length := by
  have hpos : 0 < (numerals n).length := by
    rw [numerals, List.length_map]
    exact Nat.length_toDigits_pos
  refine digitCount_le hpos ?_
  rw [numerals, List.length_map, ← Nat.length_toDigits_le_iff (by decide) Nat.length_toDigits_pos]

/-- **Larger numbers** are printed with all of their digits. -/
theorem atLeast_eq_printed {w n : Nat} (hw : 0 < w) : atLeast w n = printed w n := by
  have hfits : n < 16 ^ max w (digitCount n) :=
    Nat.lt_of_lt_of_le (lt_pow_digitCount n)
      (Nat.pow_le_pow_right (by decide) (Nat.le_max_right ..))
  have hcount := digitCount_le_length n
  have hzeros : max w (digitCount n) - (numerals n).length = w - (numerals n).length := by omega
  have hwide : 0 < max w (digitCount n) := Nat.lt_of_lt_of_le hw (Nat.le_max_left ..)
  rw [atLeast, fixed_eq_printed hwide hfits, printed, printed, List.leftpad, List.leftpad, hzeros]

end ChipEight.Hex
