/-!
# Hexadecimal text

Numbers written as upper-case hexadecimal digits, most significant first, and the value of a digit
of either case.

* `value?_digit`: a written digit reads back as its value.
* `length_fixed`: a text of `w` digits has `w` characters.
-/

namespace ChipEight.Hex

/-- The lowest digit of a number. -/
def nibble (n : Nat) : Fin 16 := ⟨n % 16, Nat.mod_lt n (by decide)⟩

/-- The upper-case digit of value `d`. -/
def digit (d : Fin 16) : Char :=
  if d.val < 10 then Char.ofNat (48 + d.val) else Char.ofNat (55 + d.val)

/-- The value of an ASCII hexadecimal digit of either case; no other character has one. -/
def value? (c : Char) : Option (Fin 16) :=
  if '0' ≤ c ∧ c ≤ '9' then some (nibble (c.toNat - 48))
  else if 'A' ≤ c ∧ c ≤ 'F' then some (nibble (c.toNat - 55))
  else if 'a' ≤ c ∧ c ≤ 'f' then some (nibble (c.toNat - 87))
  else none

/-- The `w` lowest digits of `n`, with leading zeros. -/
def digits : (w : Nat) → (n : Nat) → List Char
  | 0, _ => []
  | w + 1, n => digits w (n / 16) ++ [digit (nibble n)]

/-- How many digits `n` needs; zero needs one. -/
def digitCount (n : Nat) : Nat := n.log2 / 4 + 1

/-- Exactly `w` digits. -/
def fixed (w n : Nat) : String := String.ofList (digits w n)

/-- As many digits as `n` needs, and at least `w`. -/
def atLeast (w n : Nat) : String := fixed (max w (digitCount n)) n

theorem value?_digit (d : Fin 16) : value? (digit d) = some d := by
  revert d; decide

@[simp] theorem length_digits (w n : Nat) : (digits w n).length = w := by
  induction w generalizing n with
  | zero => rfl
  | succ w ih => simp [digits, ih]

@[simp] theorem length_fixed (w n : Nat) : (fixed w n).length = w := by
  simp [fixed]

end ChipEight.Hex
