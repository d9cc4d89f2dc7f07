import ChipEight.Hex

/-!
# Keypad

Sixteen keys, 0 to F, each up or down. A set of keys is written as a string of hexadecimal digits of
either case, in any order and with repetitions (`ofDigits`).

* `ofDigits_eq_ok_iff`: a string is accepted exactly if all its characters are digits.
-/

namespace ChipEight

/-- The number of keys. -/
abbrev Keypad.count : Nat := 16

/-- Which keys are down. -/
abbrev Keypad := Vector Bool Keypad.count

/-- A character that names no key. -/
structure InvalidKey where
  char : Char
  deriving DecidableEq

/-- The sentence that reports it. -/
def InvalidKey.message (e : InvalidKey) : String :=
  "'" ++ e.char.toString ++ "' is not a key; keys are hex digits 0-F"

namespace Keypad

/-- Every key up. -/
def released : Keypad := Vector.replicate count false

/-- Whether key `k` is down; a number above F names no key. -/
def down? (keys : Keypad) (k : Nat) : Option Bool := keys[k]?

/-- The keypad with key `k` moved; a number above F moves nothing. -/
def move (keys : Keypad) (k : Nat) (down : Bool) : Keypad := keys.setIfInBounds k down

/-- The lowest key that is down. -/
def lowest? (keys : Keypad) : Option (Fin 16) := (List.finRange 16).find? fun k => keys[k]

/-- The keys that are down, in ascending order. -/
def held (keys : Keypad) : List (Fin 16) := (List.finRange 16).filter fun k => keys[k]

/-- The keypad with the keys of further digits pressed, or the first character that is no digit. -/
def pressDigits (keys : Keypad) : List Char → Except InvalidKey Keypad
  | [] => .ok keys
  | c :: cs =>
    match Hex.value? c with
    | some d => pressDigits (keys.set d.val true) cs
    | none => .error ⟨c⟩

/-- The keypad on which exactly the keys of the digits are down. -/
def ofDigits (digits : String) : Except InvalidKey Keypad := released.pressDigits digits.toList

/-- Moving a key moves that key alone, and a number that names no key moves none. -/
theorem down?_move (keys : Keypad) (k j : Nat) (down : Bool) :
    (keys.move k down).down? j = if k = j ∧ k < count then some down else keys.down? j := by
  unfold move down?
  rw [Vector.getElem?_setIfInBounds]
  by_cases hk : k < count <;> by_cases hj : k = j <;> simp_all

theorem pressDigits_eq_ok_iff {keys : Keypad} {cs : List Char} :
    (∃ pressed, keys.pressDigits cs = .ok pressed) ↔ ∀ c ∈ cs, (Hex.value? c).isSome := by
  induction cs generalizing keys with
  | nil => simp [pressDigits]
  | cons c cs ih => cases h : Hex.value? c <;> simp [pressDigits, h, ih]

theorem ofDigits_eq_ok_iff {s : String} :
    (∃ pressed, ofDigits s = .ok pressed) ↔ ∀ c ∈ s.toList, (Hex.value? c).isSome :=
  pressDigits_eq_ok_iff

end Keypad

end ChipEight
