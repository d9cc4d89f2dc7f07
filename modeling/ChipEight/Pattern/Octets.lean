/-!
# Octets of ranges of characters

In UTF-8 a character is a sequence of octets, and a range of characters is a union of products of
ranges of octets. `octetRanges` gives these products in order.
-/

namespace ChipEight.Pattern

/-- A range of octets. -/
abbrev OctetRange := Nat × Nat

/-- Where the characters of one length end. -/
def lengthBounds : List Nat := [0x7F, 0x7FF, 0xFFFF]

/-- Where a range of characters needs to be cut because not all of them have the same length, or
because the last octets do not go all the way while earlier ones change. The cut is in front of the
character. -/
def cut? (first last : Nat) : Option Nat :=
  match lengthBounds.find? fun bound => first ≤ bound && bound < last with
  | some bound => some (bound + 1)
  | none => if last ≤ 0x7F then none else [64, 64 * 64, 64 * 64 * 64].findSome? uneven?
where
  /-- The cut for the last octets, which go through `block` characters. -/
  uneven? (block : Nat) : Option Nat :=
    if first / block = last / block then none
    else if first % block ≠ 0 then some ((first / block + 1) * block)
    else if last % block ≠ block - 1 then some (last / block * block)
    else none

/-- The pieces of a range of characters that are products of ranges of octets. -/
def pieces (first last : Nat) : List (Nat × Nat) :=
  match cut? first last with
  | some c =>
    if _ : first < c ∧ c ≤ last then pieces first (c - 1) ++ pieces c last else [(first, last)]
  | none => [(first, last)]
termination_by last - first

/-- The octets of a character by its code point. -/
def octets (n : Nat) : List Nat := (String.utf8EncodeChar (.ofNat n)).map UInt8.toNat

/-- The products of ranges of octets of a range of characters. The code points of surrogates are
left out, for they are no characters. -/
def octetRanges (first last : Nat) : List (List OctetRange) :=
  let parts := [(first, min last 0xD7FF), (max first 0xE000, last)]
  (parts.filter fun (first, last) => first ≤ last).flatMap fun (first, last) =>
    (pieces first last).map fun (first, last) => (octets first).zip (octets last)

end ChipEight.Pattern
