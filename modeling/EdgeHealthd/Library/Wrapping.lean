import Mathlib.Algebra.Group.Nat.Defs

/-!
Quotients of wrapped values. A value that is reduced modulo a word and then divided
loses at least one in the quotient, so the quotient shows whether it wrapped.
-/

namespace Wrapping

variable {value modulus divisor : Nat} (positive : 0 < divisor) (small : divisor ≤ modulus)

include positive small

theorem mod_div_lt (wraps : modulus ≤ value) : value % modulus / divisor < value / divisor := by
  have reduced : value % modulus + divisor ≤ value := by
    have kept : value % modulus ≤ value - modulus := by
      rw [Nat.mod_eq_sub_mod wraps]
      exact Nat.mod_le _ _
    omega
  calc
    value % modulus / divisor < value % modulus / divisor + 1 := Nat.lt_succ_self _
    _ = (value % modulus + divisor) / divisor := (Nat.add_div_right _ positive).symm
    _ ≤ value / divisor := Nat.div_le_div_right reduced

theorem mod_div_eq_iff : value % modulus / divisor = value / divisor ↔ value < modulus := by
  constructor
  · intro same
    rcases Nat.lt_or_ge value modulus with fits | wraps
    · exact fits
    · have less := mod_div_lt positive small wraps
      omega
  · intro fits
    rw [Nat.mod_eq_of_lt fits]

end Wrapping
