import Mathlib.Algebra.Group.Nat.Defs
import Mathlib.Logic.Equiv.Defs

/-!
Two words in one of twice the width. As numbers, the higher half is the quotient and the lower half
the remainder.
-/

namespace Startrail

def halves (width : Nat) : BitVec width × BitVec width ≃ BitVec (width + width) where
  toFun pair := pair.1 ++ pair.2
  invFun word := (word.extractLsb' width width, word.extractLsb' 0 width)
  left_inv _ := Prod.ext BitVec.extractLsb'_append_eq_left BitVec.extractLsb'_append_eq_right
  right_inv _ := BitVec.extractLsb'_append_extractLsb'

variable {width : Nat}

theorem halves_toNat (high low : BitVec width) :
    (halves width (high, low)).toNat = high.toNat * 2 ^ width + low.toNat := by
  have apart : high.toNat <<< width + low.toNat = high.toNat <<< width ||| low.toNat :=
    Nat.shiftLeft_add_eq_or_of_lt low.isLt _
  rw [← Nat.shiftLeft_eq, apart]
  exact BitVec.toNat_append high low

theorem halves_symm_high (word : BitVec (width + width)) :
    ((halves width).symm word).1.toNat = word.toNat / 2 ^ width := by
  change (word.extractLsb' width width).toNat = _
  rw [BitVec.extractLsb'_toNat, Nat.shiftRight_eq_div_pow]
  have bound := word.isLt
  rw [Nat.pow_add] at bound
  exact Nat.mod_eq_of_lt (Nat.div_lt_of_lt_mul bound)

theorem halves_symm_low (word : BitVec (width + width)) :
    ((halves width).symm word).2.toNat = word.toNat % 2 ^ width := by
  change (word.extractLsb' 0 width).toNat = _
  rw [BitVec.extractLsb'_toNat, Nat.shiftRight_zero]

end Startrail
