import Mathlib.Algebra.Group.Nat.Defs
import Mathlib.Tactic.Common

set_option autoImplicit false

namespace Alignment

def roundUp (value alignment : Nat) : Nat := (value + (alignment - 1)) / alignment * alignment

theorem dvd_roundUp (value alignment : Nat) : alignment ∣ roundUp value alignment :=
  Nat.dvd_mul_left _ _

theorem roundUp_le (value alignment : Nat) : roundUp value alignment ≤ value + (alignment - 1) :=
  Nat.div_mul_le_self _ _

theorem le_roundUp (value : Nat) {alignment : Nat} (some : 0 < alignment) :
    value ≤ roundUp value alignment := by
  have rest := Nat.mod_lt (value + (alignment - 1)) some
  have parts := Nat.div_add_mod' (value + (alignment - 1)) alignment
  unfold roundUp
  omega

theorem roundUp_mono {value larger : Nat} (alignment : Nat) (order : value ≤ larger) :
    roundUp value alignment ≤ roundUp larger alignment :=
  Nat.mul_le_mul_right _ (Nat.div_le_div_right (Nat.add_le_add_right order _))

theorem toNat_and_not_mask {width : Nat} (value mask : BitVec width) (bits : Nat)
    (low : mask.toNat = 2 ^ bits - 1) :
    (value &&& ~~~mask).toNat = value.toNat / 2 ^ bits * 2 ^ bits := by
  rw [← Nat.shiftRight_eq_div_pow, ← Nat.shiftLeft_eq]
  apply Nat.eq_of_testBit_eq
  intro bit
  have masked : mask.getLsbD bit = decide (bit < bits) := by
    rw [← BitVec.testBit_toNat, low, Nat.testBit_two_pow_sub_one]
  rw [BitVec.testBit_toNat, BitVec.getLsbD_and, BitVec.getLsbD_not, masked, Nat.testBit_shiftLeft,
    Nat.testBit_shiftRight, BitVec.testBit_toNat]
  by_cases kept : bits ≤ bit
  · rw [decide_eq_true kept, decide_eq_false (Nat.not_lt_of_le kept), Nat.add_sub_cancel' kept]
    by_cases inside : bit < width
    · simp [inside]
    · simp [BitVec.getLsbD_of_ge _ _ (Nat.le_of_not_lt inside)]
  · rw [decide_eq_false kept, decide_eq_true (Nat.lt_of_not_le kept)]
    simp

end Alignment
