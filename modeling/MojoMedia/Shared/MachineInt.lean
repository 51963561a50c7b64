import Mathlib.Algebra.Group.Int.Defs
import Mathlib.Algebra.Group.Nat.Defs
import Mathlib.Data.Int.Basic
import Mathlib.Tactic.Common

set_option autoImplicit false

namespace MachineInt

def u32 (value : Nat) : Nat := value % 2 ^ 32

def u64 (value : Nat) : Nat := value % 2 ^ 64

def subU64 (left right : Nat) : Nat := u64 (left + (2 ^ 64 - u64 right))

theorem u32_of_lt (value : Nat) (small : value < 2 ^ 32) : u32 value = value :=
  Nat.mod_eq_of_lt small

theorem u64_of_lt (value : Nat) (small : value < 2 ^ 64) : u64 value = value :=
  Nat.mod_eq_of_lt small

theorem subU64_of_le (left right : Nat) (small : left < 2 ^ 64) (order : right ≤ left) :
    subU64 left right = left - right := by
  have rightSmall : right < 2 ^ 64 := by omega
  have sum : left + (2 ^ 64 - right) = (left - right) + 2 ^ 64 := by omega
  rw [subU64, u64_of_lt right rightSmall, u64, sum, Nat.add_mod_right]
  exact Nat.mod_eq_of_lt (by omega)

theorem toNat_pos (word : UInt32) (nonzero : word ≠ 0) : 0 < word.toNat := by
  rw [Nat.pos_iff_ne_zero]
  exact fun zero => nonzero (UInt32.toNat_inj.mp zero)

def s64 (n : Int) : Int := n.bmod (2 ^ 64)

theorem s64_of_lt (n : Int) (lower : -2 ^ 63 ≤ n) (upper : n < 2 ^ 63) : s64 n = n := by
  rw [s64, Int.bmod_eq_of_le]
  · omega
  · omega

@[simp] theorem s64_zero : s64 0 = 0 := rfl

theorem s64_congr (n : Int) : ∃ turns : Int, 2 ^ 64 * turns + s64 n = n :=
  ⟨n.bdiv (2 ^ 64), Int.bdiv_add_bmod n (2 ^ 64)⟩

theorem s64_range (n : Int) : -2 ^ 63 ≤ s64 n ∧ s64 n < 2 ^ 63 := by
  have lower := @Int.le_bmod n (2 ^ 64) (by decide)
  have upper := @Int.bmod_lt n (2 ^ 64) (by decide)
  unfold s64
  omega

theorem wrapped_add (left right : Int64) : (left + right).toInt = s64 (left.toInt + right.toInt) :=
  Int64.toInt_add left right

theorem wrapped_sub (left right : Int64) : (left - right).toInt = s64 (left.toInt - right.toInt) :=
  Int64.toInt_sub left right

theorem wrapped_mul (left right : Int64) : (left * right).toInt = s64 (left.toInt * right.toInt) :=
  Int64.toInt_mul left right

theorem wrapped_div (left right : Int64) :
    (left / right).toInt = s64 (left.toInt.tdiv right.toInt) :=
  Int64.toInt_div left right

def s32 (n : Int) : Int := n.bmod (2 ^ 32)

theorem s32_of_lt (n : Int) (lower : -2 ^ 31 ≤ n) (upper : n < 2 ^ 31) : s32 n = n := by
  rw [s32, Int.bmod_eq_of_le]
  · omega
  · omega

theorem s32_congr (n : Int) : ∃ turns : Int, 2 ^ 32 * turns + s32 n = n :=
  ⟨n.bdiv (2 ^ 32), Int.bdiv_add_bmod n (2 ^ 32)⟩

theorem s32_lt (n : Int) : s32 n < 2 ^ 31 := by
  have upper := @Int.bmod_lt n (2 ^ 32) (by decide)
  unfold s32
  omega

theorem le_s32 (n : Int) : -2 ^ 31 ≤ s32 n := by
  have lower := @Int.le_bmod n (2 ^ 32) (by decide)
  unfold s32
  omega

theorem s32_s32_add (left right : Int) : s32 (s32 left + right) = s32 (left + right) := by
  simp only [s32, Int.bmod_add_bmod]

theorem roundUp_bounds (distance step : Int) (positive : 0 < step) :
    distance ≤ (distance + step - 1).tdiv step * step ∧
      (distance + step - 1).tdiv step * step ≤ max 0 (distance + step - 1) := by
  have whole := Int.tdiv_mul_add_tmod (distance + step - 1) step
  by_cases negative : distance + step - 1 < 0
  · have opposite := Int.neg_nonneg_of_nonpos (Int.le_of_lt negative)
    have rest := Int.tmod_nonneg step opposite
    have quotient := Int.mul_nonneg (Int.tdiv_nonneg opposite (Int.le_of_lt positive))
      (Int.le_of_lt positive)
    rw [Int.neg_tmod] at rest
    rw [Int.neg_tdiv, Int.neg_mul] at quotient
    omega
  · have rest := Int.tmod_nonneg step (Int.not_lt.mp negative)
    have below := Int.tmod_lt_of_pos (distance + step - 1) positive
    omega

end MachineInt
