import MojoMedia.Shared.MachineInt
import Mathlib.Tactic.Ring
import Mathlib.Tactic.Linarith

set_option autoImplicit false

namespace MachineInt

theorem carry (base high low divisor : Nat) : high * base + low =
    high % divisor * base + low + divisor * (high / divisor * base) := by
  calc high * base + low
    _ = (divisor * (high / divisor) + high % divisor) * base + low := by rw [Nat.div_add_mod]
    _ = high % divisor * base + low + divisor * (high / divisor * base) := by ring

theorem div_two_digits (base high low divisor : Nat) (positive : 0 < divisor) :
    (high * base + low) / divisor =
      high / divisor * base + (high % divisor * base + low) / divisor := by
  rw [carry base high low divisor, Nat.add_mul_div_left _ _ positive, Nat.add_comm]

theorem mod_two_digits (base high low divisor : Nat) :
    (high * base + low) % divisor = (high % divisor * base + low) % divisor := by
  rw [carry base high low divisor, Nat.add_mul_mod_self_left]

theorem next_digit_lt (base high low divisor : Nat) (positive : 0 < divisor) (small : low < base) :
    (high % divisor * base + low) / divisor < base := by
  have rest : high % divisor < divisor := Nat.mod_lt high positive
  rw [Nat.div_lt_iff_lt_mul positive]
  nlinarith

theorem two_digits_or (high low : Nat) (small : low < 2 ^ 32) :
    high * 2 ^ 32 ||| low = high * 2 ^ 32 + low := by
  rw [Nat.mul_comm]
  exact (Nat.two_pow_add_eq_or_of_lt small high).symm

def quotient (value divisor : Nat) (roundUp : Bool) : Nat :=
  if value % divisor ≠ 0 ∧ roundUp then value / divisor + 1 else value / divisor

theorem quotient_down (value divisor : Nat) :
    (quotient value divisor false : Int) = (value : Int) / divisor := by
  simp [quotient]

theorem quotient_up (value divisor : Nat) (positive : 0 < divisor) :
    -(quotient value divisor true : Int) = (-(value : Int)) / divisor := by
  have sign : (divisor : Int).sign = 1 := Int.sign_eq_one_of_pos (by omega)
  have divides : (divisor : Int) ∣ value ↔ value % divisor = 0 := by
    rw [Int.natCast_dvd_natCast, Nat.dvd_iff_mod_eq_zero]
  rw [Int.neg_ediv, sign]
  by_cases whole : value % divisor = 0
  · simp [quotient, whole, divides]
  · simp only [quotient, whole, divides, ne_eq, not_false_eq_true, and_self, if_true, if_false]
    push_cast
    omega

end MachineInt
