import MojoMedia.Common.LinearTransform
import Mathlib.Data.UInt

set_option autoImplicit false

namespace MojoMedia.Ratio

open MachineInt

def exactProduct (a b : Ratio) : Nat × Nat :=
  let numerator := a.numerator.toNat * b.numerator.toNat
  let denominator := a.denominator.toNat * b.denominator.toNat
  (numerator / numerator.gcd denominator, denominator / numerator.gcd denominator)

def Fits (fraction : Nat × Nat) : Prop := fraction.1 < 2 ^ 32 ∧ fraction.2 < 2 ^ 32

instance (fraction : Nat × Nat) : Decidable (Fits fraction) := inferInstanceAs (Decidable (_ ∧ _))

def lostBits (fraction : Nat × Nat) : Nat := (u64 (fraction.1 * 2) ||| fraction.2).log2 + 1 - 32

theorem or_lt_two_pow_iff (left right bits : Nat) :
    left ||| right < 2 ^ bits ↔ left < 2 ^ bits ∧ right < 2 ^ bits :=
  ⟨fun small => ⟨Nat.lt_of_le_of_lt Nat.left_le_or small, Nat.lt_of_le_of_lt Nat.right_le_or small⟩,
    fun small => Nat.or_lt_two_pow small.1 small.2⟩

section Product

variable {a b : Ratio}

theorem product_pos (valid : a.denominator ≠ 0 ∧ b.denominator ≠ 0) :
    0 < a.denominator.toNat * b.denominator.toNat :=
  Nat.mul_pos (toNat_pos _ valid.1) (toNat_pos _ valid.2)

theorem exactProduct_pos (valid : a.denominator ≠ 0 ∧ b.denominator ≠ 0) :
    0 < (exactProduct a b).2 := by
  have positive := product_pos valid
  exact Nat.div_pos (Nat.le_of_dvd positive (Nat.gcd_dvd_right _ _))
    (Nat.gcd_pos_of_pos_right _ positive)

theorem exactProduct_lt (a b : Ratio) : (exactProduct a b).1 < 2 ^ 64 := by
  have left := a.numerator.toNat_lt
  have right := b.numerator.toNat_lt
  have product : a.numerator.toNat * b.numerator.toNat < 2 ^ 32 * 2 ^ 32 :=
    Nat.mul_lt_mul'' left right
  exact Nat.lt_of_le_of_lt (Nat.div_le_self _ _) product

theorem compose_eq (valid : a.denominator ≠ 0 ∧ b.denominator ≠ 0) :
    compose a b =
      ({ numerator := .ofNat ((exactProduct a b).1 / 2 ^ lostBits (exactProduct a b))
         denominator := .ofNat ((exactProduct a b).2 / 2 ^ lostBits (exactProduct a b)) },
        decide (lostBits (exactProduct a b) = 0)) := by
  have positive := product_pos valid
  by_cases zero : a.numerator.toNat * b.numerator.toNat = 0
  · have none : exactProduct a b = (0, 1) := by
      simp only [exactProduct, zero, Nat.gcd_zero_left, Nat.zero_div, Nat.div_self positive]
    rw [none, compose, if_pos (.inl zero), if_pos zero, if_neg (Nat.ne_of_gt positive)]
    rfl
  · have some : ¬ (a.numerator.toNat * b.numerator.toNat = 0 ∨
        a.denominator.toNat * b.denominator.toNat = 0) := by
      omega
    rw [compose, if_neg some, reduce_eq _ _ positive]
    rfl

theorem lostBits_eq_zero (fraction : Nat × Nat) (positive : 0 < fraction.2) :
    lostBits fraction = 0 ↔ u64 (fraction.1 * 2) < 2 ^ 32 ∧ fraction.2 < 2 ^ 32 := by
  have nonzero : u64 (fraction.1 * 2) ||| fraction.2 ≠ 0 :=
    Nat.ne_of_gt (Nat.lt_of_lt_of_le positive Nat.right_le_or)
  rw [← or_lt_two_pow_iff, ← Nat.log2_lt nonzero, lostBits]
  omega

def Miscounted (fraction : Nat × Nat) : Prop :=
  fraction.2 < 2 ^ 32 ∧ (2 ^ 31 ≤ fraction.1 ∧ fraction.1 < 2 ^ 32 ∨
    2 ^ 63 ≤ fraction.1 ∧ fraction.1 < 2 ^ 63 + 2 ^ 31)

instance (fraction : Nat × Nat) : Decidable (Miscounted fraction) :=
  inferInstanceAs (Decidable (_ ∧ _))

theorem unshifted (valid : a.denominator ≠ 0 ∧ b.denominator ≠ 0) (fits : Fits (exactProduct a b))
    (exactly : (compose a b).2 = true) :
    ((compose a b).1.numerator.toNat, (compose a b).1.denominator.toNat) = exactProduct a b := by
  rw [compose_eq valid] at exactly ⊢
  simp only [of_decide_eq_true exactly, Nat.pow_zero, Nat.div_one,
    UInt32.toNat_ofNat_of_lt' fits.1, UInt32.toNat_ofNat_of_lt' fits.2]

-- `Compose` says that nothing was lost exactly when the product fits, and then gives the product,
-- unless the leading bits are miscounted.
theorem compose_exact_iff (a b : Ratio) (valid : a.denominator ≠ 0 ∧ b.denominator ≠ 0) :
    (((compose a b).2 = true ↔ Fits (exactProduct a b)) ∧
      ((compose a b).2 = true →
        ((compose a b).1.numerator.toNat, (compose a b).1.denominator.toNat) =
          exactProduct a b)) ↔
    ¬ Miscounted (exactProduct a b) := by
  have small := exactProduct_lt a b
  have flag : (compose a b).2 = true ↔
      u64 ((exactProduct a b).1 * 2) < 2 ^ 32 ∧ (exactProduct a b).2 < 2 ^ 32 := by
    rw [compose_eq valid, decide_eq_true_eq, lostBits_eq_zero _ (exactProduct_pos valid)]
  have counted : ((compose a b).2 = true ↔ Fits (exactProduct a b)) ↔
      ¬ Miscounted (exactProduct a b) := by
    rw [flag, Fits, Miscounted, u64]
    omega
  rw [← counted]
  refine ⟨fun both => both.1, fun same => ⟨same, fun exactly => ?_⟩⟩
  exact unshifted valid (same.mp exactly) exactly

theorem compose_exact_iff_reduced :
    ((compose ⟨3, 4⟩ ⟨2, 9⟩).2 = true ↔ Fits (exactProduct ⟨3, 4⟩ ⟨2, 9⟩)) ∧
      ((compose ⟨3, 4⟩ ⟨2, 9⟩).1.numerator.toNat, (compose ⟨3, 4⟩ ⟨2, 9⟩).1.denominator.toNat) =
        exactProduct ⟨3, 4⟩ ⟨2, 9⟩ := by
  have meets := (compose_exact_iff ⟨3, 4⟩ ⟨2, 9⟩ (by decide)).mpr (by decide +kernel)
  exact ⟨meets.1, meets.2 (by decide +kernel)⟩

theorem half_range_shifted :
    ¬ (((compose ⟨2 ^ 31, 1⟩ ⟨1, 1⟩).2 = true ↔ Fits (exactProduct ⟨2 ^ 31, 1⟩ ⟨1, 1⟩)) ∧
      ((compose ⟨2 ^ 31, 1⟩ ⟨1, 1⟩).2 = true →
        ((compose ⟨2 ^ 31, 1⟩ ⟨1, 1⟩).1.numerator.toNat,
          (compose ⟨2 ^ 31, 1⟩ ⟨1, 1⟩).1.denominator.toNat) =
            exactProduct ⟨2 ^ 31, 1⟩ ⟨1, 1⟩)) ∧
    compose ⟨2 ^ 32 - 1, 1⟩ ⟨2 ^ 31 + 1, 1⟩ = (⟨2 ^ 31 - 1, 1⟩, true) := by
  decide +kernel

def Vanishes (fraction : Nat × Nat) : Prop :=
  2 ^ (fraction.2.log2 + 32) ≤ u64 (fraction.1 * 2)

instance (fraction : Nat × Nat) : Decidable (Vanishes fraction) := Nat.decLe _ _

theorem shifted_denominator_lt (fraction : Nat × Nat) :
    fraction.2 / 2 ^ lostBits fraction < 2 ^ 32 := by
  rw [Nat.div_lt_iff_lt_mul (Nat.two_pow_pos _), ← Nat.pow_add]
  calc fraction.2
    _ ≤ u64 (fraction.1 * 2) ||| fraction.2 := Nat.right_le_or
    _ < 2 ^ ((u64 (fraction.1 * 2) ||| fraction.2).log2 + 1) := Nat.lt_log2_self
    _ ≤ 2 ^ (32 + lostBits fraction) :=
      Nat.pow_le_pow_right Nat.two_pos (by unfold lostBits; omega)

theorem lostBits_le_iff (fraction : Nat × Nat) (positive : 0 < fraction.2) :
    2 ^ lostBits fraction ≤ fraction.2 ↔ ¬ Vanishes fraction := by
  have nonzero : u64 (fraction.1 * 2) ||| fraction.2 ≠ 0 :=
    Nat.ne_of_gt (Nat.lt_of_lt_of_le positive Nat.right_le_or)
  have below : fraction.2 < 2 ^ (fraction.2.log2 + 32) :=
    Nat.lt_of_lt_of_le Nat.lt_log2_self (Nat.pow_le_pow_right Nat.two_pos (by omega))
  calc 2 ^ lostBits fraction ≤ fraction.2
    _ ↔ lostBits fraction ≤ fraction.2.log2 := (Nat.le_log2 (Nat.ne_of_gt positive)).symm
    _ ↔ (u64 (fraction.1 * 2) ||| fraction.2).log2 < fraction.2.log2 + 32 := by
      unfold lostBits
      omega
    _ ↔ u64 (fraction.1 * 2) < 2 ^ (fraction.2.log2 + 32) := by
      rw [Nat.log2_lt nonzero, or_lt_two_pow_iff, and_iff_left below]
    _ ↔ ¬ Vanishes fraction := Nat.not_le.symm

theorem compose_denominator (valid : a.denominator ≠ 0 ∧ b.denominator ≠ 0) :
    (compose a b).1.denominator ≠ 0 ↔ ¬ Vanishes (exactProduct a b) := by
  rw [compose_eq valid, ← lostBits_le_iff _ (exactProduct_pos valid), ne_eq, ← UInt32.toNat_inj,
    UInt32.toNat_ofNat_of_lt' (shifted_denominator_lt _)]
  exact Nat.div_ne_zero_iff.trans (and_iff_right (Nat.ne_of_gt (Nat.two_pow_pos _)))

end Product

end MojoMedia.Ratio
