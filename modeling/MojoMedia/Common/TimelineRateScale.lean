import MojoMedia.Common.TimelineRate
import MojoMedia.Common.LinearTransformExact

set_option autoImplicit false

namespace MojoMedia

open MachineInt

theorem between_iff (value divisor digit : Nat) (positive : 0 < divisor) :
    digit * divisor < value ∧ value < (digit + 1) * divisor ↔
      value / divisor = digit ∧ value % divisor ≠ 0 := by
  have whole := Nat.div_add_mod value divisor
  constructor
  · rintro ⟨above, below⟩
    have quotient : value / divisor = digit := by
      rw [Nat.div_eq_iff positive]
      rw [Nat.add_mul, Nat.one_mul] at below
      omega
    refine ⟨quotient, ?_⟩
    rw [quotient, Nat.mul_comm] at whole
    omega
  · rintro ⟨rfl, rest⟩
    have small := Nat.mod_lt value positive
    rw [Nat.mul_comm] at whole
    rw [Nat.add_mul, Nat.one_mul]
    omega

def roundScaled (quotient : Nat) (roundUp : Bool) : Option Nat :=
  if 2 ^ 64 ≤ quotient then none
  else if roundUp then if quotient = 2 ^ 63 - 1 then none else some (u64 (quotient + 1))
  else some quotient

theorem scaleUInt64_eq (value subjectDelta referenceDelta : Nat) (roundUp : Bool)
    (small : value < 2 ^ 64) (subjectSmall : subjectDelta < 2 ^ 32)
    (referenceSmall : referenceDelta < 2 ^ 32) (positive : 0 < referenceDelta) :
    scaleUInt64 value subjectDelta referenceDelta roundUp =
      roundScaled (value * subjectDelta / referenceDelta)
        (roundUp && value * subjectDelta % referenceDelta != 0) := by
  obtain ⟨low, high⟩ := product_words value subjectDelta small subjectSmall
  have lowSmall : productLow value subjectDelta < 2 ^ 32 := Nat.mod_lt _ (by decide)
  have rest : value % 2 ^ 32 * subjectDelta % 2 ^ 32 = productLow value subjectDelta := rfl
  simp only [scaleUInt64, Nat.mul_comm subjectDelta, low, high, rest]
  rw [product_eq value subjectDelta]
  generalize productHigh value subjectDelta = high
  generalize productLow value subjectDelta = low at lowSmall
  rw [div_two_digits _ high low referenceDelta positive, mod_two_digits _ high low referenceDelta]
  have digit := next_digit_lt _ high low referenceDelta positive lowSmall
  have left := Nat.mod_lt high positive
  rw [u64_of_lt (high % referenceDelta * 2 ^ 32) (by omega), Nat.or_comm low,
    two_digits_or _ low lowSmall, roundScaled]
  generalize high / referenceDelta = first
  generalize (high % referenceDelta * 2 ^ 32 + low) / referenceDelta = second at digit
  by_cases overflow : first / 2 ^ 32 = 0
  · rw [if_neg (not_not.mpr overflow), if_neg (by omega : ¬ 2 ^ 64 ≤ first * 2 ^ 32 + second),
      u64_of_lt (first * 2 ^ 32) (by omega), two_digits_or _ _ digit]
  · rw [if_pos overflow, if_pos (by omega : 2 ^ 64 ≤ first * 2 ^ 32 + second)]

def signScaled (negative : Bool) : Option Nat → Int
  | none => 2 ^ 63 - 1
  | some magnitude =>
    if 2 ^ 63 - 1 < magnitude then
      if negative ∧ magnitude = 2 ^ 63 then -2 ^ 63 else 2 ^ 63 - 1
    else if negative then -magnitude
    else magnitude

theorem signScaled_up (quotient : Nat) : signScaled true (roundScaled quotient true) =
    if quotient = 2 ^ 64 - 1 then 0
    else if inS64 (-(quotient + 1 : Nat)) ∧ quotient ≠ 2 ^ 63 - 1 then -((quotient + 1 : Nat) : Int)
    else 2 ^ 63 - 1 := by
  unfold roundScaled
  by_cases large : 2 ^ 64 ≤ quotient
  · rw [if_pos large, if_neg (by omega), if_neg (by unfold inS64; omega)]
    rfl
  rw [if_neg large, if_pos rfl]
  by_cases least : quotient = 2 ^ 63 - 1
  · rw [if_pos least, if_neg (by omega), if_neg (by omega)]
    rfl
  rw [if_neg least]
  by_cases last : quotient = 2 ^ 64 - 1
  · rw [if_pos last, last]
    rfl
  rw [if_neg last, u64_of_lt _ (by omega), signScaled]
  by_cases small : quotient < 2 ^ 63 - 1
  · rw [if_neg (by omega), if_pos rfl, if_pos (by unfold inS64; omega)]
  · rw [if_pos (by omega), if_neg (by omega), if_neg (by unfold inS64; omega)]

theorem signScaled_down (quotient : Nat) : signScaled true (roundScaled quotient false) =
    if inS64 (-quotient) then -(quotient : Int) else 2 ^ 63 - 1 := by
  unfold roundScaled
  by_cases large : 2 ^ 64 ≤ quotient
  · rw [if_pos large, if_neg (by unfold inS64; omega)]
    rfl
  rw [if_neg large, if_neg Bool.false_ne_true, signScaled]
  by_cases small : quotient ≤ 2 ^ 63 - 1
  · rw [if_neg (by omega), if_pos rfl, if_pos (by unfold inS64; omega)]
  rw [if_pos (by omega)]
  by_cases least : quotient = 2 ^ 63
  · rw [if_pos ⟨rfl, least⟩, if_pos (by unfold inS64; omega), least]
    rfl
  · rw [if_neg (by omega), if_neg (by unfold inS64; omega)]

theorem signScaled_nonneg (quotient : Nat) : signScaled false (roundScaled quotient false) =
    if inS64 quotient then (quotient : Int) else 2 ^ 63 - 1 := by
  unfold roundScaled
  by_cases large : 2 ^ 64 ≤ quotient
  · rw [if_pos large, if_neg (by unfold inS64; omega)]
    rfl
  rw [if_neg large, if_neg Bool.false_ne_true, signScaled]
  by_cases small : quotient ≤ 2 ^ 63 - 1
  · rw [if_neg (by omega), if_neg Bool.false_ne_true, if_pos (by unfold inS64; omega)]
  · rw [if_pos (by omega), if_neg (by simp), if_neg (by unfold inS64; omega)]

def exactScale (value : Int) (subjectDelta referenceDelta : Nat) : Int :=
  value * subjectDelta / referenceDelta

-- The exact result lies strictly between two integers, the nearer one to zero `-digit`.
def StrictlyBelow (digit : Nat) (value : Int) (subjectDelta referenceDelta : Nat) : Prop :=
  -((digit + 1 : Nat) * referenceDelta : Int) < value * subjectDelta ∧
    value * subjectDelta < -(digit * referenceDelta : Int)

instance (digit : Nat) (value : Int) (subjectDelta referenceDelta : Nat) :
    Decidable (StrictlyBelow digit value subjectDelta referenceDelta) :=
  inferInstanceAs (Decidable (_ ∧ _))

theorem strictlyBelow_iff (digit : Nat) (value : Int) (subjectDelta referenceDelta : Nat)
    (positive : 0 < referenceDelta) :
    StrictlyBelow digit value subjectDelta referenceDelta ↔ value < 0 ∧
      value.natAbs * subjectDelta / referenceDelta = digit ∧
        value.natAbs * subjectDelta % referenceDelta ≠ 0 := by
  rw [← between_iff _ _ _ positive, StrictlyBelow]
  by_cases negative : value < 0
  · have magnitude : value * subjectDelta = -((value.natAbs * subjectDelta : Nat) : Int) := by
      rw [Int.natCast_mul, Int.ofNat_natAbs_of_nonpos (Int.le_of_lt negative), Int.neg_mul,
        Int.neg_neg]
    rw [magnitude, ← Int.natCast_mul, ← Int.natCast_mul]
    omega
  · have above : 0 ≤ value * (subjectDelta : Int) :=
      Int.mul_nonneg (Int.not_lt.mp negative) (Int.natCast_nonneg _)
    have below : 0 ≤ (digit * referenceDelta : Int) :=
      Int.mul_nonneg (Int.natCast_nonneg _) (Int.natCast_nonneg _)
    omega

theorem exactScale_neg (value : Int) (subjectDelta referenceDelta : Nat)
    (positive : 0 < referenceDelta) (negative : value < 0) :
    exactScale value subjectDelta referenceDelta =
      -(quotient (value.natAbs * subjectDelta) referenceDelta true : Int) := by
  rw [quotient_up _ _ positive, Int.natCast_mul,
    Int.ofNat_natAbs_of_nonpos (Int.le_of_lt negative), Int.neg_mul, Int.neg_neg]
  rfl

theorem exactScale_nonneg (value : Int) (subjectDelta referenceDelta : Nat)
    (nonneg : 0 ≤ value) : exactScale value subjectDelta referenceDelta =
      (value.natAbs * subjectDelta / referenceDelta : Nat) := by
  rw [exactScale, Int.natCast_ediv, Int.natCast_mul, Int.natAbs_of_nonneg nonneg]

namespace TimelineRate

theorem nonneg_iff (value : Int64) : 0 ≤ value ↔ ¬ value.toInt < 0 := by
  rw [Int64.le_iff_toInt_le, Int.not_lt]
  rfl

theorem negative_iff (value : Int64) : value < 0 ↔ value.toInt < 0 := Int64.lt_iff_toInt_lt

theorem magnitude_eq (value : Int64) (scaled : Nat → Bool → Option Nat) :
    (if 0 ≤ value then scaled value.toInt.toNat false
      else if value = Int64.minValue then scaled (2 ^ 63 - 1 + 1) true
      else scaled (-value).toInt.toNat true) =
      scaled value.toInt.natAbs (decide (value.toInt < 0)) := by
  by_cases negative : value.toInt < 0
  · rw [if_neg (by rwa [nonneg_iff, not_not]), decide_eq_true negative]
    by_cases least : value = Int64.minValue
    · rw [if_pos least, least]
      rfl
    · have above : -2 ^ 63 < value.toInt :=
        lt_of_le_of_ne value.le_toInt fun same => least (Int64.toInt_inj.mp same.symm)
      have opposite : (-value).toInt = -value.toInt := by
        rw [Int64.toInt_neg]
        exact s64_of_lt _ (by omega) (by omega)
      have magnitude : (-value.toInt).toNat = value.toInt.natAbs := by omega
      rw [if_neg least, opposite, magnitude]
  · have magnitude : value.toInt.toNat = value.toInt.natAbs := by omega
    rw [if_pos ((nonneg_iff value).mpr negative), decide_eq_false negative, magnitude]

theorem scaleByDeltas_eq (value : Int64) (subjectDelta referenceDelta : UInt32)
    (valid : referenceDelta ≠ 0) :
    (scaleByDeltas value subjectDelta referenceDelta).toInt =
      signScaled (decide (value.toInt < 0))
        (roundScaled (value.toInt.natAbs * subjectDelta.toNat / referenceDelta.toNat)
          (decide (value.toInt < 0) &&
            value.toInt.natAbs * subjectDelta.toNat % referenceDelta.toNat != 0)) := by
  have lower := value.le_toInt
  have upper := value.toInt_lt
  have scaled := scaleUInt64_eq value.toInt.natAbs subjectDelta.toNat referenceDelta.toNat
    (decide (value.toInt < 0)) (by omega) subjectDelta.toNat_lt referenceDelta.toNat_lt
    (toNat_pos _ valid)
  simp only [scaleByDeltas]
  rw [magnitude_eq value fun magnitude roundUp =>
    scaleUInt64 magnitude subjectDelta.toNat referenceDelta.toNat roundUp, scaled]
  cases roundScaled (value.toInt.natAbs * subjectDelta.toNat / referenceDelta.toNat)
      (decide (value.toInt < 0) &&
        value.toInt.natAbs * subjectDelta.toNat % referenceDelta.toNat != 0) with
  | none => rfl
  | some magnitude =>
    have absOfMinInt64 : 2 ^ 63 - 1 + 1 = 2 ^ 63 := rfl
    simp only [signScaled, nonneg_iff, negative_iff, decide_eq_true_eq, absOfMinInt64, ite_not]
    split_ifs with large least negative
    · rfl
    · rfl
    · exact Int64.toInt_neg_ofNat_of_le (by omega)
    · exact Int64.toInt_ofNat_of_lt (by omega)

theorem scaleByDeltas_exact (value : Int64) (subjectDelta referenceDelta : UInt32)
    (valid : referenceDelta ≠ 0) :
    (scaleByDeltas value subjectDelta referenceDelta).toInt =
      if StrictlyBelow (2 ^ 64 - 1) value.toInt subjectDelta.toNat referenceDelta.toNat then 0
      else if inS64 (exactScale value.toInt subjectDelta.toNat referenceDelta.toNat) ∧
          ¬ StrictlyBelow (2 ^ 63 - 1) value.toInt subjectDelta.toNat referenceDelta.toNat then
        exactScale value.toInt subjectDelta.toNat referenceDelta.toNat
      else 2 ^ 63 - 1 := by
  have positive := toNat_pos _ valid
  rw [scaleByDeltas_eq _ _ _ valid]
  simp only [strictlyBelow_iff _ _ _ _ positive]
  by_cases negative : value.toInt < 0
  · rw [exactScale_neg _ _ _ positive negative, quotient]
    by_cases whole : value.toInt.natAbs * subjectDelta.toNat % referenceDelta.toNat = 0
    · simp only [negative, whole, decide_true, bne_self_eq_false, Bool.and_false, signScaled_down,
        ne_eq, not_true_eq_false, and_false, if_false, not_false_eq_true, and_true]
    · simp only [negative, whole, bne_iff_ne.mpr whole, decide_true, Bool.and_self, signScaled_up,
        ne_eq, not_false_eq_true, true_and, and_true, if_true]
  · rw [exactScale_nonneg _ _ _ (Int.not_lt.mp negative)]
    simp only [negative, decide_false, Bool.false_and, signScaled_nonneg, false_and, if_false,
      not_false_eq_true, and_true]

theorem strictlyBelow_exact (digit : Nat) (value : Int) (subjectDelta referenceDelta : Nat)
    (positive : 0 < referenceDelta)
    (below : StrictlyBelow digit value subjectDelta referenceDelta) :
    exactScale value subjectDelta referenceDelta = -((digit + 1 : Nat) : Int) := by
  obtain ⟨negative, digits, rest⟩ := (strictlyBelow_iff _ _ _ _ positive).mp below
  rw [exactScale_neg _ _ _ positive negative, quotient, if_pos ⟨rest, rfl⟩, digits]

theorem toInt_kOverflow : kOverflow.toInt = 2 ^ 63 - 1 := rfl

theorem scale_sound_iff (value : Int64) (subjectDelta referenceDelta : UInt32)
    (valid : referenceDelta ≠ 0) :
    (((scaleByDeltas value subjectDelta referenceDelta).toInt =
          exactScale value.toInt subjectDelta.toNat referenceDelta.toNat ∨
        scaleByDeltas value subjectDelta referenceDelta = kOverflow) ∧
      (¬ inS64 (exactScale value.toInt subjectDelta.toNat referenceDelta.toNat) →
        scaleByDeltas value subjectDelta referenceDelta = kOverflow)) ↔
    ¬ StrictlyBelow (2 ^ 64 - 1) value.toInt subjectDelta.toNat referenceDelta.toNat := by
  have result := scaleByDeltas_exact value subjectDelta referenceDelta valid
  have wraps := strictlyBelow_exact (2 ^ 64 - 1) value.toInt subjectDelta.toNat
    referenceDelta.toNat (toNat_pos _ valid)
  rw [← Int64.toInt_inj (y := kOverflow), toInt_kOverflow]
  by_cases wrap : StrictlyBelow (2 ^ 64 - 1) value.toInt subjectDelta.toNat referenceDelta.toNat
  · rw [if_pos wrap] at result
    rw [result, wraps wrap]
    simp only [wrap, not_true_eq_false, iff_false]
    omega
  · rw [if_neg wrap] at result
    simp only [wrap, not_false_eq_true, iff_true]
    split_ifs at result with given
    · exact ⟨.inl result, fun outside => absurd given.1 outside⟩
    · exact ⟨.inr result, fun _ => result⟩

theorem scale_sound_iff_half :
    (scaleByDeltas (-1001) 1 2).toInt = exactScale (-1001) 1 2 ∨
      scaleByDeltas (-1001) 1 2 = kOverflow :=
  ((scale_sound_iff (-1001) 1 2 (by decide)).mpr (by decide)).1

theorem overflow_gives_zero :
    ¬ (((scaleByDeltas (-8198552921648689607) 9 4).toInt = exactScale (-8198552921648689607) 9 4 ∨
        scaleByDeltas (-8198552921648689607) 9 4 = kOverflow) ∧
      (¬ inS64 (exactScale (-8198552921648689607) 9 4) →
        scaleByDeltas (-8198552921648689607) 9 4 = kOverflow)) := by
  decide

theorem scale_complete_iff (value : Int64) (subjectDelta referenceDelta : UInt32)
    (valid : referenceDelta ≠ 0) :
    (inS64 (exactScale value.toInt subjectDelta.toNat referenceDelta.toNat) →
      (scaleByDeltas value subjectDelta referenceDelta).toInt =
        exactScale value.toInt subjectDelta.toNat referenceDelta.toNat) ↔
    ¬ StrictlyBelow (2 ^ 63 - 1) value.toInt subjectDelta.toNat referenceDelta.toNat := by
  have positive := toNat_pos _ valid
  have result := scaleByDeltas_exact value subjectDelta referenceDelta valid
  have wraps := strictlyBelow_exact (2 ^ 64 - 1) value.toInt subjectDelta.toNat _ positive
  have leasts := strictlyBelow_exact (2 ^ 63 - 1) value.toInt subjectDelta.toNat _ positive
  have wrap : inS64 (exactScale value.toInt subjectDelta.toNat referenceDelta.toNat) →
      ¬ StrictlyBelow (2 ^ 64 - 1) value.toInt subjectDelta.toNat referenceDelta.toNat := by
    intro inside wrap
    rw [wraps wrap] at inside
    unfold inS64 at inside
    omega
  constructor
  · intro complete least
    have inside : inS64 (exactScale value.toInt subjectDelta.toNat referenceDelta.toNat) := by
      rw [leasts least]
      decide
    rw [if_neg (wrap inside), if_neg fun both => both.2 least] at result
    have given := complete inside
    rw [result, leasts least] at given
    omega
  · intro other inside
    rw [result, if_neg (wrap inside), if_pos ⟨inside, other⟩]

theorem scale_complete_iff_least :
    (scaleByDeltas (Int64.minValue / 2) 2 1).toInt = exactScale (Int64.minValue / 2).toInt 2 1 :=
  (scale_complete_iff (Int64.minValue / 2) 2 1 (by decide)).mpr (by decide) (by decide)

theorem least_rounded_refused :
    ¬ (inS64 (exactScale (-6148914691236517205) 3 2) →
      (scaleByDeltas (-6148914691236517205) 3 2).toInt =
        exactScale (-6148914691236517205) 3 2) := by
  decide

end TimelineRate

end MojoMedia
