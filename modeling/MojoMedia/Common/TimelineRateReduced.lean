import MojoMedia.Common.TimelineRate
import Mathlib.Data.Rat.Lemmas
import Mathlib.Data.Nat.GCD.Basic
import Mathlib.Data.Nat.Prime.Basic

set_option autoImplicit false

namespace MojoMedia

theorem gcd_half {odd even : Nat} (isOdd : odd % 2 = 1) (isEven : even % 2 = 0) :
    odd.gcd (even / 2) = odd.gcd even := by
  have double : even = 2 * (even / 2) := by omega
  have coprime : Nat.Coprime 2 odd := Nat.coprime_two_left.mpr (Nat.odd_iff.mpr isOdd)
  calc odd.gcd (even / 2)
    _ = odd.gcd (2 * (even / 2)) := (Nat.Coprime.gcd_mul_left_cancel_right _ coprime).symm
    _ = odd.gcd even := by rw [← double]

theorem dropTwos_odd (value : Nat) (positive : value ≠ 0) : dropTwos value % 2 = 1 := by
  induction value using dropTwos.induct with
  | case1 value even ih =>
    rw [dropTwos, dif_pos even]
    exact ih (by omega)
  | case2 value odd =>
    rw [dropTwos, dif_neg odd]
    omega

theorem gcd_dropTwos {odd : Nat} (isOdd : odd % 2 = 1) (value : Nat) :
    odd.gcd (dropTwos value) = odd.gcd value := by
  induction value using dropTwos.induct with
  | case1 value even ih =>
    rw [dropTwos, dif_pos even, ih]
    exact gcd_half isOdd even.2
  | case2 value stays => rw [dropTwos, dif_neg stays]

theorem dropTwos_of_odd (value : Nat) (isOdd : value % 2 = 1) : dropTwos value = value := by
  rw [dropTwos, dif_neg (by omega)]

theorem subtractTwos_eq_gcd (a b : Nat) (aOdd : a % 2 = 1) (bPositive : b ≠ 0) :
    subtractTwos a b = a.gcd b := by
  induction a, b using subtractTwos.induct with
  | case1 a b odd swap again ih =>
    have isOdd : odd % 2 = 1 := dropTwos_odd b bPositive
    rw [subtractTwos, dif_pos swap, dif_pos again, ih isOdd again.2,
      Nat.gcd_sub_self_right (Nat.le_of_lt swap), Nat.gcd_comm, gcd_dropTwos aOdd]
  | case2 a b odd swap stop =>
    have isOdd : odd % 2 = 1 := dropTwos_odd b bPositive
    omega
  | case3 a b odd order again ih =>
    rw [subtractTwos, dif_neg order, dif_pos again, ih aOdd again.2,
      Nat.gcd_sub_self_right (Nat.not_lt.mp order), gcd_dropTwos aOdd]
  | case4 a b odd order stop =>
    have same : dropTwos b = a := by omega
    rw [subtractTwos, dif_neg order, dif_neg stop, ← gcd_dropTwos aOdd, same, Nat.gcd_self]

theorem or_even (a b : Nat) : (a ||| b) % 2 = 0 ↔ a % 2 = 0 ∧ b % 2 = 0 := by
  have isOdd := @Nat.or_mod_two_eq_one a b
  omega

theorem commonTwos_spec (a b twos : Nat) (aPositive : a ≠ 0) (bPositive : b ≠ 0) :
    (commonTwos a b twos).1 ≠ 0 ∧ (commonTwos a b twos).2.1 ≠ 0 ∧
    ((commonTwos a b twos).1 % 2 = 1 ∨ (commonTwos a b twos).2.1 % 2 = 1) ∧
    (commonTwos a b twos).1.gcd (commonTwos a b twos).2.1 * 2 ^ (commonTwos a b twos).2.2 =
      a.gcd b * 2 ^ twos := by
  induction a, b, twos using commonTwos.induct with
  | case1 a b twos even ih =>
    obtain ⟨aEven, bEven⟩ := (or_even a b).mp even.2
    have halves : 2 * (a / 2).gcd (b / 2) = a.gcd b := by
      rw [← Nat.gcd_mul_left, Nat.mul_div_cancel' (Nat.dvd_of_mod_eq_zero aEven),
        Nat.mul_div_cancel' (Nat.dvd_of_mod_eq_zero bEven)]
    rw [commonTwos, dif_pos even, ← halves]
    obtain ⟨aLeft, bLeft, odd, common⟩ := ih (by omega) (by omega)
    refine ⟨aLeft, bLeft, odd, common.trans ?_⟩
    rw [Nat.pow_succ, Nat.mul_comm (2 ^ twos), ← Nat.mul_assoc, Nat.mul_comm _ 2]
  | case2 a b twos odd =>
    rw [commonTwos, dif_neg odd]
    have notBoth := or_even a b
    refine ⟨aPositive, bPositive, ?_, rfl⟩
    dsimp only
    omega

theorem binaryGcd_eq_gcd (a b : Nat) : binaryGcd a b = a.gcd b := by
  rw [binaryGcd]
  by_cases aZero : a = 0
  · rw [if_pos aZero, aZero, Nat.gcd_zero_left]
  by_cases bZero : b = 0
  · rw [if_neg aZero, if_pos bZero, bZero, Nat.gcd_zero_right]
  rw [if_neg aZero, if_neg bZero]
  obtain ⟨aLeft, bLeft, odd, common⟩ := commonTwos_spec a b 0 aZero bZero
  generalize commonTwos a b 0 = state at aLeft bLeft odd common
  have stripped : (dropTwos state.1).gcd state.2.1 = state.1.gcd state.2.1 := by
    rcases odd with aOdd | bOdd
    · rw [dropTwos_of_odd _ aOdd]
    · rw [Nat.gcd_comm, gcd_dropTwos bOdd, Nat.gcd_comm]
  calc subtractTwos (dropTwos state.1) state.2.1 * 2 ^ state.2.2
    _ = (dropTwos state.1).gcd state.2.1 * 2 ^ state.2.2 := by
      rw [subtractTwos_eq_gcd _ _ (dropTwos_odd _ aLeft) bLeft]
    _ = a.gcd b * 2 ^ 0 := by rw [stripped, common]
    _ = a.gcd b := Nat.mul_one _

theorem reduceRatio_eq (numerator denominator : Nat) (positive : 0 < denominator) :
    reduceRatio numerator denominator = (numerator / numerator.gcd denominator,
      denominator / numerator.gcd denominator) := by
  have nonzero := Nat.ne_of_gt (Nat.gcd_pos_of_pos_right numerator positive)
  simp only [reduceRatio, binaryGcd_eq_gcd, if_neg nonzero]
  by_cases one : numerator.gcd denominator = 1
  · rw [if_pos one, one, Nat.div_one, Nat.div_one]
  · rw [if_neg one]

theorem reduceRatio_coprime (numerator denominator : Nat) (positive : 0 < denominator) :
    (reduceRatio numerator denominator).1.Coprime (reduceRatio numerator denominator).2 ∧
      (reduceRatio numerator denominator).2 ≠ 0 := by
  have common := Nat.gcd_pos_of_pos_right numerator positive
  rw [reduceRatio_eq _ _ positive]
  refine ⟨Nat.coprime_div_gcd_div_gcd common, ?_⟩
  exact Nat.ne_of_gt (Nat.div_pos (Nat.le_of_dvd positive (Nat.gcd_dvd_right _ _)) common)

namespace TimelineRate

open MachineInt

structure Canonical (rate : TimelineRate) : Prop where
  coprime : rate.subjectDelta.toNat.Coprime rate.referenceDelta.toNat
  nonzero : rate.referenceDelta ≠ 0

theorem Canonical.zero {rate : TimelineRate} (canonical : Canonical rate)
    (still : rate.subjectDelta = 0) : rate = { subjectDelta := 0, referenceDelta := 1 } := by
  obtain ⟨subjectDelta, referenceDelta⟩ := rate
  obtain rfl : subjectDelta = 0 := still
  have one : referenceDelta.toNat = 1 := by
    simpa using canonical.coprime
  rw [TimelineRate.mk.injEq]
  exact ⟨rfl, UInt32.toNat_inj.mp one⟩

theorem toNat_ofNat {value : Nat} (bound : UInt32) (small : value ≤ bound.toNat) :
    (UInt32.ofNat value).toNat = value :=
  UInt32.toNat_ofNat_of_lt' (Nat.lt_of_le_of_lt small bound.toNat_lt)

theorem ofDeltas_toNat (subjectDelta referenceDelta : UInt32) (valid : referenceDelta ≠ 0) :
    (ofDeltas subjectDelta referenceDelta).subjectDelta.toNat =
      (reduceRatio subjectDelta.toNat referenceDelta.toNat).1 ∧
    (ofDeltas subjectDelta referenceDelta).referenceDelta.toNat =
      (reduceRatio subjectDelta.toNat referenceDelta.toNat).2 := by
  rw [ofDeltas, reduceRatio_eq _ _ (toNat_pos _ valid)]
  exact ⟨toNat_ofNat _ (Nat.div_le_self _ _), toNat_ofNat _ (Nat.div_le_self _ _)⟩

theorem ofDeltas_canonical (subjectDelta referenceDelta : UInt32) (valid : referenceDelta ≠ 0) :
    Canonical (ofDeltas subjectDelta referenceDelta) := by
  obtain ⟨subject, reference⟩ := ofDeltas_toNat subjectDelta referenceDelta valid
  obtain ⟨coprime, nonzero⟩ :=
    reduceRatio_coprime subjectDelta.toNat referenceDelta.toNat (toNat_pos _ valid)
  rw [← subject, ← reference] at coprime
  refine ⟨coprime, fun zero => nonzero ?_⟩
  rw [← reference, zero]
  rfl

theorem ofDeltas_coprime {subjectDelta referenceDelta : UInt32} (valid : referenceDelta ≠ 0)
    (coprime : subjectDelta.toNat.Coprime referenceDelta.toNat) :
    ofDeltas subjectDelta referenceDelta = { subjectDelta, referenceDelta } := by
  rw [ofDeltas, reduceRatio_eq _ _ (toNat_pos _ valid), coprime]
  simp only [Nat.div_one, UInt32.ofNat_toNat]

theorem Canonical.inverse {rate : TimelineRate} (canonical : Canonical rate)
    (moving : rate.subjectDelta ≠ 0) : rate.inverse =
      { subjectDelta := rate.referenceDelta, referenceDelta := rate.subjectDelta } :=
  ofDeltas_coprime moving canonical.coprime.symm

theorem Canonical.inverse_inverse {rate : TimelineRate} (canonical : Canonical rate)
    (moving : rate.subjectDelta ≠ 0) : rate.inverse.inverse = rate := by
  rw [canonical.inverse moving]
  exact ofDeltas_coprime canonical.nonzero canonical.coprime

theorem shiftDown_le (subjectDelta referenceDelta : Nat) :
    (shiftDown subjectDelta referenceDelta).1 ≤ maxUInt32 ∧
      (shiftDown subjectDelta referenceDelta).2 ≤ maxUInt32 := by
  induction subjectDelta, referenceDelta using shiftDown.induct with
  | case1 subjectDelta referenceDelta subject reference large ih =>
    rw [shiftDown, dif_pos large]
    exact ih
  | case2 subjectDelta referenceDelta subject reference small =>
    rw [shiftDown, dif_neg small]
    dsimp only
    omega

theorem ofNat_ne_zero {value : Nat} (small : value ≤ maxUInt32) (nonzero : value ≠ 0) :
    UInt32.ofNat value ≠ 0 := by
  intro zero
  have same := congrArg UInt32.toNat zero
  rw [toNat_ofNat (.ofNat maxUInt32) small] at same
  exact nonzero same

theorem productDeltas_nonzero (a b : TimelineRate) (exact : Bool) (aValid : a.referenceDelta ≠ 0)
    (bValid : b.referenceDelta ≠ 0) : (productDeltas a.subjectDelta a.referenceDelta
      b.subjectDelta b.referenceDelta exact).2 ≠ 0 := by
  have positive := Nat.mul_pos (toNat_pos _ aValid) (toNat_pos _ bValid)
  have nonzero := (reduceRatio_coprime (a.subjectDelta.toNat * b.subjectDelta.toNat) _ positive).2
  simp only [productDeltas]
  split_ifs with large gone
  · decide
  · exact ofNat_ne_zero (shiftDown_le _ _).2 gone
  · exact ofNat_ne_zero (by omega) nonzero

theorem product_canonical (a b : TimelineRate) (exact : Bool) (aValid : a.referenceDelta ≠ 0)
    (bValid : b.referenceDelta ≠ 0) : Canonical (product a b exact) :=
  ofDeltas_canonical _ _ (productDeltas_nonzero a b exact aValid bValid)

inductive Built : TimelineRate → Prop
  | zero : Built {}
  | ofSubject (subjectDelta : UInt32) : Built (ofSubject subjectDelta)
  | ofDeltas (subjectDelta referenceDelta : UInt32) (valid : referenceDelta ≠ 0) :
    Built (ofDeltas subjectDelta referenceDelta)
  | inverse {rate : TimelineRate} (built : Built rate) (moving : rate.subjectDelta ≠ 0) :
    Built rate.inverse
  | product {a b : TimelineRate} (aBuilt : Built a) (bBuilt : Built b) (exact : Bool) :
    Built (product a b exact)

theorem Built.canonical {rate : TimelineRate} (built : Built rate) : Canonical rate := by
  induction built with
  | zero => exact ⟨by decide, by decide⟩
  | ofSubject subjectDelta => exact ⟨Nat.coprime_one_right _, (by decide : (1 : UInt32) ≠ 0)⟩
  | ofDeltas subjectDelta referenceDelta valid => exact ofDeltas_canonical _ _ valid
  | inverse built moving canonical => exact ofDeltas_canonical _ _ moving
  | product aBuilt bBuilt exact aCanonical bCanonical =>
    exact product_canonical _ _ _ aCanonical.nonzero bCanonical.nonzero

def toRat (rate : TimelineRate) : Rat := rate.subjectDelta.toNat / rate.referenceDelta.toNat

theorem equal_iff (a b : TimelineRate) : equal a b = true ↔ a = b := by
  rw [equal, Bool.and_eq_true, beq_iff_eq, beq_iff_eq, TimelineRate.ext_iff]

theorem Canonical.toRat_inj {a b : TimelineRate} (aCanonical : Canonical a)
    (bCanonical : Canonical b) (same : a.toRat = b.toRat) : a = b := by
  have aPositive := toNat_pos _ aCanonical.nonzero
  have bPositive := toNat_pos _ bCanonical.nonzero
  have deltas := @Rat.div_int_inj a.subjectDelta.toNat a.referenceDelta.toNat
    b.subjectDelta.toNat b.referenceDelta.toNat (by omega) (by omega) aCanonical.coprime
    bCanonical.coprime (by simpa only [Int.cast_natCast, toRat] using same)
  rw [TimelineRate.ext_iff, ← UInt32.toNat_inj, ← UInt32.toNat_inj]
  omega

-- Every rate that can be built is in lowest terms, so rates are equal when they stand for the
-- same number, and inverting twice gives the rate again.
theorem canonical_form :
    (∀ rate, Built rate → Canonical rate ∧
      (rate.subjectDelta = 0 → rate = { subjectDelta := 0, referenceDelta := 1 })) ∧
    (∀ a b, Built a → Built b → (equal a b = true ↔ a.toRat = b.toRat)) ∧
    ∀ rate, Built rate → rate.subjectDelta ≠ 0 → rate.inverse.inverse = rate := by
  refine ⟨fun rate built => ⟨built.canonical, built.canonical.zero⟩, ?_, ?_⟩
  · intro a b aBuilt bBuilt
    rw [equal_iff]
    exact ⟨fun same => same ▸ rfl, aBuilt.canonical.toRat_inj bBuilt.canonical⟩
  · exact fun rate built moving => built.canonical.inverse_inverse moving

theorem canonical_form_half :
    Canonical (product (ofDeltas 6 4) (ofSubject 2) true) ∧
    equal (ofDeltas 6 4) (ofDeltas 3 2) = true ∧
    (ofDeltas 6 4).inverse.inverse = ofDeltas 6 4 :=
  ⟨(canonical_form.1 _ (.product (.ofDeltas 6 4 (by decide)) (.ofSubject 2) true)).1,
    (canonical_form.2.1 _ _ (.ofDeltas 6 4 (by decide)) (.ofDeltas 3 2 (by decide))).mpr
      (by decide +kernel),
    canonical_form.2.2 _ (.ofDeltas 6 4 (by decide)) (by decide +kernel)⟩

end TimelineRate

end MojoMedia
