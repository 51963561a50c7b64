import MojoMedia.Common.TimelineRateReduced

set_option autoImplicit false

namespace MojoMedia

namespace TimelineRate

open MachineInt

def exactProduct (a b : TimelineRate) : Nat × Nat :=
  let subjectDelta := a.subjectDelta.toNat * b.subjectDelta.toNat
  let referenceDelta := a.referenceDelta.toNat * b.referenceDelta.toNat
  (subjectDelta / subjectDelta.gcd referenceDelta, referenceDelta / subjectDelta.gcd referenceDelta)

def FitsDeltas (fraction : Nat × Nat) : Prop := fraction.1 ≤ maxUInt32 ∧ fraction.2 ≤ maxUInt32

instance (fraction : Nat × Nat) : Decidable (FitsDeltas fraction) :=
  inferInstanceAs (Decidable (_ ∧ _))

theorem not_fitsDeltas (fraction : Nat × Nat) :
    ¬ FitsDeltas fraction ↔ maxUInt32 < fraction.1 ∨ maxUInt32 < fraction.2 := by
  unfold FitsDeltas
  omega

def largest : TimelineRate := { subjectDelta := .ofNat maxUInt32, referenceDelta := 1 }

def Saturates (a b : TimelineRate) : Prop :=
  ¬ FitsDeltas (exactProduct a b) ∧
    (shiftDown (exactProduct a b).1 (exactProduct a b).2).2 = 0

instance (a b : TimelineRate) : Decidable (Saturates a b) := inferInstanceAs (Decidable (_ ∧ _))

theorem div_two_div (value bits : Nat) : value / 2 / 2 ^ bits = value / 2 ^ (bits + 1) := by
  rw [Nat.div_div_eq_div_mul, Nat.pow_succ, Nat.mul_comm]

theorem shiftDown_spec (subjectDelta referenceDelta : Nat)
    (large : maxUInt32 < subjectDelta ∨ maxUInt32 < referenceDelta) :
    ∃ bits, shiftDown subjectDelta referenceDelta =
        (subjectDelta / 2 ^ (bits + 1), referenceDelta / 2 ^ (bits + 1)) ∧
      (maxUInt32 < subjectDelta / 2 ^ bits ∨ maxUInt32 < referenceDelta / 2 ^ bits) ∧
      subjectDelta / 2 ^ (bits + 1) ≤ maxUInt32 := by
  induction subjectDelta, referenceDelta using shiftDown.induct with
  | case1 subjectDelta referenceDelta subject reference again ih =>
    obtain ⟨bits, shifted, before, after⟩ := ih again
    rw [div_two_div, div_two_div] at shifted before
    rw [div_two_div] at after
    rw [shiftDown, dif_pos again]
    exact ⟨bits + 1, shifted, before, after⟩
  | case2 subjectDelta referenceDelta subject reference done =>
    refine ⟨0, ?_, ?_, ?_⟩
    · rw [shiftDown, dif_neg done]
      rfl
    · simpa using large
    · simp only [Nat.zero_add, Nat.pow_one]
      omega

def ShiftedAway (fraction : Nat × Nat) : Prop :=
  maxUInt32 < fraction.1 ∧ fraction.2 < 2 ^ (fraction.1.log2 - 31)

instance (fraction : Nat × Nat) : Decidable (ShiftedAway fraction) :=
  inferInstanceAs (Decidable (_ ∧ _))

-- A number of at most 32 bits is left, so the shifts bound the logarithm from below.
theorem log2_lt_of_shifted {value bits : Nat} (large : maxUInt32 < value)
    (shifted : value / 2 ^ (bits + 1) ≤ maxUInt32) : value.log2 < bits + 33 := by
  have below : value / 2 ^ (bits + 1) < 2 ^ 32 := by
    unfold maxUInt32 at shifted
    omega
  rw [Nat.div_lt_iff_lt_mul (Nat.two_pow_pos _), ← Nat.pow_add] at below
  rw [Nat.log2_lt (by omega)]
  exact below.trans_le (Nat.pow_le_pow_right Nat.two_pos (by omega))

theorem le_log2_of_unshifted {value bits : Nat} (large : maxUInt32 < value)
    (unshifted : maxUInt32 < value / 2 ^ bits) : bits + 32 ≤ value.log2 := by
  have above : 2 ^ 32 ≤ value / 2 ^ bits := by
    unfold maxUInt32 at unshifted
    omega
  rw [Nat.le_div_iff_mul_le (Nat.two_pow_pos _), ← Nat.pow_add] at above
  rw [Nat.le_log2 (by omega), Nat.add_comm]
  exact above

theorem saturates_iff (a b : TimelineRate) : Saturates a b ↔ ShiftedAway (exactProduct a b) := by
  unfold Saturates ShiftedAway
  generalize exactProduct a b = fraction
  rw [not_fitsDeltas]
  constructor
  · rintro ⟨large, gone⟩
    obtain ⟨bits, shifted, before, after⟩ := shiftDown_spec _ _ large
    rw [shifted] at gone
    have small : fraction.2 < 2 ^ (bits + 1) :=
      (Nat.div_eq_zero_iff.mp gone).resolve_left (Nat.ne_of_gt (Nat.two_pow_pos _))
    -- So it was the subject delta that one bit less would not do for.
    have bit : fraction.2 / 2 ^ bits < 2 := by
      rw [Nat.div_lt_iff_lt_mul (Nat.two_pow_pos _), Nat.mul_comm, ← Nat.pow_succ]
      exact small
    have unshifted : maxUInt32 < fraction.1 / 2 ^ bits := by
      unfold maxUInt32 at before ⊢
      omega
    have above : maxUInt32 < fraction.1 := unshifted.trans_le (Nat.div_le_self _ _)
    have log := le_log2_of_unshifted above unshifted
    exact ⟨above, small.trans_le (Nat.pow_le_pow_right Nat.two_pos (by omega))⟩
  · rintro ⟨above, small⟩
    obtain ⟨bits, shifted, -, after⟩ := shiftDown_spec fraction.1 fraction.2 (.inl above)
    have log := log2_lt_of_shifted above after
    rw [shifted]
    refine ⟨.inl above, Nat.div_eq_of_lt (small.trans_le ?_)⟩
    exact Nat.pow_le_pow_right Nat.two_pos (by omega)

section Product

variable {a b : TimelineRate}

theorem product_comm (a b : TimelineRate) (exact : Bool) :
    product a b exact = product b a exact := by
  simp only [product, productDeltas, Nat.mul_comm b.subjectDelta.toNat,
    Nat.mul_comm b.referenceDelta.toNat]

theorem reduceRatio_product (valid : a.referenceDelta ≠ 0 ∧ b.referenceDelta ≠ 0) :
    reduceRatio (a.subjectDelta.toNat * b.subjectDelta.toNat)
      (a.referenceDelta.toNat * b.referenceDelta.toNat) = exactProduct a b :=
  reduceRatio_eq _ _ (Nat.mul_pos (toNat_pos _ valid.1) (toNat_pos _ valid.2))

theorem exactProduct_coprime (valid : a.referenceDelta ≠ 0 ∧ b.referenceDelta ≠ 0) :
    (exactProduct a b).1.Coprime (exactProduct a b).2 ∧ (exactProduct a b).2 ≠ 0 := by
  rw [← reduceRatio_product valid]
  exact reduceRatio_coprime _ _ (Nat.mul_pos (toNat_pos _ valid.1) (toNat_pos _ valid.2))

theorem product_fits (valid : a.referenceDelta ≠ 0 ∧ b.referenceDelta ≠ 0)
    (fits : FitsDeltas (exactProduct a b)) (exact : Bool) :
    ((product a b exact).subjectDelta.toNat, (product a b exact).referenceDelta.toNat) =
      exactProduct a b := by
  obtain ⟨coprime, nonzero⟩ := exactProduct_coprime valid
  have subject := toNat_ofNat (.ofNat maxUInt32) fits.1
  have reference := toNat_ofNat (.ofNat maxUInt32) fits.2
  have whole : ¬ (maxUInt32 < (exactProduct a b).1 ∨ maxUInt32 < (exactProduct a b).2) :=
    fun large => (not_fitsDeltas _).mpr large fits
  simp only [product, productDeltas, reduceRatio_product valid, if_neg whole]
  rw [ofDeltas_coprime (ofNat_ne_zero fits.2 nonzero) (by rwa [subject, reference]), subject,
    reference]

theorem product_saturated (valid : a.referenceDelta ≠ 0 ∧ b.referenceDelta ≠ 0)
    (saturates : Saturates a b) (exact : Bool) :
    product a b exact = largest := by
  have large := (not_fitsDeltas _).mp saturates.1
  simp only [product, productDeltas, reduceRatio_product valid, if_pos large,
    if_pos saturates.2]
  exact ofDeltas_coprime (by decide) (Nat.coprime_one_right _)

def Truncated (fraction : Nat × Nat) : Prop :=
  maxUInt32 < fraction.1 ∧
    2 ^ (fraction.1.log2 - 31 + 32) ≤ fraction.1 + 2 ^ (fraction.1.log2 - 31) ∧
    2 ^ (fraction.1.log2 - 31) ≤ fraction.2 ∧ fraction.2 < 2 ^ (fraction.1.log2 - 31 + 1)

instance (fraction : Nat × Nat) : Decidable (Truncated fraction) :=
  inferInstanceAs (Decidable (_ ∧ _))

theorem div_two_pow_eq_iff (value bits quotient : Nat) : value / 2 ^ bits = quotient ↔
    quotient * 2 ^ bits ≤ value ∧ value < (quotient + 1) * 2 ^ bits := by
  rw [Nat.div_eq_iff (Nat.two_pow_pos _), Nat.add_mul, Nat.one_mul]
  have positive := Nat.two_pow_pos bits
  omega

theorem truncated_iff {fraction : Nat × Nat} {bits : Nat}
    (before : maxUInt32 < fraction.1 / 2 ^ bits ∨ maxUInt32 < fraction.2 / 2 ^ bits)
    (after : fraction.1 / 2 ^ (bits + 1) ≤ maxUInt32) :
    fraction.1 / 2 ^ (bits + 1) = maxUInt32 ∧ fraction.2 / 2 ^ (bits + 1) = 1 ↔
      Truncated fraction := by
  have positive := Nat.two_pow_pos bits
  unfold Truncated
  constructor
  · rintro ⟨ones, one⟩
    rw [div_two_pow_eq_iff] at ones one
    unfold maxUInt32 at ones ⊢
    have log : fraction.1.log2 = bits + 1 + 31 := by
      rw [Nat.log2_eq_iff (by omega), Nat.add_assoc (bits + 1), Nat.pow_add 2 (bits + 1) 31,
        Nat.pow_add 2 (bits + 1) (31 + 1)]
      omega
    rw [log, Nat.add_sub_cancel, Nat.pow_add 2 (bits + 1) 32, Nat.pow_succ 2 (bits + 1)]
    omega
  · rintro ⟨above, ones, lower, upper⟩
    have least := log2_lt_of_shifted above after
    -- A reference delta this small does not need the last shift.
    have unshifted : maxUInt32 < fraction.1 / 2 ^ bits := by
      refine before.resolve_right (Nat.not_lt.mpr ?_)
      have small : fraction.2 < 2 ^ bits * 2 ^ 2 := by
        rw [← Nat.pow_add]
        exact upper.trans_le (Nat.pow_le_pow_right Nat.two_pos (by omega))
      have quotient : fraction.2 / 2 ^ bits < 2 ^ 2 := Nat.div_lt_of_lt_mul small
      unfold maxUInt32
      omega
    have most := le_log2_of_unshifted above unshifted
    have log : fraction.1.log2 - 31 = bits + 1 := by omega
    have below := Nat.lt_log2_self (n := fraction.1)
    have power : fraction.1.log2 + 1 = bits + 1 + 32 := by omega
    rw [log, Nat.pow_add 2 (bits + 1) 32] at ones
    rw [log] at lower
    rw [log, Nat.pow_succ 2 (bits + 1)] at upper
    rw [power, Nat.pow_add 2 (bits + 1) 32] at below
    rw [div_two_pow_eq_iff, div_two_pow_eq_iff]
    unfold maxUInt32
    omega

theorem ofDeltas_eq_largest {subjectDelta referenceDelta : Nat} (small : subjectDelta ≤ maxUInt32)
    (referenceSmall : referenceDelta ≤ maxUInt32) (nonzero : referenceDelta ≠ 0) :
    ofDeltas (.ofNat subjectDelta) (.ofNat referenceDelta) = largest ↔
      subjectDelta = maxUInt32 ∧ referenceDelta = 1 := by
  have subject := toNat_ofNat (.ofNat maxUInt32) small
  have reference := toNat_ofNat (.ofNat maxUInt32) referenceSmall
  constructor
  · intro same
    obtain ⟨quotient, one⟩ := ofDeltas_toNat (.ofNat subjectDelta) _
      (ofNat_ne_zero referenceSmall nonzero)
    rw [same, subject, reference, reduceRatio_eq _ _ (Nat.pos_of_ne_zero nonzero)] at quotient one
    -- Both deltas are multiples of what is divided out, and the subject delta leaves no room.
    have subjectWhole := Nat.div_mul_cancel (Nat.gcd_dvd_left subjectDelta referenceDelta)
    have referenceWhole := Nat.div_mul_cancel (Nat.gcd_dvd_right subjectDelta referenceDelta)
    have ones : subjectDelta / subjectDelta.gcd referenceDelta = maxUInt32 := quotient.symm
    have single : referenceDelta / subjectDelta.gcd referenceDelta = 1 := one.symm
    rw [ones] at subjectWhole
    rw [single, Nat.one_mul] at referenceWhole
    unfold maxUInt32 at *
    omega
  · rintro ⟨rfl, rfl⟩
    exact ofDeltas_coprime (by decide) (Nat.coprime_one_right _)

theorem product_largest_iff (valid : a.referenceDelta ≠ 0 ∧ b.referenceDelta ≠ 0)
    (large : ¬ FitsDeltas (exactProduct a b)) (exact : Bool) :
    product a b exact = largest ↔
      ShiftedAway (exactProduct a b) ∨ Truncated (exactProduct a b) := by
  rw [← saturates_iff]
  by_cases saturates : Saturates a b
  · exact ⟨fun _ => .inl saturates, fun _ => product_saturated valid saturates exact⟩
  · have left : (shiftDown (exactProduct a b).1 (exactProduct a b).2).2 ≠ 0 :=
      fun gone => saturates ⟨large, gone⟩
    have either := (not_fitsDeltas _).mp large
    obtain ⟨subjectSmall, referenceSmall⟩ :=
      shiftDown_le (exactProduct a b).1 (exactProduct a b).2
    obtain ⟨bits, shifted, before, after⟩ := shiftDown_spec _ _ either
    simp only [product, productDeltas, reduceRatio_product valid, if_pos either, if_neg left]
    rw [ofDeltas_eq_largest subjectSmall referenceSmall left, shifted,
      truncated_iff before after]
    exact ⟨.inr, fun largest => largest.resolve_left saturates⟩

def Contract (a b : TimelineRate) (saturated : Prop) : Prop :=
  (∀ exact, product a b exact = product b a exact) ∧
  (FitsDeltas (exactProduct a b) → ∀ exact,
    ((product a b exact).subjectDelta.toNat, (product a b exact).referenceDelta.toNat) =
      exactProduct a b) ∧
  (saturated → product a b false = largest ∧
    maxUInt32 * (exactProduct a b).2 < (exactProduct a b).1)

theorem contract_iff (valid : a.referenceDelta ≠ 0 ∧ b.referenceDelta ≠ 0) {saturated : Prop}
    (gives : saturated → product a b false = largest) :
    Contract a b saturated ↔
      ¬ (saturated ∧ (exactProduct a b).1 ≤ maxUInt32 * (exactProduct a b).2) := by
  constructor
  · rintro ⟨-, -, above⟩ ⟨saturates, within⟩
    exact absurd (above saturates).2 (Nat.not_lt.mpr within)
  · intro outside
    refine ⟨product_comm a b, product_fits valid, fun saturates => ⟨gives saturates, ?_⟩⟩
    exact Nat.not_le.mp fun within => outside ⟨saturates, within⟩

-- A product in range is replaced by the largest rate when its reference delta is shifted away,
-- and it becomes the largest rate when the shifts leave one bit of it.
theorem product_contract_iff (a b : TimelineRate)
    (valid : a.referenceDelta ≠ 0 ∧ b.referenceDelta ≠ 0) :
    (Contract a b (Saturates a b) ↔
      ¬ (ShiftedAway (exactProduct a b) ∧
        (exactProduct a b).1 ≤ maxUInt32 * (exactProduct a b).2)) ∧
    (Contract a b (¬ FitsDeltas (exactProduct a b) ∧ product a b false = largest) ↔
      ¬ ((ShiftedAway (exactProduct a b) ∨ Truncated (exactProduct a b)) ∧
        (exactProduct a b).1 ≤ maxUInt32 * (exactProduct a b).2)) := by
  constructor
  · rw [contract_iff valid fun saturates => product_saturated valid saturates false,
      saturates_iff]
  · have observed : ¬ FitsDeltas (exactProduct a b) ∧ product a b false = largest ↔
        ShiftedAway (exactProduct a b) ∨ Truncated (exactProduct a b) := by
      constructor
      · rintro ⟨large, result⟩
        exact (product_largest_iff valid large false).mp result
      · intro kinds
        have large : ¬ FitsDeltas (exactProduct a b) :=
          (not_fitsDeltas _).mpr (.inl (kinds.elim (·.1) (·.1)))
        exact ⟨large, (product_largest_iff valid large false).mpr kinds⟩
    rw [contract_iff valid And.right, observed]

theorem product_contract_iff_double :
    Contract { subjectDelta := 2 ^ 31, referenceDelta := 3 } { subjectDelta := 3 }
      (Saturates { subjectDelta := 2 ^ 31, referenceDelta := 3 } { subjectDelta := 3 }) :=
  (product_contract_iff { subjectDelta := 2 ^ 31, referenceDelta := 3 } { subjectDelta := 3 }
    ⟨by decide, by decide⟩).1.mpr (by decide)

theorem third_saturates :
    ¬ Contract { subjectDelta := 2 ^ 17, referenceDelta := 3 } { subjectDelta := 2 ^ 16 }
        (Saturates { subjectDelta := 2 ^ 17, referenceDelta := 3 } { subjectDelta := 2 ^ 16 }) ∧
      ¬ Contract { subjectDelta := 2 ^ 17, referenceDelta := 3 } { subjectDelta := 2 ^ 16 }
        (¬ FitsDeltas (exactProduct { subjectDelta := 2 ^ 17, referenceDelta := 3 }
            { subjectDelta := 2 ^ 16 }) ∧
          product { subjectDelta := 2 ^ 17, referenceDelta := 3 } { subjectDelta := 2 ^ 16 } false =
            largest) := by
  constructor
  · rintro ⟨-, -, above⟩
    exact absurd (above (by decide +kernel)).2 (by decide)
  · rintro ⟨-, -, above⟩
    exact absurd (above ⟨by decide, by decide +kernel⟩).2 (by decide)

end Product

end TimelineRate

end MojoMedia
