import MojoMedia.Shared.FloorMaps
import MojoMedia.Common.TimelineFunction
import MojoMedia.Common.TimelineRateProduct
import Mathlib.Data.Nat.Cast.Field
import Mathlib.Data.Rat.Floor

set_option autoImplicit false

namespace MojoMedia

open MachineInt

namespace TimelineRate

theorem toRat_nonneg (rate : TimelineRate) : 0 ≤ rate.toRat :=
  div_nonneg (Nat.cast_nonneg _) (Nat.cast_nonneg _)

theorem toRat_pos (rate : TimelineRate) (moving : rate.subjectDelta ≠ 0)
    (valid : rate.referenceDelta ≠ 0) : 0 < rate.toRat :=
  div_pos (Nat.cast_pos.mpr (toNat_pos _ moving)) (Nat.cast_pos.mpr (toNat_pos _ valid))

theorem Canonical.toRat_inverse {rate : TimelineRate} (canonical : Canonical rate)
    (moving : rate.subjectDelta ≠ 0) : rate.inverse.toRat = rate.toRat⁻¹ := by
  rw [canonical.inverse moving, toRat, toRat, inv_div]

theorem div_gcd_cast (numerator denominator : Nat) (positive : 0 < denominator) :
    ((numerator / numerator.gcd denominator : Nat) : Rat) /
        (denominator / numerator.gcd denominator : Nat) =
      (numerator : Rat) / denominator := by
  have common : ((numerator.gcd denominator : Nat) : Rat) ≠ 0 :=
    Nat.cast_ne_zero.mpr (Nat.ne_of_gt (Nat.gcd_pos_of_pos_right _ positive))
  rw [Nat.cast_div (Nat.gcd_dvd_left _ _) common, Nat.cast_div (Nat.gcd_dvd_right _ _) common,
    div_div_div_cancel_right₀ common]

theorem toRat_product {a b : TimelineRate} (valid : a.referenceDelta ≠ 0 ∧ b.referenceDelta ≠ 0)
    (fits : FitsDeltas (exactProduct a b)) (exact : Bool) :
    (product a b exact).toRat = a.toRat * b.toRat := by
  obtain ⟨subject, reference⟩ := Prod.mk.inj (product_fits valid fits exact)
  have positive := Nat.mul_pos (toNat_pos _ valid.1) (toNat_pos _ valid.2)
  rw [toRat, subject, reference]
  rw [div_gcd_cast _ _ positive, toRat, toRat, div_mul_div_comm, Nat.cast_mul, Nat.cast_mul]

end TimelineRate

namespace TimelineFunction

open TimelineRate

def line (function : TimelineFunction) : FloorMap Rat where
  start := function.referenceTime.toInt
  value := function.subjectTime.toInt
  slope := function.rate.toRat

def ScalesExactly (function : TimelineFunction) (referenceInput : Int64) : Prop :=
  (function.rate.referenceDelta.toNat : Int) ∣
    function.distance referenceInput * function.rate.subjectDelta.toNat

instance (function : TimelineFunction) (referenceInput : Int64) :
    Decidable (function.ScalesExactly referenceInput) := inferInstanceAs (Decidable (_ ∣ _))

def Computes (function : TimelineFunction) (referenceInput result : Int64) : Prop :=
  function.NoOverflow referenceInput ∧ function.apply referenceInput = some result

instance (function : TimelineFunction) (referenceInput result : Int64) :
    Decidable (function.Computes referenceInput result) := inferInstanceAs (Decidable (_ ∧ _))

section Line

variable (function : TimelineFunction) (referenceInput : Int64)

theorem line_rise : function.line.rise referenceInput.toInt =
    ((function.distance referenceInput * function.rate.subjectDelta.toNat : Int) : Rat) /
      function.rate.referenceDelta.toNat := by
  rw [FloorMap.rise, line, toRat, Int.cast_mul, Int.cast_natCast, mul_div_assoc]
  rfl

theorem line_apply :
    function.line.apply referenceInput.toInt = function.exactApply referenceInput := by
  rw [FloorMap.apply, line_rise, Rat.floor_intCast_div_natCast]
  rfl

variable {function referenceInput}

theorem ScalesExactly.exactAt (valid : function.rate.referenceDelta ≠ 0)
    (exact : function.ScalesExactly referenceInput) :
    function.line.ExactAt referenceInput.toInt := by
  obtain ⟨whole, product⟩ := exact
  have positive : (function.rate.referenceDelta.toNat : Rat) ≠ 0 :=
    Nat.cast_ne_zero.mpr (Nat.ne_of_gt (toNat_pos _ valid))
  rw [FloorMap.ExactAt, line_rise, product, Int.cast_mul, Int.cast_natCast,
    mul_div_cancel_left₀ _ positive, Int.floor_intCast]

theorem NoOverflow.scaleResult (valid : function.rate.referenceDelta ≠ 0)
    (fits : function.NoOverflow referenceInput) :
    function.scaleResult referenceInput = function.scaled referenceInput := by
  obtain ⟨-, inside, reported, -⟩ := fits
  have small : ¬ function.RoundsTo referenceInput (2 ^ 64 - 1) := by
    intro rounds
    rw [function.scaled_of_rounds referenceInput valid _ rounds] at inside
    exact absurd inside (by decide)
  rw [TimelineFunction.scaleResult, if_neg small, if_pos ⟨inside, reported⟩]

theorem NoOverflow.apply_eq (valid : function.rate.referenceDelta ≠ 0)
    (fits : function.NoOverflow referenceInput) :
    (function.apply referenceInput).map Int64.toInt =
      some (function.exactApply referenceInput) := by
  rw [function.apply_toInt referenceInput valid, NoOverflow.scaleResult valid fits]
  exact if_pos ⟨fits.1, fits.2.2.2⟩

theorem Computes.toInt {result : Int64} (valid : function.rate.referenceDelta ≠ 0)
    (computes : function.Computes referenceInput result) :
    result.toInt = function.line.apply referenceInput.toInt := by
  have exact := NoOverflow.apply_eq valid computes.1
  rw [computes.2] at exact
  rw [line_apply]
  exact Option.some.inj exact

theorem NoOverflow.computes (valid : function.rate.referenceDelta ≠ 0)
    (fits : function.NoOverflow referenceInput) :
    ∃ result, function.Computes referenceInput result := by
  obtain ⟨result, computed, -⟩ := Option.map_eq_some_iff.mp (NoOverflow.apply_eq valid fits)
  exact ⟨result, fits, computed⟩

end Line

section Compose

variable {bc ab composed : TimelineFunction} {exact : Bool}

theorem compose_some (made : compose bc ab exact = some composed) :
    ∃ subjectTime, bc.apply ab.subjectTime = some subjectTime ∧
      composed = ⟨ab.referenceTime, subjectTime, product ab.rate bc.rate exact⟩ := by
  rw [compose, Option.bind_eq_bind, Option.bind_eq_some_iff] at made
  obtain ⟨subjectTime, image, same⟩ := made
  exact ⟨subjectTime, image, (Option.some.inj same).symm⟩

theorem compose_line (bcValid : bc.rate.referenceDelta ≠ 0) (abValid : ab.rate.referenceDelta ≠ 0)
    (fits : FitsDeltas (exactProduct ab.rate bc.rate)) (point : bc.NoOverflow ab.subjectTime)
    (made : compose bc ab exact = some composed) : composed.line = bc.line.compose ab.line := by
  obtain ⟨subjectTime, image, rfl⟩ := compose_some made
  have value := Computes.toInt bcValid ⟨point, image⟩
  have slope := toRat_product ⟨abValid, bcValid⟩ fits exact
  rw [line, FloorMap.compose, value, slope]
  rfl

end Compose

theorem compose_rounding {bc ab composed : TimelineFunction} {exact : Bool}
    {referenceInput inner outer result : Int64} (bcValid : bc.rate.referenceDelta ≠ 0)
    (abValid : ab.rate.referenceDelta ≠ 0) (fits : FitsDeltas (exactProduct ab.rate bc.rate))
    (point : bc.NoOverflow ab.subjectTime) (made : compose bc ab exact = some composed)
    (composedValid : composed.rate.referenceDelta ≠ 0)
    (first : ab.Computes referenceInput inner) (second : bc.Computes inner outer)
    (whole : composed.Computes referenceInput result) :
    -1 ≤ result.toInt - outer.toInt ∧
      ((result.toInt - outer.toInt : Int) : Rat) < bc.rate.toRat + 1 ∧
      (ab.ScalesExactly referenceInput → bc.ScalesExactly ab.subjectTime → result = outer) := by
  have line := compose_line bcValid abValid fits point made
  have nonneg : 0 ≤ bc.line.slope := toRat_nonneg bc.rate
  have total := Computes.toInt composedValid whole
  have twice := Computes.toInt bcValid second
  rw [Computes.toInt abValid first] at twice
  rw [line] at total
  rw [total, twice]
  refine ⟨bc.line.compose_lower ab.line _ nonneg, bc.line.compose_upper ab.line _ nonneg, ?_⟩
  intro firstExact pointExact
  have same := bc.line.compose_exact ab.line _ (firstExact.exactAt abValid)
    (pointExact.exactAt bcValid)
  rw [← Int64.toInt_inj, total, twice, same]

-- A composition with an exact rate is at most one too small, and too large by less than the outer
-- rate and one. It is exact if nothing is rounded on the way.
theorem compose_error (bc ab : TimelineFunction) (exact : Bool) (referenceInput : Int64)
    (bcValid : bc.rate.referenceDelta ≠ 0) (abValid : ab.rate.referenceDelta ≠ 0)
    (fits : FitsDeltas (exactProduct ab.rate bc.rate)) (point : bc.NoOverflow ab.subjectTime)
    (first : ab.NoOverflow referenceInput)
    (second : ∀ inner, ab.apply referenceInput = some inner → bc.NoOverflow inner)
    (whole : ∀ composed, compose bc ab exact = some composed →
      composed.NoOverflow referenceInput) :
    ∃ composed inner outer result, compose bc ab exact = some composed ∧
      ab.apply referenceInput = some inner ∧ bc.apply inner = some outer ∧
      composed.apply referenceInput = some result ∧
      -1 ≤ result.toInt - outer.toInt ∧
      ((result.toInt - outer.toInt : Int) : Rat) < bc.rate.toRat + 1 ∧
      (ab.ScalesExactly referenceInput → bc.ScalesExactly ab.subjectTime → result = outer) := by
  obtain ⟨inner, innerComputed⟩ := NoOverflow.computes abValid first
  obtain ⟨outer, outerComputed⟩ := NoOverflow.computes bcValid (second inner innerComputed.2)
  obtain ⟨subjectTime, -, image⟩ := NoOverflow.computes bcValid point
  have made : compose bc ab exact =
      some ⟨ab.referenceTime, subjectTime, product ab.rate bc.rate exact⟩ := by
    rw [compose, image]
    rfl
  have valid : (product ab.rate bc.rate exact).referenceDelta ≠ 0 :=
    (product_canonical _ _ exact abValid bcValid).nonzero
  obtain ⟨result, computed⟩ := NoOverflow.computes valid (whole _ made)
  exact ⟨_, inner, outer, result, made, innerComputed.2, outerComputed.2, computed.2,
    compose_rounding bcValid abValid fits point made valid innerComputed outerComputed computed⟩

theorem compose_error_below :
    compose ⟨3, 7, ⟨1, 2⟩⟩ ⟨5, 8, ⟨2, 3⟩⟩ true = some ⟨5, 9, ⟨1, 3⟩⟩ ∧
      ∃ inner outer result, apply ⟨5, 8, ⟨2, 3⟩⟩ 4 = some inner ∧
        apply ⟨3, 7, ⟨1, 2⟩⟩ inner = some outer ∧ apply ⟨5, 9, ⟨1, 3⟩⟩ 4 = some result ∧
        -1 ≤ result.toInt - outer.toInt ∧
        ((result.toInt - outer.toInt : Int) : Rat) < toRat ⟨1, 2⟩ + 1 := by
  have made : compose ⟨3, 7, ⟨1, 2⟩⟩ ⟨5, 8, ⟨2, 3⟩⟩ true = some ⟨5, 9, ⟨1, 3⟩⟩ := by
    decide +kernel
  have inside : apply ⟨5, 8, ⟨2, 3⟩⟩ 4 = some 7 := by decide +kernel
  obtain ⟨composed, inner, outer, result, same, first, second, whole, lower, upper, -⟩ :=
    compose_error ⟨3, 7, ⟨1, 2⟩⟩ ⟨5, 8, ⟨2, 3⟩⟩ true 4 (by decide) (by decide) (by decide)
      (by decide) (by decide)
      (fun inner computed => by
        obtain rfl := Option.some.inj (inside.symm.trans computed)
        decide)
      (fun composed computed => by
        obtain rfl := Option.some.inj (made.symm.trans computed)
        decide)
  obtain rfl := Option.some.inj (made.symm.trans same)
  exact ⟨made, inner, outer, result, first, second, whole, lower, upper⟩

theorem inverse_line {function : TimelineFunction} (canonical : Canonical function.rate)
    (moving : function.rate.subjectDelta ≠ 0) : function.inverse.line = function.line.inverse := by
  rw [line, inverse, canonical.toRat_inverse moving]
  rfl

theorem round_trip (function : TimelineFunction) (built : Built function.rate)
    (moving : function.rate.subjectDelta ≠ 0) :
    (∀ referenceInput, function.NoOverflow referenceInput →
      (∀ subject, function.apply referenceInput = some subject →
        function.inverse.NoOverflow subject) →
      ∃ subject reference, function.apply referenceInput = some subject ∧
        function.applyInverse subject = some reference ∧
        0 ≤ referenceInput.toInt - reference.toInt ∧
        referenceInput.toInt - reference.toInt ≤
          ⌈(function.rate.referenceDelta.toNat : Rat) / function.rate.subjectDelta.toNat⌉ ∧
        (function.rate.referenceDelta ≤ function.rate.subjectDelta →
          referenceInput.toInt - reference.toInt ≤ 1)) ∧
    (∀ subject, function.applyInverse subject = function.inverse.apply subject) ∧
    function.inverse.inverse.equal function = true := by
  have canonical := built.canonical
  refine ⟨fun referenceInput fits returns => ?_, fun _ => rfl, ?_⟩
  · have inverseValid : function.inverse.rate.referenceDelta ≠ 0 := by
      rw [inverse, canonical.inverse moving]
      exact moving
    have positive : 0 < function.line.slope := toRat_pos _ moving canonical.nonzero
    obtain ⟨subject, forward⟩ := NoOverflow.computes canonical.nonzero fits
    obtain ⟨reference, backward⟩ := NoOverflow.computes inverseValid (returns subject forward.2)
    have back := Computes.toInt inverseValid backward
    rw [inverse_line canonical moving, Computes.toInt canonical.nonzero forward] at back
    obtain ⟨lower, upper⟩ := function.line.back_bounds referenceInput.toInt positive
    have slope : function.line.slope⁻¹ =
        (function.rate.referenceDelta.toNat : Rat) / function.rate.subjectDelta.toNat := inv_div _ _
    rw [← back, slope] at upper
    rw [← back] at lower
    refine ⟨subject, reference, forward.2, backward.2, lower, upper, fun fast =>
      upper.trans (Int.ceil_le.mpr ?_)⟩
    rw [Int.cast_one]
    exact div_le_one_of_le₀ (Nat.cast_le.mpr fast) (Nat.cast_nonneg _)
  · rw [equal_iff, inverse, inverse, canonical.inverse_inverse moving]

theorem round_trip_back :
    ∃ subject reference, apply (.ofDeltas 5 8 3 2) 4 = some subject ∧
      applyInverse (.ofDeltas 5 8 3 2) subject = some reference ∧
      0 ≤ (4 : Int64).toInt - reference.toInt ∧
      (4 : Int64).toInt - reference.toInt ≤ ⌈((3 : Nat) : Rat) / (2 : Nat)⌉ := by
  have forward : apply (.ofDeltas 5 8 3 2) 4 = some 7 := by decide +kernel
  obtain ⟨subject, reference, there, back, lower, upper, -⟩ :=
    (round_trip (.ofDeltas 5 8 3 2) (.ofDeltas 2 3 (by decide)) (by decide +kernel)).1 4
      (by decide +kernel) (fun subject computed => by
        obtain rfl := Option.some.inj (forward.symm.trans computed)
        decide +kernel)
  have rate : (ofDeltas 5 8 3 2).rate = ⟨2, 3⟩ := by decide +kernel
  rw [rate] at upper
  exact ⟨subject, reference, there, back, lower, upper⟩

end TimelineFunction

end MojoMedia
