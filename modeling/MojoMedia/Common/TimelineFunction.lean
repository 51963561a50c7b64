import MojoMedia.Common.TimelineRateReduced
import MojoMedia.Common.TimelineRateScale

set_option autoImplicit false

-- The behaviour of the source is undefined where signed arithmetic overflows. The result is
-- `none` there.
namespace MojoMedia

open MachineInt

def subS64 (a b : Int64) : Option Int64 :=
  if inS64 (a.toInt - b.toInt) then some (a - b) else none

def addS64 (a b : Int64) : Option Int64 :=
  if inS64 (a.toInt + b.toInt) then some (a + b) else none

@[ext]
structure TimelineFunction where
  referenceTime : Int64 := 0
  subjectTime : Int64 := 0
  rate : TimelineRate := {}
  deriving Repr, DecidableEq

namespace TimelineFunction

def applyTimes (referenceTime subjectTime : Int64) (rate : TimelineRate)
    (referenceInput : Int64) : Option Int64 := do
  let distance ← subS64 referenceInput referenceTime
  addS64 (rate.scale distance) subjectTime

def applyInverseTimes (referenceTime subjectTime : Int64) (rate : TimelineRate)
    (subjectInput : Int64) : Option Int64 :=
  applyTimes subjectTime referenceTime rate.inverse subjectInput

def ofDeltas (referenceTime subjectTime : Int64) (referenceDelta subjectDelta : UInt32) :
    TimelineFunction :=
  { referenceTime, subjectTime, rate := .ofDeltas subjectDelta referenceDelta }

def apply (function : TimelineFunction) (referenceInput : Int64) : Option Int64 :=
  applyTimes function.referenceTime function.subjectTime function.rate referenceInput

def applyInverse (function : TimelineFunction) (subjectInput : Int64) : Option Int64 :=
  applyInverseTimes function.referenceTime function.subjectTime function.rate subjectInput

def inverse (function : TimelineFunction) : TimelineFunction :=
  { referenceTime := function.subjectTime
    subjectTime := function.referenceTime
    rate := function.rate.inverse }

def compose (bc ab : TimelineFunction) (exact : Bool) : Option TimelineFunction := do
  let subjectTime ← bc.apply ab.subjectTime
  some { referenceTime := ab.referenceTime, subjectTime, rate := .product ab.rate bc.rate exact }

def equal (a b : TimelineFunction) : Bool :=
  a.referenceTime == b.referenceTime && a.subjectTime == b.subjectTime && a.rate.equal b.rate

theorem equal_iff (a b : TimelineFunction) : equal a b = true ↔ a = b := by
  rw [equal, Bool.and_eq_true, Bool.and_eq_true, beq_iff_eq, beq_iff_eq, TimelineRate.equal_iff,
    TimelineFunction.ext_iff, and_assoc]

theorem addS64_toInt (a b : Int64) : (addS64 a b).map Int64.toInt =
    if inS64 (a.toInt + b.toInt) then some (a.toInt + b.toInt) else none := by
  rw [addS64]
  split_ifs with inside
  · rw [Option.map_some, Int64.toInt_add]
    exact congrArg some (s64_of_lt _ inside.1 inside.2)
  · rfl

section Contract

variable (function : TimelineFunction) (referenceInput : Int64)

def distance : Int := referenceInput.toInt - function.referenceTime.toInt

def scaled : Int := exactScale (function.distance referenceInput)
  function.rate.subjectDelta.toNat function.rate.referenceDelta.toNat

def exactApply : Int := function.scaled referenceInput + function.subjectTime.toInt

def RoundsTo (digit : Nat) : Prop := StrictlyBelow digit (function.distance referenceInput)
  function.rate.subjectDelta.toNat function.rate.referenceDelta.toNat

instance (digit : Nat) : Decidable (function.RoundsTo referenceInput digit) :=
  inferInstanceAs (Decidable (StrictlyBelow _ _ _ _))

def NoOverflow : Prop :=
  inS64 (function.distance referenceInput) ∧ inS64 (function.scaled referenceInput) ∧
    ¬ function.RoundsTo referenceInput (2 ^ 63 - 1) ∧ inS64 (function.exactApply referenceInput)

instance : Decidable (function.NoOverflow referenceInput) :=
  inferInstanceAs (Decidable (_ ∧ _ ∧ _ ∧ _))

def scaleResult : Int :=
  if function.RoundsTo referenceInput (2 ^ 64 - 1) then 0
  else if inS64 (function.scaled referenceInput) ∧
      ¬ function.RoundsTo referenceInput (2 ^ 63 - 1) then function.scaled referenceInput
  else 2 ^ 63 - 1

theorem apply_toInt (valid : function.rate.referenceDelta ≠ 0) :
    (function.apply referenceInput).map Int64.toInt =
      if inS64 (function.distance referenceInput) ∧
          inS64 (function.scaleResult referenceInput + function.subjectTime.toInt) then
        some (function.scaleResult referenceInput + function.subjectTime.toInt)
      else none := by
  by_cases inside : inS64 (function.distance referenceInput)
  · have difference : (referenceInput - function.referenceTime).toInt =
        function.distance referenceInput := toInt_sub _ _ inside
    have scale : (function.rate.scale (referenceInput - function.referenceTime)).toInt =
        function.scaleResult referenceInput := by
      rw [TimelineRate.scale, TimelineRate.scaleByDeltas_exact _ _ _ valid, difference]
      rfl
    have sum := addS64_toInt (function.rate.scale (referenceInput - function.referenceTime))
      function.subjectTime
    have defined : subS64 referenceInput function.referenceTime =
        some (referenceInput - function.referenceTime) := if_pos inside
    rw [scale] at sum
    rw [apply, applyTimes, defined, Option.bind_eq_bind, Option.bind_some, sum]
    simp only [inside, true_and]
  · have undefined : subS64 referenceInput function.referenceTime = none := if_neg inside
    rw [apply, applyTimes, undefined, if_neg fun both => inside both.1]
    rfl

theorem scaled_of_rounds (valid : function.rate.referenceDelta ≠ 0) (digit : Nat)
    (rounds : function.RoundsTo referenceInput digit) :
    function.scaled referenceInput = -((digit + 1 : Nat) : Int) :=
  TimelineRate.strictlyBelow_exact digit _ _ _ (toNat_pos _ valid) rounds

def Reports : Prop :=
  (function.apply referenceInput).map Int64.toInt =
    some (if inS64 (function.exactApply referenceInput) then function.exactApply referenceInput
      else TimelineRate.kOverflow.toInt)

instance : Decidable (function.Reports referenceInput) := inferInstanceAs (Decidable (_ = _))

-- The result is as documented if no step overflows. An overflow is only reported when the subject
-- time does not change the mark, or is the mark itself and nothing else is left.
theorem apply_reports_iff (valid : function.rate.referenceDelta ≠ 0) :
    function.Reports referenceInput ↔
      function.NoOverflow referenceInput ∨
      inS64 (function.distance referenceInput) ∧
        (¬ inS64 (function.scaled referenceInput) ∧
            ¬ function.RoundsTo referenceInput (2 ^ 64 - 1) ∧ function.subjectTime = 0 ∨
          function.RoundsTo referenceInput (2 ^ 64 - 1) ∧
            function.subjectTime = Int64.maxValue) := by
  have wraps := function.scaled_of_rounds referenceInput valid (2 ^ 64 - 1)
  have leasts := function.scaled_of_rounds referenceInput valid (2 ^ 63 - 1)
  have lower := function.subjectTime.le_toInt
  have upper := function.subjectTime.toInt_lt
  rw [Reports, function.apply_toInt referenceInput valid, NoOverflow, exactApply, scaleResult,
    TimelineRate.toInt_kOverflow, ← Int64.toInt_inj (y := 0), ← Int64.toInt_inj]
  have zero : (0 : Int64).toInt = 0 := rfl
  have most : Int64.maxValue.toInt = 2 ^ 63 - 1 := rfl
  rw [zero, most, Option.ite_none_right_eq_some, Option.some.injEq]
  generalize function.scaled referenceInput = scaled at wraps leasts
  generalize function.subjectTime.toInt = subjectTime at lower upper
  by_cases inside : inS64 (function.distance referenceInput)
  · by_cases wrap : function.RoundsTo referenceInput (2 ^ 64 - 1)
    · have exact := wraps wrap
      simp only [inside, wrap, true_and, if_true, not_true_eq_false, false_and, and_false,
        false_or]
      split_ifs <;> unfold inS64 at * <;> omega
    · by_cases least : function.RoundsTo referenceInput (2 ^ 63 - 1)
      · have exact := leasts least
        simp only [inside, wrap, least, true_and, if_false, not_true_eq_false, and_false,
          false_and, false_or, or_false, not_false_eq_true]
        split_ifs <;> unfold inS64 at * <;> omega
      · simp only [inside, wrap, least, true_and, if_false, not_false_eq_true, and_true,
          false_and, or_false]
        split_ifs <;> unfold inS64 at * <;> omega
  · simp only [inside, false_and, or_self]

end Contract

theorem apply_reports_iff_half : Reports ⟨10, -5, ⟨1, 2⟩⟩ 7 :=
  (apply_reports_iff ⟨10, -5, ⟨1, 2⟩⟩ 7 (by decide)).mpr (.inl (by decide))

theorem mark_is_added_to : ¬ Reports ⟨0, -1, ⟨2, 1⟩⟩ Int64.maxValue ∧
    apply ⟨0, -1, ⟨2, 1⟩⟩ Int64.maxValue = some (Int64.maxValue - 1) := by
  decide

end TimelineFunction

end MojoMedia
