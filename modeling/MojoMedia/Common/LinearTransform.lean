import MojoMedia.Shared.MachineInt
import Mathlib.Data.Nat.GCD.Basic

set_option autoImplicit false

namespace MojoMedia

open MachineInt

structure Ratio where
  numerator : UInt32 := 1
  denominator : UInt32 := 1
  deriving Repr, DecidableEq

structure LinearTransform where
  scale : Ratio := {}
  aZero : Int64 := 0
  bZero : Int64 := 0
  deriving Repr, DecidableEq

-- The divisor the loop ends with. A division by zero would make it zero.
def euclid (a b : Nat) : Nat :=
  if _zero : b = 0 then 0
  else if a % b = 0 then b
  else euclid b (a % b)
termination_by b
decreasing_by exact Nat.mod_lt _ (Nat.pos_of_ne_zero _zero)

def reduce (numerator denominator : Nat) : Nat × Nat :=
  if numerator = 0 then (0, 1)
  else
    let divisor :=
      if numerator < denominator then euclid denominator numerator
      else euclid numerator denominator
    (numerator / divisor, denominator / divisor)

namespace Ratio

def reduced (numerator denominator : UInt32) : Ratio :=
  if denominator ≠ 0 then
    let (numerator, denominator) := reduce numerator.toNat denominator.toNat
    { numerator := .ofNat numerator, denominator := .ofNat denominator }
  else { numerator := if numerator ≠ 0 then 1 else 0, denominator := 0 }

def compose (a b : Ratio) : Ratio × Bool :=
  let numerator := a.numerator.toNat * b.numerator.toNat
  let denominator := a.denominator.toNat * b.denominator.toNat
  if numerator = 0 ∨ denominator = 0 then
    ({ numerator := if numerator = 0 then 0 else 1
       denominator := if denominator = 0 then 0 else 1 }, true)
  else
    let (numerator, denominator) := reduce numerator denominator
    let bits := u64 (numerator * 2) ||| denominator
    let shift := bits.log2 + 1 - 32
    ({ numerator := .ofNat (numerator / 2 ^ shift)
       denominator := .ofNat (denominator / 2 ^ shift) }, decide (shift = 0))

end Ratio

def sumCheckOvfl (a b : Int) : Option Int :=
  let out := s64 (a + b)
  if decide (a < 0) = decide (b < 0) ∧ decide (a < 0) ≠ decide (out < 0) then none else some out

def scaleU64ToU64 (value numerator denominator : Nat) (roundUpNotDown : Bool) : Option Nat :=
  let tmp2 := u64 (value / 2 ^ 32 * numerator)
  let tmp1 := u64 (value % 2 ^ 32 * numerator)
  let tmp2 := u64 (tmp2 + tmp1 / 2 ^ 32)
  if denominator ≤ tmp2 / 2 ^ 32 then none
  else
    let r := u32 (tmp2 % denominator)
    let tmp2 := tmp2 / denominator
    let tmp1 := tmp1 % 2 ^ 32 ||| r * 2 ^ 32
    let r := u32 (tmp1 % denominator)
    let tmp1 := tmp1 / denominator
    let out := u64 (tmp2 * 2 ^ 32) ||| tmp1
    if r ≠ 0 ∧ roundUpNotDown then
      let out := u64 (out + 1)
      if out = 0 then none else some out
    else some out

def abs64 (x : Int) : Int := if x < 0 then s64 (-x) else x

def linearTransformS64ToS64 (val basis1 : Int) (numerator denominator : Nat) (invertFrac : Bool)
    (basis2 : Int) : Option Int :=
  let isNeg := decide (val < basis1)
  let absVal := u64 (if isNeg then basis1 - val else val - basis1).toNat
  match scaleU64ToU64 absVal (if invertFrac then denominator else numerator)
    (if invertFrac then numerator else denominator) isNeg with
  | none => none
  | some scaled =>
    let signed : Int := if isNeg then -scaled else scaled
    if 2 ^ 63 ≤ scaled then
      if isNeg ∧ basis2 < 0 then none
      else if ¬ isNeg ∧ 0 ≤ basis2 then none
      else if abs64 basis2 ≤ ((scaled - 2 ^ 63 : Nat) : Int) then none
      else some (s64 (signed + basis2))
    else sumCheckOvfl (s64 signed) basis2

namespace LinearTransform

def doForwardTransform (transform : LinearTransform) (aIn : Int64) : Option Int64 :=
  if transform.scale.denominator = 0 then none
  else (linearTransformS64ToS64 aIn.toInt transform.aZero.toInt
    transform.scale.numerator.toNat transform.scale.denominator.toNat false
    transform.bZero.toInt).map Int64.ofInt

def doReverseTransform (transform : LinearTransform) (bIn : Int64) : Option Int64 :=
  if transform.scale.numerator = 0 then none
  else (linearTransformS64ToS64 bIn.toInt transform.bZero.toInt
    transform.scale.numerator.toNat transform.scale.denominator.toNat true
    transform.aZero.toInt).map Int64.ofInt

end LinearTransform

theorem euclid_eq_gcd (a b : Nat) (positive : 0 < b) : euclid a b = a.gcd b := by
  induction b using Nat.strong_induction_on generalizing a with
  | _ b ih =>
    rw [euclid, dif_neg (Nat.ne_of_gt positive)]
    by_cases divides : a % b = 0
    · rw [if_pos divides, Nat.gcd_comm]
      exact (Nat.gcd_eq_left (Nat.dvd_of_mod_eq_zero divides)).symm
    · rw [if_neg divides, ih (a % b) (Nat.mod_lt _ positive) b (Nat.pos_of_ne_zero divides),
        Nat.gcd_comm, ← Nat.gcd_rec, Nat.gcd_comm]

theorem reduce_eq (numerator denominator : Nat) (positive : 0 < denominator) :
    reduce numerator denominator = (numerator / numerator.gcd denominator,
      denominator / numerator.gcd denominator) := by
  by_cases zero : numerator = 0
  · simp [reduce, zero, Nat.div_self positive]
  · rw [reduce, if_neg zero]
    by_cases order : numerator < denominator
    · rw [if_pos order, euclid_eq_gcd _ _ (Nat.pos_of_ne_zero zero), Nat.gcd_comm]
    · rw [if_neg order, euclid_eq_gcd _ _ positive]

theorem Ratio.reduced_denominator (numerator denominator : UInt32) (valid : denominator ≠ 0) :
    (Ratio.reduced numerator denominator).denominator ≠ 0 := by
  have positive := toNat_pos denominator valid
  have divides := Nat.gcd_dvd_right numerator.toNat denominator.toNat
  have quotient : 0 < denominator.toNat / numerator.toNat.gcd denominator.toNat :=
    Nat.div_pos (Nat.le_of_dvd positive divides) (Nat.gcd_pos_of_pos_right _ positive)
  have bound : denominator.toNat / numerator.toNat.gcd denominator.toNat < 2 ^ 32 :=
    Nat.lt_of_le_of_lt (Nat.div_le_self _ _) denominator.toNat_lt
  rw [Ratio.reduced, if_pos valid, reduce_eq _ _ positive]
  intro zero
  have same := congrArg UInt32.toNat zero
  rw [UInt32.toNat_ofNat_of_lt' bound] at same
  exact Nat.ne_of_gt quotient same

theorem scale_zero (numerator denominator : Nat) (roundUp : Bool) (positive : 0 < denominator) :
    scaleU64ToU64 0 numerator denominator roundUp = some 0 := by
  simp [scaleU64ToU64, u64, u32, Nat.not_le.mpr positive]

theorem LinearTransform.forward_aZero (transform : LinearTransform)
    (valid : transform.scale.denominator ≠ 0) :
    transform.doForwardTransform transform.aZero = some transform.bZero := by
  have positive := toNat_pos transform.scale.denominator valid
  have inRange : s64 transform.bZero.toInt = transform.bZero.toInt :=
    s64_of_lt _ transform.bZero.le_toInt transform.bZero.toInt_lt
  rw [doForwardTransform, if_neg valid]
  simp only [linearTransformS64ToS64, Int.lt_irrefl, decide_false, Bool.false_eq_true, if_false,
    Int.sub_self, Int.toNat_zero, u64, Nat.zero_mod, scale_zero _ _ _ positive]
  simp [sumCheckOvfl, s64_zero, inRange]

end MojoMedia
