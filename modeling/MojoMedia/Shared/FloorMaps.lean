import Mathlib.Algebra.Order.Field.Basic
import Mathlib.Algebra.Order.Floor.Ring
import Mathlib.Tactic.Linarith
import Mathlib.Tactic.Ring

set_option autoImplicit false

structure FloorMap (K : Type*) where
  start : Int
  value : Int
  slope : K

namespace FloorMap

variable {K : Type*} [Field K] [LinearOrder K] [IsStrictOrderedRing K] [FloorRing K]

def rise (line : FloorMap K) (x : Int) : K := ((x - line.start : Int) : K) * line.slope

def apply (line : FloorMap K) (x : Int) : Int := ⌊line.rise x⌋ + line.value

def compose (second first : FloorMap K) : FloorMap K where
  start := first.start
  value := second.apply first.value
  slope := first.slope * second.slope

def inverse (line : FloorMap K) : FloorMap K where
  start := line.value
  value := line.start
  slope := line.slope⁻¹

def ExactAt (line : FloorMap K) (x : Int) : Prop := (⌊line.rise x⌋ : K) = line.rise x

section Compose

variable (second first : FloorMap K) (x : Int)

-- The second line rises as the first does, and then from the image of the first point.
omit [IsStrictOrderedRing K] in
theorem rise_apply : second.rise (first.apply x) =
    (⌊first.rise x⌋ : K) * second.slope + second.rise first.value := by
  have image : second.rise (first.apply x) =
      ((⌊first.rise x⌋ + first.value - second.start : Int) : K) * second.slope := rfl
  have point : second.rise first.value = ((first.value - second.start : Int) : K) * second.slope :=
    rfl
  rw [image, point]
  push_cast
  ring

omit [IsStrictOrderedRing K] in
theorem compose_rise : (second.compose first).rise x = first.rise x * second.slope := by
  rw [rise, rise, compose, mul_assoc]

omit [IsStrictOrderedRing K] in
theorem compose_sub_apply : (second.compose first).apply x - second.apply (first.apply x) =
    ⌊first.rise x * second.slope⌋ + ⌊second.rise first.value⌋ -
      ⌊(⌊first.rise x⌋ : K) * second.slope + second.rise first.value⌋ := by
  rw [apply, compose_rise, apply, rise_apply, compose, apply]
  ring

theorem compose_lower (nonneg : 0 ≤ second.slope) :
    -1 ≤ (second.compose first).apply x - second.apply (first.apply x) := by
  have lower : ⌊(⌊first.rise x⌋ : K) * second.slope⌋ ≤ ⌊first.rise x * second.slope⌋ :=
    Int.floor_le_floor (mul_le_mul_of_nonneg_right (Int.floor_le _) nonneg)
  have sum := Int.le_floor_add_floor ((⌊first.rise x⌋ : K) * second.slope)
    (second.rise first.value)
  rw [compose_sub_apply]
  omega

theorem compose_upper (nonneg : 0 ≤ second.slope) :
    (((second.compose first).apply x - second.apply (first.apply x) : Int) : K) <
      second.slope + 1 := by
  -- What the first rounding takes away, scaled by the second line.
  have fraction : first.rise x * second.slope ≤
      (⌊first.rise x⌋ : K) * second.slope + second.slope := by
    calc first.rise x * second.slope
      _ ≤ ((⌊first.rise x⌋ : K) + 1) * second.slope :=
        mul_le_mul_of_nonneg_right (Int.lt_floor_add_one _).le nonneg
      _ = (⌊first.rise x⌋ : K) * second.slope + second.slope := by ring
  have once := Int.floor_le (first.rise x * second.slope)
  have point := Int.floor_le (second.rise first.value)
  have twice := Int.lt_floor_add_one
    ((⌊first.rise x⌋ : K) * second.slope + second.rise first.value)
  rw [compose_sub_apply]
  push_cast
  linarith

theorem compose_exact (firstExact : first.ExactAt x) (secondExact : second.ExactAt first.value) :
    (second.compose first).apply x = second.apply (first.apply x) := by
  have difference := compose_sub_apply second first x
  unfold ExactAt at firstExact secondExact
  rw [firstExact, ← secondExact, Int.floor_intCast, Int.floor_add_intCast] at difference
  omega

end Compose

section Inverse

variable (line : FloorMap K) (x : Int)

omit [LinearOrder K] [IsStrictOrderedRing K] [FloorRing K] in
theorem inverse_inverse : line.inverse.inverse = line := by
  rw [inverse, inverse, inv_inv]

omit [IsStrictOrderedRing K] in
theorem sub_inverse_apply : x - line.inverse.apply (line.apply x) =
    x - line.start - ⌊(⌊line.rise x⌋ : K) * line.slope⁻¹⌋ := by
  have distance : line.apply x - line.inverse.start = ⌊line.rise x⌋ := by
    rw [apply, inverse]
    ring
  rw [apply, rise, distance, inverse]
  ring

theorem back_bounds (positive : 0 < line.slope) :
    0 ≤ x - line.inverse.apply (line.apply x) ∧
      x - line.inverse.apply (line.apply x) ≤ ⌈line.slope⁻¹⌉ := by
  have slope : 0 < line.slope⁻¹ := inv_pos.mpr positive
  have whole : line.rise x * line.slope⁻¹ = ((x - line.start : Int) : K) := by
    rw [rise, mul_assoc, mul_inv_cancel₀ positive.ne', mul_one]
  rw [sub_inverse_apply]
  constructor
  · have below : (⌊line.rise x⌋ : K) * line.slope⁻¹ ≤ ((x - line.start : Int) : K) := by
      rw [← whole]
      exact mul_le_mul_of_nonneg_right (Int.floor_le _) slope.le
    have floor := Int.floor_le_floor below
    rw [Int.floor_intCast] at floor
    omega
  · -- At most one step of the inverse is lost, and the step is rounded up.
    have above : ((x - line.start - ⌈line.slope⁻¹⌉ : Int) : K) ≤
        (⌊line.rise x⌋ : K) * line.slope⁻¹ := by
      have step := Int.le_ceil line.slope⁻¹
      have next : line.rise x * line.slope⁻¹ ≤ (⌊line.rise x⌋ + 1) * line.slope⁻¹ :=
        mul_le_mul_of_nonneg_right (Int.lt_floor_add_one _).le slope.le
      rw [whole, add_mul, one_mul] at next
      push_cast at next ⊢
      linarith
    have floor := Int.le_floor.mpr above
    omega

end Inverse

end FloorMap
