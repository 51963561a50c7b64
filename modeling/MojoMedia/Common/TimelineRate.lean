import MojoMedia.Shared.MachineInt
import Mathlib.Data.UInt

set_option autoImplicit false

-- The loops of `BinaryGcd` are written with the guards that its callers provide for, since the
-- source only runs them on operands that are not zero.
namespace MojoMedia

open MachineInt

def dropTwos (value : Nat) : Nat :=
  if _even : value ≠ 0 ∧ value % 2 = 0 then dropTwos (value / 2) else value
termination_by value
decreasing_by omega

def commonTwos (a b twos : Nat) : Nat × Nat × Nat :=
  if _even : a ≠ 0 ∧ (a ||| b) % 2 = 0 then commonTwos (a / 2) (b / 2) (twos + 1)
  else (a, b, twos)
termination_by a
decreasing_by omega

theorem dropTwos_le (value : Nat) : dropTwos value ≤ value := by
  induction value using dropTwos.induct with
  | case1 value even ih =>
    rw [dropTwos, dif_pos even]
    omega
  | case2 value odd => rw [dropTwos, dif_neg odd]

def subtractTwos (a b : Nat) : Nat :=
  let odd := dropTwos b
  if _swap : odd < a then
    if _again : odd ≠ 0 ∧ a - odd ≠ 0 then subtractTwos odd (a - odd) else odd
  else if _again : a ≠ 0 ∧ odd - a ≠ 0 then subtractTwos a (odd - a)
  else a
termination_by a + b
decreasing_by
  all_goals
    have smaller := dropTwos_le b
    omega

def binaryGcd (a b : Nat) : Nat :=
  if a = 0 then b
  else if b = 0 then a
  else
    let (a, b, twos) := commonTwos a b 0
    subtractTwos (dropTwos a) b * 2 ^ twos

def reduceRatio (numerator denominator : Nat) : Nat × Nat :=
  let gcd := binaryGcd numerator denominator
  if gcd = 0 then (numerator, 1)
  else if gcd = 1 then (numerator, denominator)
  else (numerator / gcd, denominator / gcd)

def scaleUInt64 (value subjectDelta referenceDelta : Nat) (roundUp : Bool) : Option Nat :=
  let high := u64 (subjectDelta * (value / 2 ^ 32))
  let low := u64 (subjectDelta * (value % 2 ^ 32))
  let high := u64 (high + low / 2 ^ 32)
  let low := low % 2 ^ 32
  let low := low ||| u64 (high % referenceDelta * 2 ^ 32)
  let roundUp := roundUp && low % referenceDelta != 0
  let high := high / referenceDelta
  let low := low / referenceDelta
  if high / 2 ^ 32 ≠ 0 then none
  else
    let result := u64 (high * 2 ^ 32) ||| low
    if roundUp then
      if result = 2 ^ 63 - 1 then none else some (u64 (result + 1))
    else some result

@[ext]
structure TimelineRate where
  subjectDelta : UInt32 := 0
  referenceDelta : UInt32 := 1
  deriving Repr, DecidableEq

namespace TimelineRate

def kOverflow : Int64 := Int64.maxValue

def maxUInt32 : Nat := 2 ^ 32 - 1

def ofSubject (subjectDelta : UInt32) : TimelineRate := { subjectDelta, referenceDelta := 1 }

def ofDeltas (subjectDelta referenceDelta : UInt32) : TimelineRate :=
  let (subjectDelta, referenceDelta) := reduceRatio subjectDelta.toNat referenceDelta.toNat
  { subjectDelta := .ofNat subjectDelta, referenceDelta := .ofNat referenceDelta }

def inverse (rate : TimelineRate) : TimelineRate := ofDeltas rate.referenceDelta rate.subjectDelta

def shiftDown (subjectDelta referenceDelta : Nat) : Nat × Nat :=
  let subjectDelta := subjectDelta / 2
  let referenceDelta := referenceDelta / 2
  if _large : maxUInt32 < subjectDelta ∨ maxUInt32 < referenceDelta then
    shiftDown subjectDelta referenceDelta
  else (subjectDelta, referenceDelta)
termination_by subjectDelta + referenceDelta
decreasing_by
  unfold maxUInt32 at _large
  omega

def productDeltas (aSubjectDelta aReferenceDelta bSubjectDelta bReferenceDelta : UInt32)
    (_exact : Bool) : UInt32 × UInt32 :=
  let (subjectDelta, referenceDelta) := reduceRatio (aSubjectDelta.toNat * bSubjectDelta.toNat)
    (aReferenceDelta.toNat * bReferenceDelta.toNat)
  if maxUInt32 < subjectDelta ∨ maxUInt32 < referenceDelta then
    let (subjectDelta, referenceDelta) := shiftDown subjectDelta referenceDelta
    if referenceDelta = 0 then (.ofNat maxUInt32, 1)
    else (.ofNat subjectDelta, .ofNat referenceDelta)
  else (.ofNat subjectDelta, .ofNat referenceDelta)

def product (a b : TimelineRate) (exact : Bool) : TimelineRate :=
  let (subjectDelta, referenceDelta) :=
    productDeltas a.subjectDelta a.referenceDelta b.subjectDelta b.referenceDelta exact
  ofDeltas subjectDelta referenceDelta

def scaleByDeltas (value : Int64) (subjectDelta referenceDelta : UInt32) : Int64 :=
  let absOfMinInt64 := 2 ^ 63 - 1 + 1
  let absResult :=
    if 0 ≤ value then
      scaleUInt64 value.toInt.toNat subjectDelta.toNat referenceDelta.toNat false
    else if value = Int64.minValue then
      scaleUInt64 absOfMinInt64 subjectDelta.toNat referenceDelta.toNat true
    else scaleUInt64 (-value).toInt.toNat subjectDelta.toNat referenceDelta.toNat true
  match absResult with
  | none => kOverflow
  | some absResult =>
    if 2 ^ 63 - 1 < absResult then
      if value < 0 ∧ absResult = absOfMinInt64 then Int64.minValue else kOverflow
    else if 0 ≤ value then Int64.ofNat absResult
    else -Int64.ofNat absResult

def scale (rate : TimelineRate) (value : Int64) : Int64 :=
  scaleByDeltas value rate.subjectDelta rate.referenceDelta

def equal (a b : TimelineRate) : Bool :=
  a.subjectDelta == b.subjectDelta && a.referenceDelta == b.referenceDelta

end TimelineRate

end MojoMedia
