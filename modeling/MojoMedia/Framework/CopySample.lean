import MojoMedia.Framework.LpcmReformatter
import MojoMedia.Shared.LittleEndian

set_option autoImplicit false

-- Operands are promoted to `int`, and what is assigned is cut off.
namespace MojoMedia.Framework

inductive IntegerFormat where
  | unsigned8
  | signed16
  | signed24In32
  deriving Repr, DecidableEq

namespace IntegerFormat

def sampleFormat : IntegerFormat → SampleFormat
  | .unsigned8 => .unsigned8
  | .signed16 => .signed16
  | .signed24In32 => .signed24In32

def size (format : IntegerFormat) : Nat := format.sampleFormat.size

abbrev width : IntegerFormat → Nat
  | .unsigned8 => 8
  | .signed16 => 16
  | .signed24In32 => 32

abbrev Sample (format : IntegerFormat) : Type := BitVec format.width

def value : (format : IntegerFormat) → format.Sample → Int
  | .unsigned8, sample => sample.toNat
  | .signed16, sample => sample.toInt
  | .signed24In32, sample => sample.toInt

def silence : IntegerFormat → Int
  | .unsigned8 => 128
  | .signed16 | .signed24In32 => 0

def bytes (format : IntegerFormat) (sample : format.Sample) : List UInt8 :=
  LittleEndian.store format.size sample.toNat

def read (format : IntegerFormat) (bytes : List UInt8) : format.Sample :=
  BitVec.ofNat _ (LittleEndian.load bytes)

end IntegerFormat

def clamp (val min max : BitVec 32) : BitVec 32 :=
  if max.slt val then max else if val.slt min then min else val

def clampInt32 (val : BitVec 32) : BitVec 32 := clamp val (1#32 <<< 23) (-(1#32 <<< 23))

namespace CopySample

def uint8FromInt16 (source : BitVec 16) : BitVec 8 :=
  ((source.signExtend 32).sshiftRight 8 ^^^ 0x80).setWidth 8

def uint8FromInt32 (source : BitVec 32) : BitVec 8 :=
  ((clampInt32 source).sshiftRight 16 ^^^ 0x80).setWidth 8

def int16FromUint8 (source : BitVec 8) : BitVec 16 :=
  (((source.setWidth 32 ^^^ 0x80).setWidth 16).signExtend 32 <<< 8).setWidth 16

def int16FromInt32 (source : BitVec 32) : BitVec 16 :=
  ((clampInt32 source).sshiftRight 8).setWidth 16

def int32FromUint8 (source : BitVec 8) : BitVec 32 := (source.setWidth 32 ^^^ 0x80) <<< 16

def int32FromInt16 (source : BitVec 16) : BitVec 32 := source.signExtend 32 <<< 8

end CopySample

def copySample : (inFormat outFormat : IntegerFormat) → inFormat.Sample → outFormat.Sample
  | .unsigned8, .unsigned8, source => source
  | .unsigned8, .signed16, source => CopySample.int16FromUint8 source
  | .unsigned8, .signed24In32, source => CopySample.int32FromUint8 source
  | .signed16, .unsigned8, source => CopySample.uint8FromInt16 source
  | .signed16, .signed16, source => source
  | .signed16, .signed24In32, source => CopySample.int32FromInt16 source
  | .signed24In32, .unsigned8, source => CopySample.uint8FromInt32 source
  | .signed24In32, .signed16, source => CopySample.int16FromInt32 source
  | .signed24In32, .signed24In32, source => source

theorem clampInt32_eq (val : BitVec 32) :
    clampInt32 val = if -2 ^ 23 < val.toInt then -(1#32 <<< 23) else 1#32 <<< 23 := by
  have max : (-(1#32 <<< 23)).toInt = -2 ^ 23 := by decide
  have min : (1#32 <<< 23).toInt = 2 ^ 23 := by decide
  simp only [clampInt32, clamp, BitVec.slt_iff_toInt_lt, max, min]
  split
  · rfl
  next low =>
    rw [if_pos (by omega)]

theorem int16FromInt32_eq (source : BitVec 32) : CopySample.int16FromInt32 source = 0x8000#16 := by
  rw [CopySample.int16FromInt32, clampInt32_eq]
  split <;> decide

theorem uint8FromInt32_eq (source : BitVec 32) : CopySample.uint8FromInt32 source = 0#8 := by
  rw [CopySample.uint8FromInt32, clampInt32_eq]
  split <;> decide

theorem uint8_int16_uint8 : ∀ source : BitVec 8,
    CopySample.uint8FromInt16 (CopySample.int16FromUint8 source) = source := by
  decide +kernel

theorem int16FromUint8_level : ∀ source : BitVec 8,
    (CopySample.int16FromUint8 source).toInt = ((source.toNat : Int) - 128) * 2 ^ 8 := by
  decide +kernel

theorem int32FromUint8_level : ∀ source : BitVec 8,
    (CopySample.int32FromUint8 source).toInt = ((source.toNat : Int) - 128) * 2 ^ 16 ↔
      128 ≤ source.toNat := by
  decide +kernel

theorem int32FromInt16_level (source : BitVec 16) :
    (CopySample.int32FromInt16 source).toInt = source.toInt * 2 ^ 8 := by
  have lower := source.le_toInt
  have upper := source.toInt_lt
  have extended : (source.signExtend 32).toInt = source.toInt :=
    BitVec.toInt_signExtend_of_le (by decide)
  have factor : (BitVec.twoPow 32 8).toInt = 2 ^ 8 := by decide
  rw [CopySample.int32FromInt16, BitVec.shiftLeft_eq_mul_twoPow, BitVec.toInt_mul, extended, factor,
    Int.bmod_eq_of_le]
  · omega
  · omega

def saturated (sample : BitVec 32) : Int := max (-2 ^ 23) (min sample.toInt (2 ^ 23 - 1))

theorem le_saturated (sample : BitVec 32) : -2 ^ 23 ≤ saturated sample := by
  unfold saturated
  omega

theorem saturated_lt_iff {sample : BitVec 32} {bound : Int} (above : -2 ^ 23 < bound)
    (below : bound < 2 ^ 23) : saturated sample < bound ↔ sample.toInt < bound := by
  unfold saturated
  omega

def narrowed : IntegerFormat → BitVec 32 → Int
  | .unsigned8, sample => saturated sample >>> (16 : Nat) + 128
  | .signed16, sample => saturated sample >>> (8 : Nat)
  | .signed24In32, sample => sample.toInt

def Unharmed : IntegerFormat → BitVec 32 → Prop
  | .unsigned8, sample => sample.toInt < -2 ^ 23 + 2 ^ 16
  | .signed16, sample => sample.toInt < -2 ^ 23 + 2 ^ 8
  | .signed24In32, _ => True

theorem copySample_narrowed_iff (outFormat : IntegerFormat) (sample : BitVec 32) :
    outFormat.value (copySample .signed24In32 outFormat sample) = narrowed outFormat sample ↔
      Unharmed outFormat sample := by
  have lowest := le_saturated sample
  cases outFormat with
  | unsigned8 =>
    change ((CopySample.uint8FromInt32 sample).toNat : Int) = _ ↔ _
    rw [uint8FromInt32_eq, BitVec.toNat_ofNat, narrowed, Unharmed, Int.shiftRight_eq_div_pow,
      ← saturated_lt_iff (by decide) (by decide)]
    omega
  | signed16 =>
    have least : (0x8000#16).toInt = -2 ^ 15 := by decide
    change (CopySample.int16FromInt32 sample).toInt = _ ↔ _
    rw [int16FromInt32_eq, least, narrowed, Unharmed, Int.shiftRight_eq_div_pow,
      ← saturated_lt_iff (by decide) (by decide)]
    omega
  | signed24In32 => exact iff_of_true rfl trivial

end MojoMedia.Framework
