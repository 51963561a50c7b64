import MojoMedia.FactoryService.MediaSink
import MojoMedia.Common.LinearTransformExact
import MojoMedia.Common.RatioCompose
import MojoMedia.Shared.Runs

set_option autoImplicit false

namespace MojoMedia

open MachineInt

theorem Ratio.reduced_one_right (numerator : UInt32) :
    Ratio.reduced numerator 1 = ⟨numerator, 1⟩ := by
  simp [Ratio.reduced, reduce_eq]

theorem Ratio.reduced_of_coprime {numerator denominator : UInt32} (valid : denominator ≠ 0)
    (coprime : numerator.toNat.Coprime denominator.toNat) :
    Ratio.reduced numerator denominator = ⟨numerator, denominator⟩ := by
  have positive := toNat_pos denominator valid
  rw [Ratio.reduced, if_pos valid, reduce_eq _ _ positive, coprime]
  simp

theorem Ratio.reduced_self {number : UInt32} (valid : number ≠ 0) :
    Ratio.reduced number number = ⟨1, 1⟩ := by
  have positive := toNat_pos number valid
  rw [Ratio.reduced, if_pos valid, reduce_eq _ _ positive, Nat.gcd_self, Nat.div_self positive]
  rfl

namespace FrameRate

variable (frameRate : FrameRate)

def scale (rate : SinkRate) : Ratio := (MediaSink.framesPerTick (frameRate.times rate)).1

abbrev frames : Nat := frameRate.framesPerSecond.toNat

theorem framesPerTick_stopped :
    MediaSink.framesPerTick (frameRate.times .stopped) = (⟨0, 1⟩, true) := by
  change MediaSink.framesPerTick 0 = (⟨0, 1⟩, true)
  decide +kernel

theorem scale_stopped : frameRate.scale .stopped = ⟨0, 1⟩ := by
  rw [scale, framesPerTick_stopped]

theorem framesPerTick_normal :
    (MediaSink.framesPerTick frameRate.framesPerSecond).2 = true ∧
      (frameRate.scale .normal).numerator.toNat = frameRate.frames / frameRate.frames.gcd (10 ^ 9) ∧
      (frameRate.scale .normal).denominator.toNat = 10 ^ 9 / frameRate.frames.gcd (10 ^ 9) := by
  have seconds : MediaSink.localSecondsPerTick = ⟨1, 1000000000⟩ := by decide +kernel
  have valid : (⟨1, 1000000000⟩ : Ratio).denominator ≠ 0 ∧
      (⟨frameRate.framesPerSecond, 1⟩ : Ratio).denominator ≠ 0 :=
    ⟨by decide, show (1 : UInt32) ≠ 0 by decide⟩
  have product : Ratio.exactProduct ⟨1, 1000000000⟩ ⟨frameRate.framesPerSecond, 1⟩ =
      (frameRate.frames / frameRate.frames.gcd (10 ^ 9),
        10 ^ 9 / frameRate.frames.gcd (10 ^ 9)) := by
    simp [Ratio.exactProduct, frames]
  have numeratorSmall : frameRate.frames / frameRate.frames.gcd (10 ^ 9) < 2 ^ 24 :=
    Nat.lt_of_le_of_lt (Nat.div_le_self _ _) frameRate.exact
  have denominatorSmall : 10 ^ 9 / frameRate.frames.gcd (10 ^ 9) < 2 ^ 32 :=
    Nat.lt_of_le_of_lt (Nat.div_le_self _ _) (by decide)
  have fits : Ratio.Fits (Ratio.exactProduct ⟨1, 1000000000⟩ ⟨frameRate.framesPerSecond, 1⟩) := by
    rw [product]
    exact ⟨by omega, denominatorSmall⟩
  have exactly :
      (Ratio.compose ⟨1, 1000000000⟩ ⟨frameRate.framesPerSecond, 1⟩).2 = true := by
    rw [Ratio.compose_eq valid, decide_eq_true_eq,
      Ratio.lostBits_eq_zero _ (Ratio.exactProduct_pos valid), product, u64]
    omega
  have result := Ratio.unshifted valid fits exactly
  rw [product, Prod.mk.injEq] at result
  unfold scale times MediaSink.framesPerTick
  rw [seconds, Ratio.reduced_one_right]
  exact ⟨exactly, result⟩

theorem framesPerTick_exact (rate : SinkRate) :
    (MediaSink.framesPerTick (frameRate.times rate)).2 = true := by
  cases rate with
  | stopped => rw [framesPerTick_stopped]
  | normal => exact frameRate.framesPerTick_normal.1

theorem gcd_pos : 0 < frameRate.frames.gcd (10 ^ 9) :=
  Nat.gcd_pos_of_pos_left _ frameRate.positive

theorem scale_denominator_pos (rate : SinkRate) : 0 < (frameRate.scale rate).denominator.toNat := by
  cases rate with
  | stopped =>
    rw [scale_stopped]
    decide
  | normal =>
    rw [frameRate.framesPerTick_normal.2.2]
    exact Nat.div_pos (Nat.le_of_dvd (by decide) (Nat.gcd_dvd_right _ _)) frameRate.gcd_pos

theorem scale_denominator (rate : SinkRate) : (frameRate.scale rate).denominator ≠ 0 := by
  intro zero
  have positive := frameRate.scale_denominator_pos rate
  simp [zero] at positive

theorem scale_numerator_pos : 0 < (frameRate.scale .normal).numerator.toNat := by
  rw [frameRate.framesPerTick_normal.2.1]
  exact Nat.div_pos (Nat.gcd_le_left _ frameRate.positive) frameRate.gcd_pos

theorem scale_normal : ((frameRate.scale .normal).numerator.toNat : Int) * 10 ^ 9 =
    frameRate.frames * (frameRate.scale .normal).denominator.toNat := by
  have same : (frameRate.scale .normal).numerator.toNat * 10 ^ 9 =
      frameRate.frames * (frameRate.scale .normal).denominator.toNat := by
    rw [frameRate.framesPerTick_normal.2.1, frameRate.framesPerTick_normal.2.2,
      Nat.div_mul_right_comm (Nat.gcd_dvd_left _ _),
      ← Nat.mul_div_assoc _ (Nat.gcd_dvd_right _ _)]
  exact_mod_cast same

theorem frames_pos : (0 : Int) < frameRate.frames := by exact_mod_cast frameRate.positive

theorem scale_coprime (rate : SinkRate) :
    (frameRate.scale rate).numerator.toNat.Coprime (frameRate.scale rate).denominator.toNat := by
  cases rate with
  | stopped =>
    rw [scale_stopped]
    decide
  | normal =>
    rw [frameRate.framesPerTick_normal.2.1, frameRate.framesPerTick_normal.2.2]
    exact Nat.coprime_div_gcd_div_gcd frameRate.gcd_pos

def ticks (frames : Int) : Int := frames * 10 ^ 9 / frameRate.frames

theorem ticks_eq (frames : Int) : frames * (frameRate.scale .normal).denominator.toNat /
    (frameRate.scale .normal).numerator.toNat = frameRate.ticks frames := by
  have positive := frameRate.frames_pos
  have numerator : (0 : Int) < (frameRate.scale .normal).numerator.toNat := by
    exact_mod_cast frameRate.scale_numerator_pos
  rw [ticks, ← Int.mul_ediv_mul_of_pos_left (frames * 10 ^ 9) (frameRate.frames : Int) numerator,
    ← Int.mul_ediv_mul_of_pos_left
      (frames * (frameRate.scale .normal).denominator.toNat) _ positive]
  congr 1
  · rw [mul_assoc, mul_assoc, mul_comm (_ : Int) (frameRate.frames : Int), ← scale_normal]
    ring
  · ring

theorem frames_eq (ticks : Int) : ticks * (frameRate.scale .normal).numerator.toNat /
    (frameRate.scale .normal).denominator.toNat = ticks * frameRate.frames / 10 ^ 9 := by
  have denominator : (0 : Int) < (frameRate.scale .normal).denominator.toNat := by
    exact_mod_cast frameRate.scale_denominator_pos .normal
  rw [← Int.mul_ediv_mul_of_pos_left (ticks * frameRate.frames) (10 ^ 9) denominator,
    mul_assoc, ← scale_normal, ← mul_assoc, mul_comm (10 ^ 9 : Int),
    Int.mul_ediv_mul_of_pos_left _ _ (by decide)]

-- A sink starts no later than 2^61 ticks and 30 milliseconds after the clock did.
def lastStart : Int := 2 ^ 61 + 30000000

-- Frames whose place on the local clock, counted from the start of the timeline at `ahead` ticks,
-- is no more than 2^61 ticks away from zero.
def InReach (ahead frames : Int) : Prop :=
  -(frameRate.frames * 2 ^ 61) ≤ frames * 10 ^ 9 ∧
    frames * 10 ^ 9 ≤ frameRate.frames * (2 ^ 61 + ahead)

instance (ahead frames : Int) : Decidable (frameRate.InReach ahead frames) :=
  inferInstanceAs (Decidable (_ ∧ _))

theorem InReach.ticks {ahead frames : Int} (reach : frameRate.InReach ahead frames)
    (soon : ahead ≤ lastStart) :
    -2 ^ 61 ≤ frameRate.ticks frames ∧ frameRate.ticks frames ≤ 2 ^ 61 + lastStart := by
  have positive := frameRate.frames_pos
  constructor
  · refine Int.le_ediv_of_mul_le positive ?_
    linarith [reach.1]
  · refine Int.le_of_lt_add_one (Int.ediv_lt_of_lt_mul positive ?_)
    have wider : (frameRate.frames : Int) * (2 ^ 61 + ahead) ≤
        frameRate.frames * (2 ^ 61 + lastStart) :=
      Int.mul_le_mul_of_nonneg_left (by omega) positive.le
    linarith [reach.2]

theorem InReach.bounds {ahead frames : Int} (reach : frameRate.InReach ahead frames)
    (soon : ahead ≤ lastStart) : -2 ^ 56 ≤ frames ∧ frames ≤ 2 ^ 57 := by
  have small : (frameRate.frames : Int) < 2 ^ 24 := by exact_mod_cast frameRate.exact
  have positive := frameRate.frames_pos
  obtain ⟨low, high⟩ := reach
  have wider : (frameRate.frames : Int) * (2 ^ 61 + ahead) ≤
      frameRate.frames * (2 ^ 61 + lastStart) :=
    Int.mul_le_mul_of_nonneg_left (by omega) positive.le
  unfold lastStart at wider
  omega

theorem reverse_ticks {ahead : Int} {frames : Int64}
    (reach : frameRate.InReach ahead frames.toInt) (soon : ahead ≤ lastStart) :
    ({ scale := frameRate.scale .normal } : LinearTransform).doReverseTransform frames =
      some (.ofInt (frameRate.ticks frames.toInt)) := by
  have numerator : (frameRate.scale .normal).numerator ≠ 0 := by
    intro zero
    have positive := frameRate.scale_numerator_pos
    simp [zero] at positive
  have exact : LinearTransform.reverseExact { scale := frameRate.scale .normal } frames =
      frameRate.ticks frames.toInt := by
    rw [← ticks_eq]
    simp [LinearTransform.reverseExact]
  obtain ⟨low, high⟩ := reach.ticks frameRate soon
  unfold lastStart at high
  rw [LinearTransform.reverse_eq _ _ numerator, exact, LinearTransform.answer, if_pos]
  constructor
  · unfold inS64
    omega
  · have scaled : scaledExact frames.toInt 0 (frameRate.scale .normal).denominator.toNat
        (frameRate.scale .normal).numerator.toNat = frameRate.ticks frames.toInt := by
      rw [← ticks_eq, scaledExact, Int.sub_zero]
    change ¬ turnedDown frames.toInt 0 0 (scaledExact frames.toInt 0
      (frameRate.scale .normal).denominator.toNat (frameRate.scale .normal).numerator.toNat)
    rw [scaled, turnedDown]
    omega

end FrameRate

def SinkRate.slope : SinkRate → UInt32
  | .stopped => 0
  | .normal => 1

namespace FrameRate

variable (frameRate : FrameRate)

def quad (rate : SinkRate) (targetOffset referenceOffset : Int64) : TimelineQuad :=
  { referenceOffset
    targetOffset
    referenceDelta := (frameRate.scale rate).numerator
    targetDelta := (frameRate.scale rate).denominator }

def reported (rate : SinkRate) (targetOffset referenceOffset : Int64) : TimelineQuad :=
  { referenceOffset := .ofInt (frameRate.ticks referenceOffset.toInt)
    targetOffset
    referenceDelta := rate.slope
    targetDelta := 1 }

theorem inReach_zero : frameRate.InReach 0 0 := by
  unfold InReach
  omega

theorem ticks_numerator : frameRate.ticks (frameRate.scale .normal).numerator.toNat =
    (frameRate.scale .normal).denominator.toNat := by
  rw [ticks, scale_normal, Int.mul_ediv_cancel_left _ frameRate.frames_pos.ne']

theorem inReach_numerator : frameRate.InReach 0 (frameRate.scale .normal).numerator.toNat := by
  have small : ((frameRate.scale .normal).denominator.toNat : Int) ≤ 2 ^ 61 := by
    have word := (frameRate.scale .normal).denominator.toNat_lt
    omega
  constructor
  · omega
  · rw [scale_normal]
    exact Int.mul_le_mul_of_nonneg_left small (by omega)

theorem reverse_delta (rate : SinkRate) :
    ∃ presentationDelta, ({ scale := frameRate.scale .normal } :
        LinearTransform).doReverseTransform (.ofNat (frameRate.scale rate).numerator.toNat) =
          some presentationDelta ∧
      Ratio.reduced (.ofInt presentationDelta.toInt) (frameRate.scale rate).denominator =
        ⟨rate.slope, 1⟩ := by
  have whole : (Int64.ofNat (frameRate.scale rate).numerator.toNat).toInt =
      (frameRate.scale rate).numerator.toNat := by
    have word := (frameRate.scale rate).numerator.toNat_lt
    rw [← Int64.ofInt_eq_ofNat]
    refine toInt_ofInt _ ?_
    unfold inS64
    omega
  cases rate with
  | stopped =>
    refine ⟨.ofInt (frameRate.ticks 0), ?_, ?_⟩
    · rw [scale_stopped]
      exact frameRate.reverse_ticks frameRate.inReach_zero (by decide)
    · rw [scale_stopped, ticks, Int.zero_mul, Int.zero_ediv]
      decide +kernel
  | normal =>
    refine ⟨.ofInt (frameRate.scale .normal).denominator.toNat, ?_, ?_⟩
    · rw [← ticks_numerator, ← whole]
      have reach := frameRate.inReach_numerator
      rw [← whole] at reach
      exact frameRate.reverse_ticks reach (by decide)
    · have word := (frameRate.scale .normal).denominator.toNat_lt
      have inside : inS64 ((frameRate.scale .normal).denominator.toNat : Int) := by
        unfold inS64
        omega
      rw [toInt_ofInt _ inside]
      have same : UInt32.ofInt ((frameRate.scale .normal).denominator.toNat : Int) =
          (frameRate.scale .normal).denominator := by
        rw [UInt32.ofInt, Int.emod_eq_of_lt (by omega) (by omega), Int.toNat_natCast,
          UInt32.ofNat_toNat]
      rw [same, Ratio.reduced_self (frameRate.scale_denominator .normal)]
      rfl

theorem presentationQuad_quad (rate : SinkRate) {ahead : Int}
    {targetOffset referenceOffset : Int64}
    (reach : frameRate.InReach ahead referenceOffset.toInt) (soon : ahead ≤ lastStart) :
    MediaSink.presentationQuad frameRate (frameRate.quad rate targetOffset referenceOffset) =
      some (frameRate.reported rate targetOffset referenceOffset) := by
  obtain ⟨presentationDelta, delta, ratio⟩ := frameRate.reverse_delta rate
  have offset := frameRate.reverse_ticks reach soon
  have frames : (MediaSink.framesPerTick frameRate.framesPerSecond).1 = frameRate.scale .normal :=
    rfl
  simp only [MediaSink.presentationQuad, frames, quad, offset, delta, ratio, reported]

theorem quad_transform (rate : SinkRate) (targetOffset referenceOffset : Int64) :
    (frameRate.quad rate targetOffset referenceOffset).transform =
      { scale := frameRate.scale rate, aZero := targetOffset, bZero := referenceOffset } := by
  have reduced := Ratio.reduced_of_coprime (frameRate.scale_denominator rate)
    (frameRate.scale_coprime rate)
  simp only [TimelineQuad.transform, quad, reduced]

theorem reported_transform (rate : SinkRate) (targetOffset referenceOffset : Int64) :
    (frameRate.reported rate targetOffset referenceOffset).transform =
      { scale := ⟨rate.slope, 1⟩
        aZero := targetOffset
        bZero := .ofInt (frameRate.ticks referenceOffset.toInt) } := by
  simp only [TimelineQuad.transform, reported, Ratio.reduced_one_right]

def Within (frames ticks : Int) : Prop :=
  -frameRate.frames < frameRate.frames * ticks - 10 ^ 9 * frames ∧
    frameRate.frames * ticks - 10 ^ 9 * frames < 10 ^ 9

theorem reported_within (rate : SinkRate) {ahead : Int} (targetOffset referenceOffset : Int64)
    (reach : frameRate.InReach ahead referenceOffset.toInt) (soon : ahead ≤ lastStart)
    (time : Int64) :
    frameRate.Within
      ((frameRate.quad rate targetOffset referenceOffset).transform.forwardExact time)
      ((frameRate.reported rate targetOffset referenceOffset).transform.forwardExact time) := by
  obtain ⟨low, high⟩ := reach.ticks frameRate soon
  have start : (Int64.ofInt (frameRate.ticks referenceOffset.toInt)).toInt =
      frameRate.ticks referenceOffset.toInt := by
    unfold lastStart at high
    refine toInt_ofInt _ ?_
    unfold inS64
    omega
  have positive := frameRate.frames_pos
  have rounded := Int.mul_ediv_self_le (x := referenceOffset.toInt * 10 ^ 9) positive.ne'
  have above := Int.lt_mul_ediv_self_add (x := referenceOffset.toInt * 10 ^ 9) positive
  rw [quad_transform, reported_transform]
  simp only [LinearTransform.forwardExact, start, Within]
  cases rate with
  | stopped =>
    rw [scale_stopped]
    simp only [SinkRate.slope, ticks, UInt32.toNat_zero, UInt32.toNat_one, Nat.cast_zero,
      Nat.cast_one, Int.mul_zero, Int.ediv_one, Int.zero_add]
    constructor <;> linarith
  | normal =>
    have elapsed := frameRate.frames_eq (time.toInt - targetOffset.toInt)
    have elapsedBelow := Int.mul_ediv_self_le
      (x := (time.toInt - targetOffset.toInt) * frameRate.frames) (k := 10 ^ 9) (by decide)
    have elapsedAbove := Int.lt_mul_ediv_self_add
      (x := (time.toInt - targetOffset.toInt) * frameRate.frames) (k := 10 ^ 9) (by decide)
    rw [elapsed]
    simp only [SinkRate.slope, ticks, UInt32.toNat_one, Nat.cast_one, Int.mul_one, Int.ediv_one]
    constructor <;> linarith

end FrameRate

end MojoMedia
