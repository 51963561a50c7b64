import MojoMedia.Common.RatioCompose
import MojoMedia.Audio.TransformCache

set_option autoImplicit false

namespace MojoMedia.Audio

def Singular (scale : Ratio) : Prop := ∀ time, (scaling scale).doForwardTransform time = none

theorem singular_iff (scale : Ratio) : Singular scale ↔ scale.denominator = 0 := by
  constructor
  · intro singular
    by_contra valid
    have zero := (scaling scale).forward_aZero valid
    cases (singular 0).symm.trans zero
  · exact fun zero time => if_pos zero

namespace TrackBookkeeping

theorem updateTrackTrans_scale (info : TrackBookkeeping) (frameToMediaRatio : Ratio)
    (tmp : LinearTransform) (gen : UInt32) (differs : info.ltToTrackFramesGen ≠ gen) :
    (info.updateTrackTrans frameToMediaRatio tmp gen).ltToTrackFrames.scale =
      (Ratio.compose frameToMediaRatio tmp.scale).1 := by
  rw [updateTrackTrans, if_neg differs]
  rfl

def jobRatio (job : MixJob) : Ratio :=
  Ratio.reduced job.localToOutput.scale.denominator job.localToOutput.scale.numerator

theorem updateOutputTrans_scale (info : TrackBookkeeping) (job : MixJob) (offset step : Int64)
    (differs : info.outFramesToTrackFramesGen ≠ job.localToOutputGen) :
    (info.updateOutputTrans job offset step).outFramesToTrackFrames.scale =
      (Ratio.compose (jobRatio job) info.ltToTrackFrames.scale).1 := by
  rw [updateOutputTrans, if_neg differs]
  rfl

-- Composing two ratios, and so each of the two transforms that are installed, is singular exactly
-- when the doubled numerator outgrows the denominator by 32 bits.
theorem never_singular_iff (a b : Ratio) (valid : a.denominator ≠ 0 ∧ b.denominator ≠ 0) :
    ((Ratio.compose a b).1.denominator ≠ 0 ↔ ¬ Ratio.Vanishes (Ratio.exactProduct a b)) ∧
    (∀ (info : TrackBookkeeping) (tmp : LinearTransform) (gen : UInt32),
      tmp.scale = b → info.ltToTrackFramesGen ≠ gen →
      (¬ Singular (info.updateTrackTrans a tmp gen).ltToTrackFrames.scale ↔
        ¬ Ratio.Vanishes (Ratio.exactProduct a b))) ∧
    ∀ (info : TrackBookkeeping) (job : MixJob) (offset step : Int64),
      jobRatio job = a → info.ltToTrackFrames.scale = b →
      info.outFramesToTrackFramesGen ≠ job.localToOutputGen →
      (¬ Singular (info.updateOutputTrans job offset step).outFramesToTrackFrames.scale ∧
        (info.updateOutputTrans job offset step).outFramesToTrackFrames.scale.denominator ≠ 0 ↔
        ¬ Ratio.Vanishes (Ratio.exactProduct a b)) := by
  have composed := Ratio.compose_denominator valid
  refine ⟨composed, ?_, ?_⟩
  · rintro info tmp gen rfl differs
    rw [singular_iff, updateTrackTrans_scale _ _ _ _ differs]
    exact composed
  · rintro info job offset step rfl rfl differs
    rw [singular_iff, updateOutputTrans_scale _ _ _ _ differs, ne_eq, and_self]
    exact composed

theorem never_singular_iff_ordinary :
    (Ratio.compose ⟨3, 4⟩ ⟨2, 9⟩).1.denominator ≠ 0 ∧
    ¬ Singular (({ stepSize := 0 } : TrackBookkeeping).updateTrackTrans ⟨3, 4⟩
      ⟨⟨2, 9⟩, 0, 0⟩ 1).ltToTrackFrames.scale ∧
    (({ stepSize := 0, ltToTrackFrames := ⟨⟨2, 9⟩, 0, 0⟩ } : TrackBookkeeping).updateOutputTrans
      ⟨⟨⟨4, 3⟩, 0, 0⟩, 1⟩ 0 0).outFramesToTrackFrames.scale.denominator ≠ 0 :=
  have meets := never_singular_iff ⟨3, 4⟩ ⟨2, 9⟩ (by decide)
  ⟨meets.1.mpr (by decide +kernel),
    (meets.2.1 _ _ _ rfl (by decide)).mpr (by decide +kernel),
    ((meets.2.2 _ _ _ _ (by decide +kernel) rfl (by decide)).mpr (by decide +kernel)).2⟩

theorem fast_track_singular :
    ¬ (Ratio.compose ⟨4096, 1⟩ ⟨2 ^ 20, 1⟩).1.denominator ≠ 0 ∧
    Singular (({ stepSize := 0 } : TrackBookkeeping).updateTrackTrans ⟨4096, 1⟩
      ⟨⟨2 ^ 20, 1⟩, 0, 0⟩ 1).ltToTrackFrames.scale := by
  rw [singular_iff]
  decide +kernel

end TrackBookkeeping

end MojoMedia.Audio
