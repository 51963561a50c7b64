import MojoMedia.Common.RateInvariant
import MojoMedia.Shared.Runs

set_option autoImplicit false

-- The source asserts that the offsets can be scaled. Where one cannot, the variable that would
-- take the result keeps what it held.
namespace MojoMedia.Audio

open Generations

def invalidGeneration : UInt32 := 0

structure MixJob where
  localToOutput : LinearTransform
  localToOutputGen : UInt32
  deriving Repr, DecidableEq

structure AlsaOutput where
  localToOutput : LinearTransform := {}
  localToOutputGen : UInt32 := invalidGeneration + 1
  deriving Repr, DecidableEq

def AlsaOutput.setLocalToOutput (self : AlsaOutput) (transform : LinearTransform) : AlsaOutput :=
  { localToOutput := transform, localToOutputGen := bump self.localToOutputGen }

def AlsaOutput.startMixJob (self : AlsaOutput) : MixJob :=
  { localToOutput := self.localToOutput, localToOutputGen := self.localToOutputGen }

structure TrackBookkeeping where
  ltToTrackFrames : LinearTransform := {}
  outFramesToTrackFrames : LinearTransform := {}
  ltToTrackFramesGen : UInt32 := 0
  outFramesToTrackFramesGen : UInt32 := invalidGeneration
  stepSize : UInt32
  deriving Repr, DecidableEq

def scaling (scale : Ratio) : LinearTransform := { scale, aZero := 0, bZero := 0 }

namespace TrackBookkeeping

def updateTrackTrans (info : TrackBookkeeping) (frameToMediaRatio : Ratio) (tmp : LinearTransform)
    (gen : UInt32) : TrackBookkeeping :=
  if info.ltToTrackFramesGen = gen then info
  else
    let scale := scaling frameToMediaRatio
    { info with
      ltToTrackFrames :=
        { aZero := tmp.aZero
          bZero := (scale.doForwardTransform tmp.bZero).getD info.ltToTrackFrames.bZero
          scale := (Ratio.compose scale.scale tmp.scale).1 }
      ltToTrackFramesGen := gen
      outFramesToTrackFramesGen := invalidGeneration }

-- The last two arguments are what the variables without an initial value hold.
def updateOutputTrans (info : TrackBookkeeping) (job : MixJob)
    (trackFrameOffset tmpStepSize : Int64) : TrackBookkeeping :=
  if info.outFramesToTrackFramesGen = job.localToOutputGen then info
  else
    let intermediate := job.localToOutput.aZero - info.ltToTrackFrames.aZero
    let tmp := scaling info.ltToTrackFrames.scale
    let trackFrameOffset := (tmp.doForwardTransform intermediate).getD trackFrameOffset
    let tmpRatio :=
      Ratio.reduced job.localToOutput.scale.denominator job.localToOutput.scale.numerator
    let scale := (Ratio.compose tmpRatio info.ltToTrackFrames.scale).1
    { info with
      outFramesToTrackFrames :=
        { aZero := job.localToOutput.bZero
          bZero := info.ltToTrackFrames.bZero + trackFrameOffset
          scale }
      stepSize :=
        if scale.numerator = 0 then 0
        else (((scaling scale).doForwardTransform 1).getD tmpStepSize).toUInt64.toUInt32
      outFramesToTrackFramesGen := job.localToOutputGen }

end TrackBookkeeping

def trackFrames (frameToMediaRatio : Ratio) (rate : LinearTransform) : Option LinearTransform :=
  ((scaling frameToMediaRatio).doForwardTransform rate.bZero).map fun bZero =>
    { aZero := rate.aZero
      bZero
      scale := (Ratio.compose frameToMediaRatio rate.scale).1 }

def stepOf (scale : Ratio) : Option UInt32 :=
  if scale.numerator = 0 then some 0
  else ((scaling scale).doForwardTransform 1).map fun step => step.toUInt64.toUInt32

def outputFrames (lt localToOutput : LinearTransform) : Option (LinearTransform × UInt32) := do
  let offset ← (scaling lt.scale).doForwardTransform (localToOutput.aZero - lt.aZero)
  let scale := (Ratio.compose
    (Ratio.reduced localToOutput.scale.denominator localToOutput.scale.numerator) lt.scale).1
  let step ← stepOf scale
  some ({ aZero := localToOutput.bZero, bZero := lt.bZero + offset, scale }, step)

namespace TrackBookkeeping

theorem updateTrackTrans_of_ne (info : TrackBookkeeping) (frameToMediaRatio : Ratio)
    (tmp : LinearTransform) (gen : UInt32) (differs : info.ltToTrackFramesGen ≠ gen) :
    (∀ lt, trackFrames frameToMediaRatio tmp = some lt →
      (info.updateTrackTrans frameToMediaRatio tmp gen).ltToTrackFrames = lt) ∧
    (info.updateTrackTrans frameToMediaRatio tmp gen).ltToTrackFramesGen = gen ∧
    (info.updateTrackTrans frameToMediaRatio tmp gen).outFramesToTrackFramesGen = 0 := by
  rw [updateTrackTrans, if_neg differs]
  refine ⟨?_, rfl, rfl⟩
  intro lt computed
  obtain ⟨bZero, scaled, rfl⟩ := Option.map_eq_some_iff.mp computed
  simp only [scaled, Option.getD_some]
  rfl

theorem updateOutputTrans_lt (info : TrackBookkeeping) (job : MixJob) (offset step : Int64) :
    (info.updateOutputTrans job offset step).ltToTrackFrames = info.ltToTrackFrames ∧
    (info.updateOutputTrans job offset step).ltToTrackFramesGen = info.ltToTrackFramesGen := by
  unfold updateOutputTrans
  split
  · exact ⟨rfl, rfl⟩
  · exact ⟨rfl, rfl⟩

theorem step_of_stepOf (scale : Ratio) (garbage : Int64) (stepSize : UInt32)
    (computed : stepOf scale = some stepSize) :
    (if scale.numerator = 0 then 0
      else (((scaling scale).doForwardTransform 1).getD garbage).toUInt64.toUInt32) =
      stepSize := by
  unfold stepOf at computed
  split at computed
  next zero =>
    rw [if_pos zero]
    exact Option.some.inj computed
  next nonzero =>
    obtain ⟨step, scaled, rfl⟩ := Option.map_eq_some_iff.mp computed
    rw [if_neg nonzero, scaled, Option.getD_some]

theorem updateOutputTrans_of_ne (info : TrackBookkeeping) (job : MixJob) (offset step : Int64)
    (differs : info.outFramesToTrackFramesGen ≠ job.localToOutputGen) :
    (∀ dst stepSize,
      outputFrames info.ltToTrackFrames job.localToOutput = some (dst, stepSize) →
        (info.updateOutputTrans job offset step).outFramesToTrackFrames = dst ∧
        (info.updateOutputTrans job offset step).stepSize = stepSize) ∧
    (info.updateOutputTrans job offset step).outFramesToTrackFramesGen =
      job.localToOutputGen := by
  rw [updateOutputTrans, if_neg differs]
  refine ⟨?_, rfl⟩
  intro dst stepSize computed
  simp only [outputFrames, Option.bind_eq_bind, Option.bind_eq_some_iff, Option.some.injEq,
    Prod.mk.injEq] at computed
  obtain ⟨scaled, offsetScaled, size, sizeComputed, rfl, rfl⟩ := computed
  refine ⟨?_, step_of_stepOf _ step size sizeComputed⟩
  simp only [offsetScaled, Option.getD_some]

end TrackBookkeeping

-- A track's rate control, an output and the bookkeeping of the link between them, with the
-- generation advances since the rate, and since the output's transform, was last looked at.
structure CachedLink where
  frameToMediaRatio : Ratio
  rateControl : RateControl := {}
  output : AlsaOutput := {}
  info : TrackBookkeeping
  rateChanges : Nat := 0
  outputChanges : Nat := 0
  deriving Repr, DecidableEq

inductive CacheEvent where
  | rate (event : RateEvent)
  | outputTransform (transform : LinearTransform)
  | trim (now : Int64)
  | mix (now trackFrameOffset tmpStepSize : Int64)
  deriving Repr, DecidableEq

namespace CachedLink

def handleRate (self : CachedLink) (event : RateEvent) : CachedLink :=
  { self with
    rateControl := self.rateControl.next event
    rateChanges := self.rateChanges + self.rateControl.advances event }

def setLocalToOutput (self : CachedLink) (transform : LinearTransform) : CachedLink :=
  { self with
    output := self.output.setLocalToOutput transform
    outputChanges := self.outputChanges + 1 }

def updateTrackTrans (self : CachedLink) (now : Int64) : CachedLink :=
  let (tmp, gen) := self.rateControl.reported now
  { self.handleRate (.snapshot now) with
    info := self.info.updateTrackTrans self.frameToMediaRatio tmp gen
    rateChanges := 0 }

def updateOutputTrans (self : CachedLink) (trackFrameOffset tmpStepSize : Int64) : CachedLink :=
  { self with
    info := self.info.updateOutputTrans self.output.startMixJob trackFrameOffset tmpStepSize
    outputChanges := 0 }

def step (self : CachedLink) : CacheEvent → Option CachedLink
  | .rate event => some (self.handleRate event)
  | .outputTransform transform => some (self.setLocalToOutput transform)
  | .trim now => some (self.updateTrackTrans now)
  | .mix now trackFrameOffset tmpStepSize =>
    some ((self.updateTrackTrans now).updateOutputTrans trackFrameOffset tmpStepSize)

def FewChanges (self : CachedLink) : CacheEvent → Prop
  | .rate _ | .outputTransform _ => True
  | .trim now => self.rateChanges + self.rateControl.advances (.snapshot now) < 2 ^ 32 - 1
  | .mix now _ _ =>
    self.rateChanges + self.rateControl.advances (.snapshot now) < 2 ^ 32 - 1 ∧
      self.outputChanges < 2 ^ 32 - 1

instance (self : CachedLink) : ∀ event, Decidable (self.FewChanges event)
  | .rate _ | .outputTransform _ => isTrue trivial
  | .trim _ => Nat.decLt _ _
  | .mix _ _ _ => inferInstanceAs (Decidable (_ ∧ _))

def TrackCurrent (self : CachedLink) : Prop :=
  ∀ lt, trackFrames self.frameToMediaRatio self.rateControl.currentTransform = some lt →
    self.info.ltToTrackFrames = lt

def OutputCurrent (self : CachedLink) : Prop :=
  ∀ dst stepSize,
    outputFrames self.info.ltToTrackFrames self.output.localToOutput = some (dst, stepSize) →
      self.info.outFramesToTrackFrames = dst ∧ self.info.stepSize = stepSize

structure Coherent (link : CachedLink) : Prop where
  rate : link.rateControl.generation ≠ 0
  job : link.output.localToOutputGen ≠ 0
  track : Stamped link.info.ltToTrackFramesGen link.rateControl.generation link.rateChanges
    link.TrackCurrent
  output : Stamped link.info.outFramesToTrackFramesGen link.output.localToOutputGen
    link.outputChanges link.OutputCurrent

section Steps

variable {self : CachedLink}

theorem Coherent.handleRate (coherent : Coherent self) (event : RateEvent) :
    Coherent (self.handleRate event) := by
  obtain ⟨generation, transform⟩ := @RateControl.next_advanced self.rateControl event
  have still : self.rateControl.advances event = 0 → self.TrackCurrent →
      (self.handleRate event).TrackCurrent := by
    intro none current lt computed
    apply current lt
    rw [← transform none]
    exact computed
  refine ⟨?_, coherent.job, ?_, coherent.output⟩
  · simp only [CachedLink.handleRate, generation]
    exact iterate_bump_ne_zero _ coherent.rate _
  · have track := coherent.track.advance (self.rateControl.advances event) still
    rwa [← generation] at track

theorem Coherent.setLocalToOutput (coherent : Coherent self) (transform : LinearTransform) :
    Coherent (self.setLocalToOutput transform) :=
  ⟨coherent.rate, bump_ne_zero _, coherent.track,
    coherent.output.advance 1 fun impossible => absurd impossible Nat.one_ne_zero⟩

theorem updateTrackTrans_current (coherent : Coherent self) (now : Int64)
    (few : self.FewChanges (.trim now)) :
    Coherent (self.updateTrackTrans now) ∧ (self.updateTrackTrans now).TrackCurrent := by
  have snapshot := coherent.handleRate (.snapshot now)
  by_cases same : self.info.ltToTrackFramesGen = (self.rateControl.reported now).2
  · have kept : self.updateTrackTrans now =
        { self.handleRate (.snapshot now) with rateChanges := 0 } := by
      simp only [updateTrackTrans, TrackBookkeeping.updateTrackTrans, same, if_true]
      rfl
    have current := snapshot.track.holds_of_eq snapshot.rate few same
    rw [kept]
    refine ⟨⟨snapshot.rate, snapshot.job, ?_, snapshot.output⟩, current⟩
    exact same ▸ Stamped.computed current
  · obtain ⟨current, trackGen, outputGen⟩ := self.info.updateTrackTrans_of_ne
      self.frameToMediaRatio (self.rateControl.reported now).1 _ same
    refine ⟨⟨snapshot.rate, snapshot.job, ?_, ?_⟩, current⟩
    · exact trackGen.symm ▸ Stamped.computed current
    · exact .inl outputGen

theorem updateOutputTrans_current (coherent : Coherent self) (current : self.TrackCurrent)
    (offset step : Int64) (few : self.outputChanges < 2 ^ 32 - 1) :
    Coherent (self.updateOutputTrans offset step) ∧
      (self.updateOutputTrans offset step).TrackCurrent ∧
      (self.updateOutputTrans offset step).OutputCurrent := by
  by_cases same : self.info.outFramesToTrackFramesGen = self.output.localToOutputGen
  · have kept : self.updateOutputTrans offset step = { self with outputChanges := 0 } := by
      have nothing : self.info.updateOutputTrans self.output.startMixJob offset step =
          self.info := by
        unfold TrackBookkeeping.updateOutputTrans
        exact if_pos same
      simp only [updateOutputTrans, nothing]
    have output := coherent.output.holds_of_eq coherent.job few same
    rw [kept]
    refine ⟨⟨coherent.rate, coherent.job, coherent.track, ?_⟩, current, output⟩
    exact same ▸ Stamped.computed output
  · obtain ⟨ltKept, ltGenKept⟩ :=
      self.info.updateOutputTrans_lt self.output.startMixJob offset step
    obtain ⟨computed, outputGen⟩ := self.info.updateOutputTrans_of_ne self.output.startMixJob
      offset step same
    have track : (self.updateOutputTrans offset step).TrackCurrent :=
      fun lt recomputed => ltKept.trans (current lt recomputed)
    have output : (self.updateOutputTrans offset step).OutputCurrent := by
      intro dst stepSize recomputed
      apply computed dst stepSize
      rw [← ltKept]
      exact recomputed
    refine ⟨⟨coherent.rate, coherent.job, ?_, ?_⟩, track, output⟩
    · exact ltGenKept.symm ▸ coherent.track.advance 0 fun _ _ => track
    · exact outputGen.symm ▸ Stamped.computed output

theorem step_coherent {next : CachedLink} (event : CacheEvent) (coherent : Coherent self)
    (few : self.FewChanges event) (taken : self.step event = some next) : Coherent next := by
  cases event with
  | rate event =>
    obtain rfl := Option.some.inj taken
    exact coherent.handleRate event
  | outputTransform transform =>
    obtain rfl := Option.some.inj taken
    exact coherent.setLocalToOutput transform
  | trim now =>
    obtain rfl := Option.some.inj taken
    exact (updateTrackTrans_current coherent now few).1
  | mix now offset step =>
    obtain rfl := Option.some.inj taken
    obtain ⟨tracked, current⟩ := updateTrackTrans_current coherent now few.1
    exact (updateOutputTrans_current tracked current offset step few.2).1

end Steps

def initial (frameToMediaRatio : Ratio) (stepSize : UInt32) : CachedLink :=
  { frameToMediaRatio, info := { stepSize } }

theorem initial_coherent (frameToMediaRatio : Ratio) (stepSize : UInt32) :
    Coherent (initial frameToMediaRatio stepSize) :=
  ⟨(by decide : (1 : UInt32) ≠ 0), (by decide : (1 : UInt32) ≠ 0), Stamped.invalid,
    Stamped.invalid⟩

-- In every run with fewer changes between two calls than there are generations, what a mix leaves
-- in the bookkeeping is what computing it again from the track's rate and the output's transform
-- gives, wherever that can be computed.
theorem cached_transforms_current (frameToMediaRatio : Ratio) (stepSize : UInt32)
    (events : List CacheEvent) (state : CachedLink)
    (few : Runs.Meets step FewChanges (initial frameToMediaRatio stepSize) events)
    (reached : Runs.run step (initial frameToMediaRatio stepSize) events = some state)
    (now trackFrameOffset tmpStepSize : Int64) (final : CachedLink)
    (fewNow : state.FewChanges (.mix now trackFrameOffset tmpStepSize))
    (mixed : state.step (.mix now trackFrameOffset tmpStepSize) = some final) :
    ∀ lt, trackFrames final.frameToMediaRatio final.rateControl.currentTransform = some lt →
      final.info.ltToTrackFrames = lt ∧
      ∀ dst size, outputFrames lt final.output.localToOutput = some (dst, size) →
        final.info.outFramesToTrackFrames = dst ∧ final.info.stepSize = size := by
  have coherent : Coherent state := by
    apply Runs.invariant_of_step step FewChanges Coherent _ _ state events
      (initial_coherent frameToMediaRatio stepSize) few reached
    intro before event after holds fewer taken
    exact step_coherent event holds fewer taken
  obtain rfl := Option.some.inj mixed
  obtain ⟨tracked, trackCurrent⟩ := updateTrackTrans_current coherent now fewNow.1
  obtain ⟨-, track, output⟩ := updateOutputTrans_current tracked trackCurrent trackFrameOffset
    tmpStepSize fewNow.2
  intro lt computed
  obtain rfl := track lt computed
  exact ⟨rfl, output⟩

theorem doubled_rate_recomputed :
    ∃ state final : CachedLink,
      Runs.run step (initial ⟨4096, 1⟩ 0)
        [.rate (.setRate 1 1 0), .outputTransform ⟨⟨1, 1⟩, 5, 0⟩, .mix 10 7 7,
          .rate (.setRate 2 1 20), .trim 25, .outputTransform ⟨⟨1, 1⟩, 30, 0⟩] = some state ∧
      state.step (.mix 40 7 7) = some final ∧
      final.info.ltToTrackFrames = ⟨⟨8192, 1⟩, 20, 81920⟩ ∧
      final.info.outFramesToTrackFrames = ⟨⟨8192, 1⟩, 0, 163840⟩ ∧
      final.info.stepSize = 8192 := by
  let events : List CacheEvent :=
    [.rate (.setRate 1 1 0), .outputTransform ⟨⟨1, 1⟩, 5, 0⟩, .mix 10 7 7,
      .rate (.setRate 2 1 20), .trim 25, .outputTransform ⟨⟨1, 1⟩, 30, 0⟩]
  have outcome : (Runs.run step (initial ⟨4096, 1⟩ 0) events).any (fun state =>
      decide (state.FewChanges (.mix 40 7 7)) &&
        (state.step (.mix 40 7 7)).any (fun final =>
          trackFrames final.frameToMediaRatio final.rateControl.currentTransform ==
            some ⟨⟨8192, 1⟩, 20, 81920⟩ &&
          outputFrames ⟨⟨8192, 1⟩, 20, 81920⟩ final.output.localToOutput ==
            some (⟨⟨8192, 1⟩, 0, 163840⟩, 8192))) = true := by
    decide +kernel
  have few : Runs.Meets step FewChanges (initial ⟨4096, 1⟩ 0) events := by decide +kernel
  obtain ⟨state, reached, checked⟩ := (Option.any_eq_true _ _).mp outcome
  obtain ⟨fewNow, mixes⟩ := Bool.and_eq_true_iff.mp checked
  obtain ⟨final, mixed, computed⟩ := (Option.any_eq_true _ _).mp mixes
  obtain ⟨track, output⟩ := Bool.and_eq_true_iff.mp computed
  obtain ⟨lt, current⟩ := cached_transforms_current ⟨4096, 1⟩ 0 events state few reached 40 7 7
    final (of_decide_eq_true fewNow) mixed _ (beq_iff_eq.mp track)
  obtain ⟨dst, size⟩ := current _ _ (beq_iff_eq.mp output)
  exact ⟨state, final, reached, mixed, lt, dst, size⟩

end CachedLink

end MojoMedia.Audio
