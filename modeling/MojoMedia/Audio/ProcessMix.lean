import MojoMedia.Audio.MixRegions
import MojoMedia.Audio.PointSampler
import MojoMedia.Audio.TransformCache
import Mathlib.Data.List.ReduceOption

set_option autoImplicit false

-- Assertions are not part of the model: a value that one of them excludes is computed with as the
-- code computes with it.
namespace MojoMedia.Audio

open MachineInt Mixers

inductive MixerKind where
  | pointSampler
  | linearSampler
  deriving Repr, DecidableEq

namespace MixerKind

def posFilterWidth : MixerKind → Int64
  | .pointSampler => 0
  | .linearSampler => 4095

def negFilterWidth : MixerKind → Int64
  | .pointSampler => 4095
  | .linearSampler => 4095

def mix {config : Config} (kind : MixerKind) (args : MixArgs config) (state : MixState) :
    Bool × MixState :=
  match kind with
  | .pointSampler => args.pointMix state
  | .linearSampler => args.mix state

end MixerKind

structure CurMixJob extends MixJob where
  bufFrames : UInt32
  startPtsOf : Int64
  deriving Repr, DecidableEq

structure PacketRegion (config : Config) where
  data : config.Buffer
  fracFrameLen : UInt32

structure MixPacket (config : Config) where
  startPts : Int64
  endPts : Int64
  regions : List (PacketRegion config)

-- What one turn of the packet loop finds at the front of the link's queue, and the gain
-- it mixes with. `firstSampleFtf` is what that variable holds without a value.
structure Turn (config : Config) where
  wasFlushed : Bool := false
  packet : Option (MixPacket config)
  amplitudeScale : UInt32
  firstSampleFtf : Int64 := 0

structure MixCall where
  kind : MixerKind
  fracSrcOffset : Int
  fracStepSize : Nat
  deriving Repr, DecidableEq

structure Pass where
  info : TrackBookkeeping
  framesProduced : Nat := 0
  mixBuf : Nat → Int
  sampler : LinearSampler
  calls : List MixCall := []

section Track

variable {config : Config}

def skipRegion (state : MixState) (fracFrameLen : UInt32) : MixState :=
  { state with fracSrcOffset := s32 (state.fracSrcOffset - fracFrameLen.toNat) }

-- The region loop. The flag says that all regions have been consumed.
def mixRegions (kind : MixerKind) (params : MixParams) (dst dstFrames : Nat) :
    List (PacketRegion config) → MixState → Bool × MixState × List MixCall
  | [], state => (true, state, [])
  | region :: rest, state =>
    if s32 region.fracFrameLen.toNat ≤ state.fracSrcOffset then
      mixRegions kind params dst dstFrames rest (skipRegion state region.fracFrameLen)
    else
      let call := ⟨kind, state.fracSrcOffset, params.fracStepSize⟩
      match kind.mix (params.args dst dstFrames region.data region.fracFrameLen.toNat) state with
      | (false, next) => (false, next, [call])
      | (true, next) =>
        let (consumed, final, calls) :=
          mixRegions kind params dst dstFrames rest (skipRegion next region.fracFrameLen)
        (consumed, final, call :: calls)

def Pass.enter (pass : Pass) (outputOffset inputOffset : Int64) : MixState :=
  { mixBuf := pass.mixBuf
    dstOffset := outputOffset.toUInt64.toUInt32.toNat
    fracSrcOffset := s32 inputOffset.toInt
    sampler := pass.sampler }

def Pass.leave (pass : Pass) (result : Bool × MixState × List MixCall) : Bool × Pass :=
  let (consumed, state, calls) := result
  (consumed, { pass with
    mixBuf := state.mixBuf
    sampler := state.sampler
    calls := pass.calls ++ calls
    framesProduced :=
      if consumed then pass.framesProduced + state.dstOffset else pass.framesProduced })

def mixPacket (kind : MixerKind) (params : MixParams) (framesLeft : Nat)
    (packet : MixPacket config) (outputOffset inputOffset : Int64) (pass : Pass) : Bool × Pass :=
  pass.leave (mixRegions kind params (pass.framesProduced * config.dst.count) framesLeft
    packet.regions (pass.enter outputOffset inputOffset))

def processMix (kind : MixerKind) (job : CurMixJob) (accumulate : Bool) (packet : MixPacket config)
    (amplitudeScale : UInt32) (firstSampleFtf : Int64) (pass : Pass) : Bool × Pass :=
  if pass.info.stepSize = 0 then (false, pass)
  else if job.bufFrames.toNat ≤ pass.framesProduced then (false, pass)
  else
    let framesLeft := job.bufFrames.toNat - pass.framesProduced
    let stepSize := Int64.ofNat pass.info.stepSize.toNat
    let firstSampleFtf := (pass.info.outFramesToTrackFrames.doForwardTransform
      (job.startPtsOf + Int64.ofNat pass.framesProduced)).getD firstSampleFtf
    let finalSampleFtf := firstSampleFtf + Int64.ofNat (framesLeft - 1) * stepSize
    if packet.endPts = packet.startPts then (true, pass)
    else if packet.endPts - Int64.ofNat fracOne < firstSampleFtf - kind.negFilterWidth then
      (true, pass)
    else if finalSampleFtf + kind.posFilterWidth < packet.startPts then (false, pass)
    else
      let windowEdge := firstSampleFtf + kind.posFilterWidth
      -- Output frames before the packet are left out.
      let outputOffset :=
        if windowEdge < packet.startPts then
          (packet.startPts - windowEdge + stepSize - 1) / stepSize
        else 0
      mixPacket kind
        { fracStepSize := pass.info.stepSize.toNat
          amplitudeScale := amplitudeScale.toNat
          accumulate }
        framesLeft packet outputOffset
        (firstSampleFtf - packet.startPts + outputOffset * stepSize) pass

def Pass.resetMixer (pass : Pass) (wasFlushed : Bool) : Pass :=
  if wasFlushed then { pass with sampler := {} } else pass

def Pass.setupMix (pass : Pass) (setup : TrackBookkeeping → TrackBookkeeping)
    (setupDone : Bool) : Pass :=
  if setupDone then pass else { pass with info := setup pass.info }

def processTurns (kind : MixerKind) (job : CurMixJob) (accumulate : Bool)
    (setup : TrackBookkeeping → TrackBookkeeping) :
    Bool → List (Turn config) → Pass → Pass
  | _, [], pass => pass
  | setupDone, turn :: rest, pass =>
    match turn.packet with
    | none => pass.resetMixer turn.wasFlushed
    | some packet =>
      match processMix kind job accumulate packet turn.amplitudeScale turn.firstSampleFtf
        ((pass.resetMixer turn.wasFlushed).setupMix setup setupDone) with
      | (false, pass) => pass
      | (true, pass) => processTurns kind job accumulate setup true rest pass

end Track

-- A track with its link to the output. The last two fields are what variables of
-- `UpdateOutputTrans` hold without a value.
structure MixTrack (dst : Channels) where
  type : SType
  src : Channels
  kind : MixerKind
  sampler : LinearSampler := {}
  filtered : ∀ index, -0x8000 ≤ sampler.filterData index ∧ sampler.filterData index ≤ 0x7fff
  frameToMediaRatio : Ratio
  rate : LinearTransform
  generation : UInt32
  info : TrackBookkeeping
  turns : List (Turn ⟨dst, type, src⟩)
  trackFrameOffset : Int64 := 0
  tmpStepSize : Int64 := 0

variable {dst : Channels}

def MixTrack.mix (track : MixTrack dst) (job : CurMixJob) (accumulate : Bool)
    (mixBuf : Nat → Int) : Pass :=
  let setup := fun info : TrackBookkeeping =>
    info.updateOutputTrans job.toMixJob track.trackFrameOffset track.tmpStepSize
  processTurns track.kind job accumulate setup false track.turns
    { info := track.info.updateTrackTrans track.frameToMediaRatio track.rate track.generation
      mixBuf
      sampler := track.sampler }

def convert : (type : SType) → Int → type.Sample
  | .int16, sample => Int16.ofInt sample
  | .uint8, sample => UInt8.ofNat ((sample / 2 ^ 8 + 0x80) % 2 ^ 8).toNat

def silence : Nat → Int := fun _ => 0

end MojoMedia.Audio
