import MojoMedia.Audio.PacketEntry
import MojoMedia.Audio.PointSamplerSweep

set_option autoImplicit false

namespace MojoMedia.Audio

open Mixers

def clamp (value : Int) : Int := max (-0x8000) (min 0x7fff value)

-- A sample at an amplitude with 28 fractional bits. Below 2 ^ 13 it is not heard.
def amplified (amplitudeScale : Nat) (value : Int) : Int :=
  if amplitudeScale < Gain.muteThreshold 15 then 0
  else clamp (value * amplitudeScale / 2 ^ Gain.fractionalBits)

namespace MixerKind

-- A sampler reaches positions that are less than its span before a source.
def span : MixerKind → Int
  | .pointSampler => 1
  | .linearSampler => fracOne

-- What is heard at a position of a source. `saved` is the frame before it.
def value (kind : MixerKind) (config : Config) (src : config.Buffer) (saved : Nat → Int)
    (position : Int) (channel : Nat) : Int :=
  match kind with
  | .pointSampler => nearest config src position channel
  | .linearSampler => signal config src saved position channel

end MixerKind

-- Where the frames of a job fall on a source, from the first that has not been produced.
structure Placement where
  amplitudeScale : Nat
  step : Nat
  produced : Nat
  frames : Nat
  offset : Int
  deriving Repr, DecidableEq

namespace Placement

variable (placement : Placement) (kind : MixerKind) (length : Nat)

def position (frame : Nat) : Int :=
  placement.offset + ((frame : Int) - placement.produced) * placement.step

def Samples (frame : Nat) : Prop :=
  (placement.produced ≤ frame ∧ frame < placement.frames) ∧
    -kind.span < placement.position frame ∧ placement.position frame ≤ length - kind.span

-- The sampler comes to the source at this frame, whether or not it is sampled there.
def Meets (frame : Nat) : Prop :=
  (placement.produced ≤ frame ∧ frame < placement.frames) ∧
    -kind.span < placement.position frame ∧ placement.position frame < length

-- The source is neither over before the first of the frames nor begins behind the last.
def Reaches : Prop :=
  placement.offset < length ∧ -kind.span < placement.position (placement.frames - 1)

-- Behind each position that is sampled, there is another one that fits 32 bits.
def Steady : Prop :=
  ∀ frame < placement.frames, placement.Samples kind length frame →
    placement.position frame + placement.step < 2 ^ 31

-- How many of the frames fall on the source or before it.
def takes : Nat :=
  Sweep.count placement.step placement.frames (length - kind.span) placement.produced
    placement.offset

def after : Placement := { placement with offset := placement.offset - length }

instance (frame : Nat) : Decidable (placement.Samples kind length frame) :=
  inferInstanceAs (Decidable ((_ ∧ _) ∧ _ ∧ _))

instance (frame : Nat) : Decidable (placement.Meets kind length frame) :=
  inferInstanceAs (Decidable ((_ ∧ _) ∧ _ ∧ _))

instance : Decidable (placement.Reaches kind length) := inferInstanceAs (Decidable (_ ∧ _))

instance : Decidable (placement.Steady kind length) := inferInstanceAs (Decidable (∀ _ < _, _))

end Placement

-- The samples of a track by frame and channel, as far as it has been followed, and the last
-- frame of the region that was met last.
structure Playback where
  produced : Nat := 0
  saved : Nat → Int
  sample : Nat → Nat → Int := fun _ _ => 0

section Regions

variable {config : Config} (kind : MixerKind)

def PacketRegion.lastFrame (region : PacketRegion config) (channel : Nat) : Int :=
  config.readFrame region.data (region.fracFrameLen.toNat / fracOne - 1) channel

def playRegion (placement : Placement) (region : PacketRegion config) (playback : Playback) :
    Playback :=
  { playback with
    saved :=
      if ∃ frame < placement.frames, placement.Meets kind region.fracFrameLen.toNat frame then
        region.lastFrame
      else playback.saved
    sample := fun frame channel =>
      if placement.Samples kind region.fracFrameLen.toNat frame then
        amplified placement.amplitudeScale
          (kind.value config region.data playback.saved (placement.position frame) channel)
      else playback.sample frame channel }

-- Each region begins where the one before it ends.
def playRegions : Placement → List (PacketRegion config) → Playback → Playback
  | _, [], playback => playback
  | placement, region :: rest, playback =>
    playRegions (placement.after region.fracFrameLen.toNat) rest
      (playRegion kind placement region playback)

-- The region has the frames that its length says.
structure PacketRegion.Whole (region : PacketRegion config) : Prop where
  frames : fracOne ∣ region.fracFrameLen.toNat
  data : region.data.length = region.fracFrameLen.toNat / fracOne * config.src.count
  source : kind = .linearSampler → 0 < region.fracFrameLen.toNat

end Regions

section Turns

variable {config : Config} (kind : MixerKind) (job : CurMixJob)

-- From output frames to track frames, with the step of one output frame.
structure Timeline where
  outFramesToTrackFrames : LinearTransform
  stepSize : UInt32
  deriving Repr, DecidableEq

def Timeline.place (timeline : Timeline) (turn : Turn config) (packet : MixPacket config)
    (produced : Nat) : Option Placement :=
  (timeline.outFramesToTrackFrames.doForwardTransform
    (job.startPtsOf + Int64.ofNat produced)).map fun first =>
      { amplitudeScale := turn.amplitudeScale.toNat
        step := timeline.stepSize.toNat
        produced
        frames := job.bufFrames.toNat
        offset := first.toInt - packet.startPts.toInt }

-- A packet takes up the frames that fall on it or before it. A track that stands still and a
-- packet without frames take up none.
def playPacket (timeline : Timeline) (turn : Turn config) (packet : MixPacket config)
    (playback : Playback) : Playback :=
  match timeline.place job turn packet playback.produced with
  | none => playback
  | some placement =>
    if timeline.stepSize = 0 ∨ packet.fracLength = 0 then playback
    else
      { playRegions kind placement packet.regions playback with
        produced := playback.produced + placement.takes kind packet.fracLength }

-- A flush forgets the frame before.
def Playback.flushed (playback : Playback) (turn : Turn config) : Playback :=
  { playback with saved := if turn.wasFlushed then fun _ => 0 else playback.saved }

def playTurn (timeline : Timeline) (turn : Turn config) (packet : MixPacket config)
    (playback : Playback) : Playback :=
  playPacket kind job timeline turn packet (playback.flushed turn)

def playTurns (timeline : Timeline) : List (Turn config) → Playback → Playback
  | [], playback => playback
  | turn :: rest, playback =>
    match turn.packet with
    | none => playback
    | some packet => playTurns timeline rest (playTurn kind job timeline turn packet playback)

-- Nothing of the packet is mixed, wherever it is.
def Idle (timeline : Timeline) (packet : MixPacket config) (produced : Nat) : Prop :=
  timeline.stepSize = 0 ∨ job.bufFrames.toNat ≤ produced ∨
    packet.endPts = packet.startPts ∧ packet.fracLength = 0

end Turns

namespace MixTrack

variable {dst : Channels} (track : MixTrack dst) (job : CurMixJob)

-- The transforms of the track in this job, unless one cannot be computed.
def timeline : Option Timeline :=
  let info := track.info.updateTrackTrans track.frameToMediaRatio track.rate track.generation
  if info.outFramesToTrackFramesGen = job.localToOutputGen then
    some ⟨info.outFramesToTrackFrames, info.stepSize⟩
  else
    (outputFrames info.ltToTrackFrames job.localToOutput).map fun (frames, step) => ⟨frames, step⟩

def beginning : Playback := { saved := track.sampler.filterData }

def playback : Playback :=
  match track.timeline job with
  | none => track.beginning
  | some timeline => playTurns track.kind job timeline track.turns track.beginning

-- The sample of the track at a frame of the job and a channel, at its amplitude.
def sample (frame channel : Nat) : Int := (track.playback job).sample frame channel

end MixTrack

end MojoMedia.Audio
