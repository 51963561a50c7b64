import MojoMedia.Audio.TrackSampling

set_option autoImplicit false

namespace MojoMedia.Audio

open MachineInt Mixers Sweep

variable {config : Config} {kind : MixerKind} {job : CurMixJob} {accumulate : Bool}

section Placements

variable {placement : Placement}

end Placements

def packetCalls (kind : MixerKind) (job : CurMixJob) (accumulate : Bool)
    (packet : MixPacket config) (amplitudeScale : UInt32) (firstSampleFtf : Int64) (pass : Pass) :
    List (MixArgs config × MixState) :=
  match mixEntry kind job packet firstSampleFtf pass with
  | .error _ => []
  | .ok entry =>
    mixCalls kind (pass.mixParams accumulate amplitudeScale)
      (pass.framesProduced * config.dst.count) entry.framesLeft packet.regions
      (pass.enter entry.outputOffset entry.inputOffset)

structure Heard (kind : MixerKind) (channels : Nat) (playback : Playback) (pass : Pass) : Prop where
  produced : pass.framesProduced = playback.produced
  agrees : Agrees kind channels playback.produced playback (pass.enter 0 0)

structure Timeline.Current (timeline : Timeline) (info : TrackBookkeeping) : Prop where
  outFramesToTrackFrames : info.outFramesToTrackFrames = timeline.outFramesToTrackFrames
  stepSize : info.stepSize = timeline.stepSize

section Packets

variable {timeline : Timeline} {turn : Turn config} {packet : MixPacket config} {pass : Pass}
  {placement : Placement} {playback : Playback}

end Packets

section Turns

variable {setup : TrackBookkeeping → TrackBookkeeping} {timeline : Timeline}

def Pass.ready (pass : Pass) (setup : TrackBookkeeping → TrackBookkeeping) (setupDone : Bool)
    (turn : Turn config) : Pass :=
  (pass.resetMixer turn.wasFlushed).setupMix setup setupDone

def turnCalls (kind : MixerKind) (job : CurMixJob) (accumulate : Bool)
    (setup : TrackBookkeeping → TrackBookkeeping) :
    Bool → List (Turn config) → Pass → List (MixArgs config × MixState)
  | _, [], _ => []
  | setupDone, turn :: rest, pass =>
    match turn.packet with
    | none => []
    | some packet =>
      packetCalls kind job accumulate packet turn.amplitudeScale turn.firstSampleFtf
          (pass.ready setup setupDone turn) ++
        match processMix kind job accumulate packet turn.amplitudeScale turn.firstSampleFtf
          (pass.ready setup setupDone turn) with
        | (false, _) => []
        | (true, next) => turnCalls kind job accumulate setup true rest next

theorem Pass.ready_framesProduced (pass : Pass) (setupDone : Bool) (turn : Turn config) :
    (pass.ready setup setupDone turn).framesProduced = pass.framesProduced := by
  cases setupDone <;> cases flushed : turn.wasFlushed <;>
    simp [Pass.ready, Pass.setupMix, Pass.resetMixer, flushed]

theorem Heard.ready {channels : Nat} {playback : Playback} {pass : Pass}
    (heard : Heard kind channels playback pass) (setupDone : Bool) (turn : Turn config) :
    Heard kind channels (playback.flushed turn) (pass.ready setup setupDone turn) := by
  obtain ⟨produced, buffer, filter, words, fresh⟩ := heard
  refine ⟨(pass.ready_framesProduced setupDone turn).trans produced, ?_⟩
  cases flushed : turn.wasFlushed with
  | false =>
    cases setupDone <;> (
      simp only [Pass.ready, Pass.setupMix, Pass.resetMixer, Playback.flushed, flushed]
      exact ⟨buffer, filter, words, fresh⟩)
  | true =>
    cases setupDone <;> (
      simp only [Pass.ready, Pass.setupMix, Pass.resetMixer, Playback.flushed, flushed]
      exact ⟨buffer, fun _ _ _ => rfl, fun _ => word_zero, fresh⟩)

end Turns

end MojoMedia.Audio
