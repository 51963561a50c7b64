import MojoMedia.Audio.TrackPlayback
import Mathlib.Data.List.ReduceOption
import Mathlib.Algebra.BigOperators.Group.List.Lemmas
import Mathlib.Data.UInt

set_option autoImplicit false

namespace MojoMedia.Audio

open MachineInt Mixers

section Words

variable {config : Config} {kind : MixerKind} {job : CurMixJob}

end Words

variable {dst : Channels}

namespace MixTrack

variable (track : MixTrack dst) (job : CurMixJob)

-- The pass that the packets of the track are mixed in.
def pass (mixBuf : Nat → Int) : Pass :=
  { info := track.info.updateTrackTrans track.frameToMediaRatio track.rate track.generation
    mixBuf
    sampler := track.sampler }

def setup (info : TrackBookkeeping) : TrackBookkeeping :=
  info.updateOutputTrans job.toMixJob track.trackFrameOffset track.tmpStepSize

-- The calls of `Mix` that the track makes, with their arguments.
def calls (accumulate : Bool) (mixBuf : Nat → Int) :
    List (MixArgs ⟨dst, track.type, track.src⟩ × MixState) :=
  turnCalls track.kind job accumulate (track.setup job) false track.turns (track.pass mixBuf)

variable {track job}

end MixTrack

-- The sum over the tracks that are still there of their samples.
def total (job : CurMixJob) (tracks : List (Option (MixTrack dst))) (index : Nat) : Int :=
  (tracks.reduceOption.map fun track =>
    track.sample job (index / dst.count) (index % dst.count)).sum

end MojoMedia.Audio
