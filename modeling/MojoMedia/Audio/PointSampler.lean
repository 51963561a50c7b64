import MojoMedia.Audio.LinearSampler

set_option autoImplicit false

namespace MojoMedia.Mixers

open MachineInt

namespace MixArgs

variable {config : Config}

def pointLoop (args : MixArgs config) : Nat → MixState → MixState
  | 0, state => state
  | fuel + 1, state =>
    if state.dstOffset < args.dstFrames ∧ state.fracSrcOffset < s32 args.fracSrcFrames then
      args.pointLoop fuel (args.emit state fun channel =>
        config.readFrom args.src (config.sourceIndex state.fracSrcOffset) channel)
    else state

def pointSkip (args : MixArgs config) (state : MixState) : MixState :=
  if state.dstOffset < args.dstFrames then
    let ahead := u32 ((args.fracSrcFrames : Int) - state.fracSrcOffset).toNat
    let srcAvail := u32 (u32 (ahead + args.fracStepSize) + (2 ^ 32 - 1)) / args.fracStepSize
    let avail := min srcAvail (args.dstFrames - state.dstOffset)
    { state with
      fracSrcOffset := s32 (state.fracSrcOffset + (u32 (avail * args.fracStepSize) : Nat))
      dstOffset := state.dstOffset + avail }
  else state

def pointMix (args : MixArgs config) (state : MixState) : Bool × MixState :=
  let next :=
    if args.scaler = .muted then args.pointSkip state
    else args.pointLoop (args.dstFrames - state.dstOffset) state
  (decide (s32 args.fracSrcFrames ≤ next.fracSrcOffset), next)

end MixArgs

end MojoMedia.Mixers
