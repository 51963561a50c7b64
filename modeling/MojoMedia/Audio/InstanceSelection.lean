import MojoMedia.Audio.SamplerBounds

set_option autoImplicit false

namespace MojoMedia.Mixers

open MachineInt Loops Audio

variable {config : Config}

def MixArgs.selected (args : MixArgs config) : Instance config where
  scaleType := args.scaler
  doAccumulate := args.accumulates
  dst := args.dst
  dstFrames := args.dstFrames
  src := args.src
  fracSrcFrames := args.fracSrcFrames
  fracStepSize := args.fracStepSize
  amplitudeScale := args.amplitudeScale

def MixState.started (state : MixState) : InstanceState where
  mixBuf := state.mixBuf
  filterData := state.sampler.filterData
  doff := state.dstOffset
  soff := state.fracSrcOffset

def InstanceState.left (state : InstanceState) : MixState where
  mixBuf := state.mixBuf
  dstOffset := state.doff
  fracSrcOffset := state.soff
  sampler := ⟨state.filterData⟩

@[simp] theorem MixState.left_started (state : MixState) : state.started.left = state := rfl

namespace Instance

variable (args : MixArgs config)

variable {args} {state : InstanceState}

end Instance

end MojoMedia.Mixers
