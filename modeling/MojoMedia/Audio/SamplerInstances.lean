import MojoMedia.Audio.PointSampler

set_option autoImplicit false

namespace MojoMedia.Mixers

open MachineInt

structure Instance (config : Config) where
  scaleType : ScalerType
  doAccumulate : Bool
  dst : Nat
  dstFrames : Nat
  src : config.Buffer
  fracSrcFrames : Nat
  fracStepSize : Nat
  amplitudeScale : Nat

structure InstanceState where
  mixBuf : Nat → Int
  filterData : Nat → Int
  doff : Nat
  soff : Int
  reads : List Nat := []
  writes : List Nat := []

namespace Config

variable (config : Config)

def readIndices (index : Nat) : List Nat :=
  match config.dst, config.src with
  | .mono, .stereo => [index, index + 1]
  | _, _ => [index]

def frameReads (index : Nat) : List Nat :=
  (List.range config.dst.count).flatMap fun channel =>
    config.readIndices (index + channel / config.dstPerSrc)

def pairReads (index : Nat) : List Nat :=
  (List.range config.dst.count).flatMap fun channel =>
    config.readIndices (index + channel / config.dstPerSrc) ++
      config.readIndices (index + channel / config.dstPerSrc + config.src.count)

end Config

namespace Instance

variable {config : Config} (call : Instance config)

def send : Int := s32 ((call.fracSrcFrames : Int) - fracOne)

def mixFrame (mixBuf : Nat → Int) (frame : Nat) (sample : Nat → Int) : Nat → Int :=
  let out := call.dst + frame * config.dst.count
  fun index =>
    if out ≤ index ∧ index < out + config.dst.count then
      mixSample call.scaleType call.doAccumulate (mixBuf index) (sample (index - out))
        call.amplitudeScale
    else mixBuf index

def emit (state : InstanceState) (reads : List Nat) (sample : Nat → Int) : InstanceState :=
  { state with
    mixBuf := call.mixFrame state.mixBuf state.doff sample
    doff := state.doff + 1
    soff := s32 (state.soff + call.fracStepSize)
    reads := state.reads ++ reads
    writes := state.writes ++
      (List.range config.dst.count).map (call.dst + state.doff * config.dst.count + ·) }

def loadFirst (state : InstanceState) : InstanceState :=
  { state with
    filterData := fun index =>
      if config.dst.count ≤ index ∧ index < 2 * config.dst.count then
        config.read call.src ((index - config.dst.count) / config.dstPerSrc)
      else state.filterData index
    reads := state.reads ++ config.frameReads 0 }

def saveLast (state : InstanceState) : InstanceState :=
  let first := config.sourceIndex call.send
  { state with
    filterData := fun index =>
      if index < config.dst.count then config.read call.src (first + index / config.dstPerSrc)
      else state.filterData index
    reads := state.reads ++ config.frameReads first }

def negativeFrame (state : InstanceState) : InstanceState :=
  call.emit state [] fun channel =>
    interpolate (state.filterData (config.dst.count + channel)) (state.filterData channel)
      (-state.soff).toNat

def pairFrame (state : InstanceState) : InstanceState :=
  let first := config.sourceIndex state.soff
  call.emit state (config.pairReads first) fun channel =>
    interpolate (config.read call.src (first + channel / config.dstPerSrc))
      (config.read call.src (first + channel / config.dstPerSrc + config.src.count))
      (state.soff % fracOne).toNat

def singleFrame (state : InstanceState) : InstanceState :=
  let first := config.sourceIndex state.soff
  call.emit state (config.frameReads first) fun channel =>
    config.read call.src (first + channel / config.dstPerSrc)

def negativeLoop (state : InstanceState) : InstanceState :=
  if (call.negativeFrame state).doff < call.dstFrames ∧ (call.negativeFrame state).soff < 0 then
    negativeLoop (call.negativeFrame state)
  else call.negativeFrame state
termination_by call.dstFrames - state.doff
decreasing_by simp only [negativeFrame, emit] at *; omega

def pairLoop (state : InstanceState) : InstanceState :=
  if state.doff < call.dstFrames ∧ state.soff < call.send then pairLoop (call.pairFrame state)
  else state
termination_by call.dstFrames - state.doff
decreasing_by simp only [pairFrame, emit]; omega

-- Frames up to `limit` are counted in 32 bits, and none are counted with a step of zero.
def skip (limit : Int) (state : InstanceState) : Option InstanceState :=
  if call.fracStepSize = 0 then none
  else
    let ahead := u32 (limit - state.soff).toNat
    let srcAvail := u32 (u32 (ahead + call.fracStepSize) + (2 ^ 32 - 1)) / call.fracStepSize
    let avail := min srcAvail (call.dstFrames - state.doff)
    some { state with
      soff := s32 (state.soff + (u32 (avail * call.fracStepSize) : Nat))
      doff := state.doff + avail }

def linearBody (state : InstanceState) : InstanceState :=
  call.pairLoop
    (if state.soff < 0 then call.negativeLoop (call.loadFirst state) else state)

def linearSkip (state : InstanceState) : Option InstanceState :=
  if state.doff < call.dstFrames ∧ state.soff < call.send then call.skip call.send state
  else some state

def finalFrame (state : InstanceState) : InstanceState :=
  if state.doff < call.dstFrames ∧ state.soff = call.send then
    if call.scaleType = .muted then
      { state with
        doff := state.doff + 1
        soff := s32 (state.soff + call.fracStepSize) }
    else call.singleFrame state
  else state

def finish (state : InstanceState) : Bool × InstanceState :=
  if call.send ≤ state.soff then (decide (state.doff < call.dstFrames), call.saveLast state)
  else (false, state)

def linearMix (state : InstanceState) : Option (Bool × InstanceState) :=
  (if call.scaleType = .muted then call.linearSkip state else some (call.linearBody state)).map
    fun produced => call.finish (call.finalFrame produced)

def pointLoop (state : InstanceState) : InstanceState :=
  if state.doff < call.dstFrames ∧ state.soff < s32 call.fracSrcFrames then
    pointLoop (call.singleFrame state)
  else state
termination_by call.dstFrames - state.doff
decreasing_by simp only [singleFrame, emit]; omega

def pointSkip (state : InstanceState) : Option InstanceState :=
  if state.doff < call.dstFrames then call.skip call.fracSrcFrames state else some state

def pointMix (state : InstanceState) : Option (Bool × InstanceState) :=
  (if call.scaleType = .muted then call.pointSkip state else some (call.pointLoop state)).map
    fun produced => (decide (s32 call.fracSrcFrames ≤ produced.soff), produced)

end Instance

end MojoMedia.Mixers
