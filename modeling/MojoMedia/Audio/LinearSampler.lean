import MojoMedia.Audio.MixerUtils

set_option autoImplicit false

-- Positions in the source are fixed point numbers with 12 fractional bits, kept in 32-bit
-- integers. The destination is an unbounded array of accumulators, and a pointer into it is an
-- index.
namespace MojoMedia.Mixers

open MachineInt

def ptsFractionalBits : Nat := 12

def fracOne : Nat := 2 ^ ptsFractionalBits

namespace Config

variable (config : Config)

-- Index of the first sample of the frame that a position falls into. The product is a 32-bit
-- number, so that a negative position gives one far behind the source.
def sourceIndex (soff : Int) : Nat := (soff / fracOne * config.src.count % 2 ^ 32).toNat

def readFrom (src : config.Buffer) (first channel : Nat) : Int :=
  config.read src (first + channel / config.dstPerSrc)

end Config

structure LinearSampler where
  filterData : Nat → Int := fun _ => 0

structure MixArgs (config : Config) where
  dst : Nat
  dstFrames : Nat
  src : config.Buffer
  fracSrcFrames : Nat
  fracStepSize : Nat
  amplitudeScale : Nat
  accumulate : Bool

structure MixState where
  mixBuf : Nat → Int
  dstOffset : Nat
  fracSrcOffset : Int
  sampler : LinearSampler

def interpolate (a b : Int) (alpha : Nat) : Int :=
  s32 (s32 (a * ((fracOne : Int) - alpha)) + s32 (b * alpha)) / 2 ^ ptsFractionalBits

namespace MixArgs

variable {config : Config}

def scaler (args : MixArgs config) : ScalerType :=
  (selectScaler args.amplitudeScale args.accumulate).1

def accumulates (args : MixArgs config) : Bool :=
  (selectScaler args.amplitudeScale args.accumulate).2

def send (args : MixArgs config) : Int := s32 ((args.fracSrcFrames : Int) - fracOne)

def writeFrame (args : MixArgs config) (mixBuf : Nat → Int) (frame : Nat)
    (sample : Nat → Int) : Nat → Int :=
  let out := args.dst + frame * config.dst.count
  fun index =>
    if out ≤ index ∧ index < out + config.dst.count then
      mixSample args.scaler args.accumulates (mixBuf index) (sample (index - out))
        args.amplitudeScale
    else mixBuf index

def emit (args : MixArgs config) (state : MixState) (sample : Nat → Int) : MixState :=
  { state with
    mixBuf := args.writeFrame state.mixBuf state.dstOffset sample
    dstOffset := state.dstOffset + 1
    fracSrcOffset := s32 (state.fracSrcOffset + args.fracStepSize) }

def loadFirst (args : MixArgs config) (sampler : LinearSampler) : LinearSampler :=
  { filterData := fun index =>
      if config.dst.count ≤ index ∧ index < 2 * config.dst.count then
        config.readFrame args.src 0 (index - config.dst.count)
      else sampler.filterData index }

def saveLast (args : MixArgs config) (sampler : LinearSampler) : LinearSampler :=
  { filterData := fun index =>
      if index < config.dst.count then
        config.readFrom args.src (config.sourceIndex args.send) index
      else sampler.filterData index }

def negativeLoop (args : MixArgs config) : Nat → MixState → MixState
  | 0, state => state
  | fuel + 1, state =>
    let next := args.emit state fun channel =>
      interpolate (state.sampler.filterData (config.dst.count + channel))
        (state.sampler.filterData channel) (-state.fracSrcOffset).toNat
    if next.dstOffset < args.dstFrames ∧ next.fracSrcOffset < 0 then
      args.negativeLoop fuel next
    else next

def mainLoop (args : MixArgs config) : Nat → MixState → MixState
  | 0, state => state
  | fuel + 1, state =>
    if state.dstOffset < args.dstFrames ∧ state.fracSrcOffset < args.send then
      let first := config.sourceIndex state.fracSrcOffset
      args.mainLoop fuel (args.emit state fun channel =>
        interpolate (config.readFrom args.src first channel)
          (config.readFrom args.src (first + config.src.count) channel)
          (state.fracSrcOffset % fracOne).toNat)
    else state

def mixBody (args : MixArgs config) (state : MixState) : MixState :=
  let fuel := args.dstFrames - state.dstOffset
  let state :=
    if state.fracSrcOffset < 0 then
      args.negativeLoop fuel { state with sampler := args.loadFirst state.sampler }
    else state
  args.mainLoop fuel state

def skipMuted (args : MixArgs config) (state : MixState) : MixState :=
  if state.dstOffset < args.dstFrames ∧ state.fracSrcOffset < args.send then
    let ahead := u32 (args.send - state.fracSrcOffset).toNat
    let srcAvail := u32 (u32 (ahead + args.fracStepSize) + (2 ^ 32 - 1)) / args.fracStepSize
    let dstAvail := args.dstFrames - state.dstOffset
    let avail := min srcAvail dstAvail
    { state with
      fracSrcOffset := s32 (state.fracSrcOffset + (u32 (avail * args.fracStepSize) : Nat))
      dstOffset := state.dstOffset + avail }
  else state

def sampleFinal (args : MixArgs config) (state : MixState) : MixState :=
  if state.dstOffset < args.dstFrames ∧ state.fracSrcOffset = args.send then
    if args.scaler = .muted then
      { state with
        dstOffset := state.dstOffset + 1
        fracSrcOffset := s32 (state.fracSrcOffset + args.fracStepSize) }
    else
      args.emit state fun channel =>
        config.readFrom args.src (config.sourceIndex state.fracSrcOffset) channel
  else state

def mix (args : MixArgs config) (state : MixState) : Bool × MixState :=
  let state := if args.scaler = .muted then args.skipMuted state else args.mixBody state
  let state := args.sampleFinal state
  if args.send ≤ state.fracSrcOffset then
    (decide (state.dstOffset < args.dstFrames),
      { state with sampler := args.saveLast state.sampler })
  else (false, state)

end MixArgs

end MojoMedia.Mixers
