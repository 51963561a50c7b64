import MojoMedia.Shared.MachineInt

set_option autoImplicit false

namespace MojoMedia.Mixers

open MachineInt

inductive ScalerType where
  | muted
  | ltUnity
  | eqUnity
  | gtUnity
  deriving Repr, DecidableEq

inductive SType where
  | uint8
  | int16
  deriving Repr, DecidableEq

def SType.Sample : SType → Type
  | .uint8 => UInt8
  | .int16 => Int16

def SType.silence : (type : SType) → type.Sample
  | .uint8 => (0 : UInt8)
  | .int16 => (0 : Int16)

def normalize : (type : SType) → type.Sample → Int
  | .uint8, sample => (UInt8.toNat sample : Int) * 2 ^ 8 - 0x8000
  | .int16, sample => Int16.toInt sample

inductive Channels where
  | mono
  | stereo
  deriving Repr, DecidableEq

def Channels.count : Channels → Nat
  | .mono => 1
  | .stereo => 2

structure Config where
  dst : Channels
  type : SType
  src : Channels
  deriving Repr, DecidableEq

namespace Config

def dstPerSrc (config : Config) : Nat :=
  match config.dst, config.src with
  | .mono, .stereo => 1
  | dst, src => dst.count / src.count

abbrev Buffer (config : Config) := List config.type.Sample

def sampleAt (config : Config) (src : config.Buffer) (index : Nat) : Int :=
  normalize config.type (src.getD index config.type.silence)

def read (config : Config) (src : config.Buffer) (index : Nat) : Int :=
  match config.dst, config.src with
  | .mono, .stereo => (config.sampleAt src index + config.sampleAt src (index + 1)) / 2
  | _, _ => config.sampleAt src index

def readFrame (config : Config) (src : config.Buffer) (frame channel : Nat) : Int :=
  config.read src (frame * config.src.count + channel / config.dstPerSrc)

end Config

namespace Gain

def fractionalBits : Nat := 28

def unity : Nat := 2 ^ fractionalBits

def muteThreshold (bitCount : Nat) : Nat := 2 ^ (fractionalBits - bitCount) - 1

end Gain

def scaleSample (type : ScalerType) (value : Int) (scale : Nat) : Int :=
  let scaled := s32 (value * scale / 2 ^ Gain.fractionalBits)
  match type with
  | .muted => 0
  | .ltUnity => scaled
  | .eqUnity => value
  | .gtUnity => if 0x7fff < scaled then 0x7fff else if scaled < -0x8000 then -0x8000 else scaled

def mixSample (type : ScalerType) (accumulate : Bool) (dst sample : Int) (scale : Nat) : Int :=
  if accumulate then s32 (scaleSample type sample scale + dst) else scaleSample type sample scale

def selectScaler (amplitudeScale : Nat) (accumulate : Bool) : ScalerType × Bool :=
  if amplitudeScale = Gain.unity then (.eqUnity, accumulate)
  else if amplitudeScale < Gain.muteThreshold 15 then (.muted, false)
  else if amplitudeScale < Gain.unity then (.ltUnity, accumulate)
  else (.gtUnity, accumulate)

theorem normalize_bounds (type : SType) (sample : type.Sample) :
    -0x8000 ≤ normalize type sample ∧ normalize type sample ≤ 0x7fff := by
  cases type with
  | uint8 =>
    have bound : UInt8.toNat sample < 256 := UInt8.toNat_lt sample
    simp only [normalize]
    omega
  | int16 =>
    have lower := Int16.le_toInt sample
    have upper := Int16.toInt_lt sample
    simp only [normalize]
    omega

theorem Config.read_bounds (config : Config) (src : config.Buffer) (index : Nat) :
    -0x8000 ≤ config.read src index ∧ config.read src index ≤ 0x7fff := by
  have first := normalize_bounds config.type (src.getD index config.type.silence)
  have second := normalize_bounds config.type (src.getD (index + 1) config.type.silence)
  simp only [Config.read, Config.sampleAt]
  split
  · omega
  · exact first

end MojoMedia.Mixers
