import Mathlib.Algebra.Group.Nat.Defs
import MojoMedia.Shared.NullableBuffers
import MojoMedia.Framework.Stages
import MojoMedia.FrameworkMojo.StreamTypes

set_option autoImplicit false

namespace MojoMedia

open NullableBuffers

def SampleFormat.size : SampleFormat → Nat
  | .any => 0
  | .unsigned8 => 1
  | .signed16 => 2
  | .signed24In32 => 4
  | .float => 4

namespace AudioStreamType

def sampleSize (type : AudioStreamType) : Nat := type.sampleFormat.size

def bytesPerFrame (type : AudioStreamType) : Nat :=
  type.sampleSize * type.channels.toNat % 2 ^ 32

def minBufferSize (type : AudioStreamType) (frameCount : Nat) : Nat :=
  frameCount * type.bytesPerFrame

def frameCount (type : AudioStreamType) (size : Nat) : Nat := size / type.bytesPerFrame

end AudioStreamType

namespace Framework

-- What a call of `TransformPacket` answers, and whether it has written through a null pointer.
structure TransformResult where
  done : Bool
  output : Option Packet := none
  nullWritten : Bool := false
  deriving Repr, DecidableEq

section Samples

variable {α : Type}

def channelWrites (channels frames : Nat) (sample : Nat → Nat → α) : List (Nat × α) :=
  (List.range channels).flatMap fun channel =>
    (List.range frames).map fun frame => (frame * channels + channel, sample channel frame)

theorem mem_channelWrites {channels frames : Nat} {sample : Nat → Nat → α} {entry : Nat × α} :
    entry ∈ channelWrites channels frames sample ↔
      ∃ channel < channels, ∃ frame < frames,
        entry = (frame * channels + channel, sample channel frame) := by
  simp only [channelWrites, List.mem_flatMap, List.mem_map, List.mem_range]
  constructor
  · rintro ⟨channel, before, frame, inside, rfl⟩
    exact ⟨channel, before, frame, inside, rfl⟩
  · rintro ⟨channel, before, frame, inside, rfl⟩
    exact ⟨channel, before, frame, inside, rfl⟩

theorem position_mod {channels frame channel : Nat} (before : channel < channels) :
    (frame * channels + channel) % channels = channel := by
  rw [Nat.mul_add_mod_self_right, Nat.mod_eq_of_lt before]

theorem position_div {channels frame channel : Nat} (before : channel < channels) :
    (frame * channels + channel) / channels = frame := by
  rw [Nat.mul_comm, Nat.mul_add_div (Nat.zero_lt_of_lt before), Nat.div_eq_of_lt before,
    Nat.add_zero]

theorem channelWrites_fill {channels frames : Nat} (sample : Nat → Nat → α) (contents : List α)
    (length : contents.length = frames * channels) :
    (Buffer.allocate true contents).writeAll (channelWrites channels frames sample) =
      ⟨some ((List.range (frames * channels)).map fun position =>
        sample (position % channels) (position / channels)), false⟩ := by
  have filled := Buffer.foldl_set_eq_map
    (fun position => sample (position % channels) (position / channels))
    (channelWrites channels frames sample) contents
  simp only [Buffer.allocate, if_true, Buffer.writeAll_some]
  rw [filled, length]
  · intro entry member
    obtain ⟨channel, before, frame, -, rfl⟩ := mem_channelWrites.mp member
    simp only [position_mod before, position_div before]
  · intro position inside
    have some : 0 < channels := by
      rcases Nat.eq_zero_or_pos channels with rfl | some
      · omega
      · exact some
    refine ⟨_, mem_channelWrites.mpr ⟨position % channels, Nat.mod_lt _ some,
      position / channels, ?_, rfl⟩, ?_⟩
    · rw [Nat.div_lt_iff_lt_mul some]
      omega
    · exact Nat.div_add_mod' position channels

def samplesOf (sampleSize : Nat) (payload : List UInt8) : List (List UInt8) :=
  (List.range (payload.length / sampleSize)).map fun index =>
    (payload.drop (index * sampleSize)).take sampleSize

def uninitialized (sampleSize count : Nat) : List (List UInt8) :=
  List.replicate count (List.replicate sampleSize 0)

end Samples

structure LpcmReformatter where
  inType : AudioStreamType
  outType : AudioStreamType
  copySample : List UInt8 → List UInt8
  copied : ∀ sample, (copySample sample).length = outType.sampleSize
  channels : outType.channels = inType.channels

namespace LpcmReformatter

def outTypeOf (inType : AudioStreamType) (set : AudioStreamTypeSet) : AudioStreamType :=
  if any : set.sampleFormat = .any then inType
  else
    { inType with
      sampleFormat := set.sampleFormat
      sized := any }

theorem outTypeOf_channels (inType : AudioStreamType) (set : AudioStreamTypeSet) :
    (outTypeOf inType set).channels = inType.channels := by
  unfold outTypeOf
  split <;> rfl

theorem outTypeOf_framesPerSecond (inType : AudioStreamType) (set : AudioStreamTypeSet) :
    (outTypeOf inType set).framesPerSecond = inType.framesPerSecond := by
  unfold outTypeOf
  split <;> rfl

def create (inType : AudioStreamType) (set : AudioStreamTypeSet)
    (copySample : List UInt8 → List UInt8)
    (copied : ∀ sample, (copySample sample).length = (outTypeOf inType set).sampleSize) :
    LpcmReformatter where
  inType
  outType := outTypeOf inType set
  copySample
  copied
  channels := outTypeOf_channels inType set

-- `in_sample` and `out_sample` move on by a frame each, which has the same channels in both.
def reformat (reformatter : LpcmReformatter) (input : List (List UInt8)) (frames : Nat)
    (buffer : Buffer (List UInt8)) : Buffer (List UInt8) :=
  let channels := reformatter.inType.channels.toNat
  buffer.writeAll (channelWrites channels frames fun channel frame =>
    reformatter.copySample (input.getD (frame * channels + channel) []))

-- `granted` is whether the allocator has a buffer. The number of frames is a quotient by the size
-- of a frame.
def transformPacket (reformatter : LpcmReformatter) (input : Packet) (granted : Bool) :
    Option TransformResult :=
  if input.size = 0 then
    some { done := true, output := some { input with payload := [] } }
  else if reformatter.inType.bytesPerFrame = 0 then none
  else
    let frames := reformatter.inType.frameCount input.size
    let outSize := reformatter.outType.minBufferSize frames
    let outSampleSize := reformatter.outType.sampleSize
    if granted then
      let buffer := reformatter.reformat (samplesOf reformatter.inType.sampleSize input.payload)
        frames (.allocate granted (uninitialized outSampleSize (outSize / outSampleSize)))
      some
        { done := true
          output := buffer.contents.map fun samples =>
            { pts := input.pts
              endOfStream := input.endOfStream
              payload := samples.flatten }
          nullWritten := buffer.nullWritten }
    else some { done := false }

theorem reformat_eq_map (reformatter : LpcmReformatter) (input contents : List (List UInt8))
    (frames : Nat) (length : input.length = frames * reformatter.inType.channels.toNat)
    (room : contents.length = input.length) :
    reformatter.reformat input frames (.allocate true contents) =
      ⟨some (input.map reformatter.copySample), false⟩ := by
  rw [reformat, channelWrites_fill _ _ (room.trans length)]
  congr 2
  apply List.ext_getElem
  · simp [length]
  · intro position inside _
    have bounded : position < input.length := by
      rw [length]
      simpa using inside
    simp [Nat.div_add_mod', bounded]

theorem length_flatten_of_sized {samples : List (List UInt8)} {sampleSize : Nat}
    (sized : ∀ sample ∈ samples, sample.length = sampleSize) :
    samples.flatten.length = samples.length * sampleSize := by
  rw [List.length_flatten, List.map_congr_left sized, List.map_const', List.sum_replicate_nat]

theorem sampleSize_dvd (type : AudioStreamType) (frames : Nat) :
    type.sampleSize ∣ type.minBufferSize frames := by
  have whole : type.sampleSize ∣ 2 ^ 32 := by
    unfold AudioStreamType.sampleSize
    cases format : type.sampleFormat with
    | any => exact absurd format type.sized
    | unsigned8 | signed16 | signed24In32 | float => decide
  apply Nat.dvd_mul_left_of_dvd
  exact (Nat.dvd_mod_iff whole).mpr (Nat.dvd_mul_right _ _)

theorem transformPacket_size {reformatter : LpcmReformatter} {input output : Packet}
    {granted : Bool} {result : TransformResult} (nonempty : input.size ≠ 0)
    (returns : reformatter.transformPacket input granted = some result)
    (produced : result.output = some output) :
    output.size =
      reformatter.outType.minBufferSize (reformatter.inType.frameCount input.size) := by
  simp only [transformPacket, nonempty, if_false] at returns
  split at returns
  · cases returns
  · split at returns
    next available =>
      cases returns
      obtain ⟨samples, filled, rfl⟩ := Option.map_eq_some_iff.mp produced
      simp only [reformat, available, Buffer.allocate, if_true, Buffer.writeAll_some,
        Option.some.injEq] at filled
      have sized : ∀ sample ∈ samples, sample.length = reformatter.outType.sampleSize := by
        rw [← filled]
        apply Buffer.foldl_set_forall
        · intro entry member
          obtain ⟨channel, -, frame, -, rfl⟩ := mem_channelWrites.mp member
          exact reformatter.copied _
        · intro sample member
          rw [List.eq_of_mem_replicate member, List.length_replicate]
      rw [Packet.size, length_flatten_of_sized sized, ← filled, Buffer.foldl_set_length,
        uninitialized, List.length_replicate]
      exact Nat.div_mul_cancel (sampleSize_dvd _ _)
    next =>
      cases returns
      cases produced

end LpcmReformatter

end Framework

end MojoMedia
