import MojoMedia.Framework.Quiescence
import MojoMedia.FrameworkFfmpeg.FfmpegDecoder

set_option autoImplicit false

namespace MojoMedia

open MachineInt NullableBuffers Framework

def Codec.Serves : Codec → BufferRequest → Prop
  | .audio codec, request => 0 ≤ request.size →
      (codec.planar = true → avNumDataPointers < codec.type.channels.toNat →
        request.pointersAllocate = true) ∧
      (request.written ≠ [] → request.allocates = true)
  | .video, _ => True

def BufferRequest.Bounded (request : BufferRequest) : Prop :=
  request.written.length ≤ request.size.toNat

def Codec.Outputs : Codec → AvFrame → Bool → Prop
  | .audio codec, frame, granted => codec.planar = true →
      codec.type.bytesPerFrame ≠ 0 ∧ (frame.nbSamples = 0 ∨ granted = true)
  | .video, _, _ => True

-- The call gets on with the input, and keeps off null pointers. `scheduled` is for a stage that
-- gets another update anyway.
def Framework.TransformResult.Advances (result : TransformResult) (scheduled : Prop) : Prop :=
  (result.done = true ∨ result.output.isSome ∨ scheduled) ∧ result.nullWritten = false

namespace FfmpegDecoder

theorem decode_frame (decoder : FfmpegDecoder) :
    decoder.decode.codec = decoder.codec ∧ decoder.decode.avPacket = decoder.avPacket := by
  simp only [decode]
  split
  · split <;> exact ⟨rfl, rfl⟩
  · exact ⟨rfl, rfl⟩

theorem createOutputPacket_avPacket {decoder after : FfmpegDecoder} {frame : AvFrame}
    {granted interleaved : Bool} {packet : Packet}
    (created : decoder.createOutputPacket frame granted = some (after, packet, interleaved)) :
    after.avPacket = decoder.avPacket := by
  simp only [createOutputPacket] at created
  split at created
  · split at created
    · split at created
      · cases created
      · cases created
        rfl
    · cases created
      rfl
  · cases created
    rfl

def sizeLeft (decoder : FfmpegDecoder) (input : Packet) (newInput : Bool) : Int :=
  if newInput then s32 input.size else decoder.avPacket.size

theorem exists_prepared (decoder : FfmpegDecoder) (input : Packet) (newInput : Bool) :
    ∃ prepared, (if newInput then decoder.prepareInputPacket input else decoder) = prepared ∧
      prepared.codec = decoder.codec ∧ prepared.nextPts = decoder.nextPts ∧
      prepared.avPacket.size = decoder.sizeLeft input newInput ∧
      prepared.avPacket.pts = if newInput then input.pts else decoder.avPacket.pts := by
  cases newInput with
  | false => exact ⟨decoder, rfl, rfl, rfl, rfl, rfl⟩
  | true =>
    refine ⟨decoder.prepareInputPacket input, rfl, rfl, rfl, ?_, rfl⟩
    simp [sizeLeft, prepareInputPacket]

structure Allowed (decoder : FfmpegDecoder) (input : Packet) (newInput : Bool)
    (decoding : Decoding) : Prop where
  used : decoding.inputBytesUsed ≤ decoder.sizeLeft input newInput
  written : ∀ request ∈ decoding.requests, request.Bounded

def Fine (decoder : FfmpegDecoder) (input : Packet) (newInput : Bool) (decoding : Decoding)
    (granted : Bool) (scheduled : Prop) : Prop :=
  (∀ request ∈ decoding.requests, decoder.codec.Serves request) ∧
    (0 ≤ decoding.inputBytesUsed →
      match decoding.frame with
      | some frame => decoder.codec.Outputs frame granted
      | none => decoding.inputBytesUsed = decoder.sizeLeft input newInput ∨ scheduled)

end FfmpegDecoder

namespace Framework

inductive TransformCall where
  | reformat (reformatter : LpcmReformatter) (granted : Bool)
  | decode (decoder : FfmpegDecoder) (decoding : Decoding) (granted : Bool)

namespace TransformCall

def transformPacket (input : Packet) (newInput : Bool) : TransformCall → Option TransformResult
  | .reformat reformatter granted => reformatter.transformPacket input granted
  | .decode decoder decoding granted =>
    (decoder.transformPacket input newInput decoding granted).map Prod.snd

def Allowed (input : Packet) (newInput : Bool) : TransformCall → Prop
  | .reformat _ _ => True
  | .decode decoder decoding _ => decoder.Allowed input newInput decoding

def Fine (input : Packet) (newInput : Bool) (scheduled : Prop) : TransformCall → Prop
  | .reformat reformatter granted =>
    input.size = 0 ∨ reformatter.inType.bytesPerFrame ≠ 0 ∧ (granted = true ∨ scheduled)
  | .decode decoder decoding granted =>
    decoder.Fine input newInput decoding granted scheduled

end TransformCall

namespace Engine

namespace State

variable {graph : PreparedGraph} {state : State}

-- The stage will be updated again: it is on a backlog, or a `RequestUpdate` for it waits.
def Scheduled (state : State) (stage : Nat) : Prop :=
  stage ∈ state.supplyBacklog ∨ stage ∈ state.demandBacklog ∨ stage ∈ state.requests

theorem Scheduled.pushToDemandBacklog {stage : Nat} (scheduled : state.Scheduled stage)
    (pushed : Nat) : (state.pushToDemandBacklog pushed).Scheduled stage := by
  simp only [State.pushToDemandBacklog]
  split
  · exact scheduled
  · rcases scheduled with supply | demanded | requested
    · exact .inl supply
    · exact .inr (.inl (List.mem_cons_of_mem _ demanded))
    · exact .inr (.inr requested)

theorem Scheduled.setDemand {stage : Nat} (scheduled : state.Scheduled stage) (input : InputRef)
    (demand : Demand) : (state.setDemand graph input demand).Scheduled stage := by
  obtain same | ⟨output, changed⟩ := @setDemand_cases graph state input demand
  · rw [same]
    exact scheduled
  · have demanded : (state.setOutputDemand output demand).Scheduled stage := scheduled
    rw [changed]
    exact demanded.pushToDemandBacklog output.stage

end State

end Engine

def TransformResult.answers (result : TransformResult) : Engine.Answers :=
  { done := result.done, output := result.output }

def mono : AudioStreamType := ⟨.unsigned8, 1, 48000, nofun⟩

end Framework

end MojoMedia
