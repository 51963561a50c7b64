import MojoMedia.Framework.LpcmReformatter
import MojoMedia.FrameworkFfmpeg.FfmpegDemux

set_option autoImplicit false

-- What ffmpeg does in a call comes as a `Decoding`: the buffers it has asked for, how many bytes
-- it has used, and the frame it has decoded.
namespace MojoMedia

open MachineInt NullableBuffers Framework

structure AvBufferContext where
  size : Nat
  buffer : Option (List UInt8)
  deriving Repr, DecidableEq

def AvBufferContext.payload (context : AvBufferContext) : List UInt8 :=
  context.buffer.getD (List.replicate context.size 0)

structure AvFrame where
  pts : Int
  nbSamples : Nat
  reorderedOpaque : Int
  context : AvBufferContext
  deriving Repr, DecidableEq

-- A call of `get_buffer2`. `size` is the size of the frame, or the error that computing it ended
-- with. `allocates` is whether the allocator has a buffer for it, and `pointersAllocate` whether
-- `av_malloc` has room for the pointers of many channels. `written` is what ffmpeg puts into a
-- buffer that it has been given.
structure BufferRequest where
  size : Int
  allocates : Bool
  pointersAllocate : Bool := true
  written : List UInt8
  deriving Repr, DecidableEq

structure Decoding where
  inputBytesUsed : Int
  requests : List BufferRequest := []
  frame : Option AvFrame := none
  deriving Repr, DecidableEq

-- The stream type of the output. A planar decoder has an `LpcmUtil` to interleave with.
structure AudioCodec where
  type : AudioStreamType
  planar : Bool
  channels : type.channels ≠ 0
  deriving Repr, DecidableEq

inductive Codec where
  | audio (codec : AudioCodec)
  | video
  deriving Repr, DecidableEq

def avNumDataPointers : Nat := 8

structure InputRest where
  data : List UInt8 := []
  size : Int := 0
  pts : Int := 0
  deriving Repr, DecidableEq

structure FfmpegDecoder where
  codec : Codec
  avPacket : InputRest := { }
  nextPts : Int := Packet.kUnknownPts
  deriving Repr, DecidableEq

namespace BufferRequest

def allocate (request : BufferRequest) : Buffer UInt8 :=
  .allocate (0 < request.size ∧ request.allocates) (List.replicate request.size.toNat 0)

def extendedData (request : BufferRequest) (channels : Nat) : Buffer Nat :=
  (Buffer.allocate request.pointersAllocate (List.replicate channels 0)).writeAll
    ((List.range channels).map fun channel =>
      (channel, channel * (request.size.toNat / channels)))

def fill (request : BufferRequest) (buffer : Buffer UInt8) : Buffer UInt8 :=
  buffer.writeAll (request.written.zipIdx.map fun (byte, position) => (position, byte))

end BufferRequest

-- `AllocateBufferForAvFrame`, by the buffer it hands over unless it fails, and by whether it has
-- written through a null pointer.
def AudioCodec.allocateBufferForAvFrame (codec : AudioCodec) (request : BufferRequest) :
    Option (Buffer UInt8) × Bool :=
  if request.size < 0 then (none, false)
  else if codec.planar ∧ avNumDataPointers < codec.type.channels.toNat then
    (some request.allocate, (request.extendedData codec.type.channels.toNat).nullWritten)
  else (some request.allocate, false)

def allocateBufferForPicture (request : BufferRequest) : Option (Buffer UInt8) × Bool :=
  if request.size < 0 then (none, false)
  else if request.allocate.contents = none then (none, false)
  else
    let zeroed := request.allocate.writeAll
      ((List.range request.size.toNat).map fun position => (position, 0))
    (some zeroed, zeroed.nullWritten)

def Codec.allocateBufferForAvFrame : Codec → BufferRequest → Option (Buffer UInt8) × Bool
  | .audio codec, request => codec.allocateBufferForAvFrame request
  | .video, request => allocateBufferForPicture request

-- Whether a request ends with a write through a null pointer, here or in ffmpeg.
def Codec.requestNullWritten (codec : Codec) (request : BufferRequest) : Bool :=
  match codec.allocateBufferForAvFrame request with
  | (some buffer, written) => written || (request.fill buffer).nullWritten
  | (none, written) => written

namespace FfmpegDecoder

def prepareInputPacket (decoder : FfmpegDecoder) (input : Packet) : FfmpegDecoder :=
  { decoder with
    avPacket :=
      { data := input.payload
        size := s32 input.size
        pts := input.pts } }

def decode (decoder : FfmpegDecoder) : FfmpegDecoder :=
  match decoder.codec with
  | .audio _ =>
    if decoder.nextPts = Packet.kUnknownPts then
      { decoder with
        nextPts := if decoder.avPacket.pts = avNoptsValue then 0 else decoder.avPacket.pts }
    else decoder
  | .video => decoder

-- `granted` is whether the allocator has a buffer for the interleaved samples. The distance
-- between the channels of a planar frame is a quotient by the size of a frame.
def createOutputPacket (decoder : FfmpegDecoder) (frame : AvFrame) (granted : Bool) :
    Option (FfmpegDecoder × Packet × Bool) :=
  match decoder.codec with
  | .audio codec =>
    let (pts, nextPts) :=
      if frame.pts = avNoptsValue then (decoder.nextPts, decoder.nextPts + frame.nbSamples)
      else (frame.pts, frame.pts)
    let after := { decoder with nextPts }
    if codec.planar then
      if codec.type.bytesPerFrame = 0 then none
      else
        let channels := codec.type.channels.toNat
        let stride := frame.context.size / codec.type.bytesPerFrame
        let input := samplesOf codec.type.sampleSize frame.context.payload
        let contents := uninitialized codec.type.sampleSize (frame.nbSamples * channels)
        let buffer := (Buffer.allocate granted contents).writeAll
          (channelWrites channels frame.nbSamples fun channel position =>
            input.getD (channel * stride + position) [])
        let context : AvBufferContext :=
          { size := codec.type.minBufferSize frame.nbSamples
            buffer := buffer.contents.map List.flatten }
        some (after, { pts, endOfStream := false, payload := context.payload },
          buffer.nullWritten)
    else some (after, { pts, endOfStream := false, payload := frame.context.payload }, false)
  | .video =>
    some ({ decoder with nextPts := frame.reorderedOpaque },
      { pts := frame.reorderedOpaque, endOfStream := false, payload := frame.context.payload },
      false)

def useBytes (decoder : FfmpegDecoder) (used : Int) : FfmpegDecoder :=
  { decoder with
    avPacket :=
      { decoder.avPacket with
        data := decoder.avPacket.data.drop used.toNat
        size := decoder.avPacket.size - used } }

def unprepareInputPacket (decoder : FfmpegDecoder) (input : Packet) (output : Option Packet)
    (nullWritten : Bool) : FfmpegDecoder × TransformResult :=
  ({ decoder with avPacket := { decoder.avPacket with data := [], size := 0 } },
    { done := true
      output :=
        if input.endOfStream then some (FfmpegDemux.createEndOfStream decoder.nextPts) else output
      nullWritten })

def useInput (decoder : FfmpegDecoder) (input : Packet) (decoding : Decoding)
    (output : Option Packet) (nullWritten : Bool) : Option (FfmpegDecoder × TransformResult) :=
  if decoder.avPacket.size < decoding.inputBytesUsed then none
  else
    let used := decoder.useBytes decoding.inputBytesUsed
    if used.avPacket.size ≠ 0 ∨ input.endOfStream ∧ decoding.frame.isSome then
      some (used, { done := false, output, nullWritten })
    else some (used.unprepareInputPacket input output nullWritten)

def transformPacket (decoder : FfmpegDecoder) (input : Packet) (newInput : Bool)
    (decoding : Decoding) (granted : Bool) : Option (FfmpegDecoder × TransformResult) :=
  let prepared := if newInput then decoder.prepareInputPacket input else decoder
  let decoded := prepared.decode
  let nullWritten := decoding.requests.any decoder.codec.requestNullWritten
  if decoding.inputBytesUsed < 0 then some (decoded.unprepareInputPacket input none nullWritten)
  else
    match decoding.frame with
    | some frame =>
      match decoded.createOutputPacket frame granted with
      | some (created, packet, interleaved) =>
        created.useInput input decoding (some packet) (nullWritten || interleaved)
      | none => none
    | none => decoded.useInput input decoding none nullWritten

end FfmpegDecoder

end MojoMedia
