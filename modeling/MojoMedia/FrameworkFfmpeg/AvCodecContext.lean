import MojoMedia.FrameworkMojo.TypeConversions

set_option autoImplicit false

namespace MojoMedia

namespace StreamType

def kAudioEncodingAac : String := "aac"
def kAudioEncodingAmrNb : String := "amrnb"
def kAudioEncodingAmrWb : String := "amrwb"
def kAudioEncodingFlac : String := "flac"
def kAudioEncodingGsmMs : String := "gsmms"
def kAudioEncodingLpcm : String := "lpcm"
def kAudioEncodingMp3 : String := "mp3"
def kAudioEncodingPcmALaw : String := "pcmalaw"
def kAudioEncodingPcmMuLaw : String := "pcmmulaw"
def kAudioEncodingVorbis : String := "vorbis"

end StreamType

open StreamType

inductive AvSampleFormat where
  | none
  | u8
  | s16
  | s32
  | flt
  | dbl
  | u8p
  | s16p
  | s32p
  | fltp
  | dblp
  | nb
  deriving Repr, DecidableEq

inductive AvCodecId where
  | aac
  | amrNb
  | amrWb
  | flac
  | gsmMs
  | mp3
  | pcmALaw
  | pcmMuLaw
  | vorbis
  | pcmU8
  | pcmS16Le
  | pcmS16Be
  | pcmS24Le
  | pcmS24Be
  | pcmF32Le
  deriving Repr, DecidableEq

structure AvCodecContext where
  codecId : AvCodecId
  sampleFmt : AvSampleFormat := .none
  channels : UInt32
  sampleRate : UInt32
  extradata : List UInt8 := []
  codec : Bool := false
  deriving Repr, DecidableEq

def AvSampleFormat.convert : AvSampleFormat → Except ConversionFailure SampleFormat
  | .u8 | .u8p => .ok .unsigned8
  | .s16 | .s16p => .ok .signed16
  | .s32 | .s32p => .ok .signed24In32
  | .flt | .fltp => .ok .float
  | .none | .dbl | .dblp | .nb => .error .abort

namespace AvCodecContext

def streamTypeFromLpcmCodecContext (context : AvCodecContext) :
    Except ConversionFailure StreamType := do
  let sampleFormat ← context.sampleFmt.convert
  AudioStreamType.create kAudioEncodingLpcm none sampleFormat context.channels context.sampleRate

def compressedEncoding : AvCodecId → Except ConversionFailure String
  | .aac => .ok kAudioEncodingAac
  | .amrNb => .ok kAudioEncodingAmrNb
  | .amrWb => .ok kAudioEncodingAmrWb
  | .flac => .ok kAudioEncodingFlac
  | .gsmMs => .ok kAudioEncodingGsmMs
  | .mp3 => .ok kAudioEncodingMp3
  | .pcmALaw => .ok kAudioEncodingPcmALaw
  | .pcmMuLaw => .ok kAudioEncodingPcmMuLaw
  | .vorbis => .ok kAudioEncodingVorbis
  | .pcmU8 | .pcmS16Le | .pcmS16Be | .pcmS24Le | .pcmS24Be | .pcmF32Le => .error .abort

def streamTypeFromCompressedAudioCodecContext (context : AvCodecContext) :
    Except ConversionFailure StreamType := do
  let encoding ← compressedEncoding context.codecId
  let sampleFormat ← context.sampleFmt.convert
  AudioStreamType.create encoding
    (if context.extradata = [] then none else some context.extradata) sampleFormat
    context.channels context.sampleRate

def getStreamType (context : AvCodecContext) : Except ConversionFailure StreamType :=
  match context.codecId with
  | .pcmS16Be | .pcmS16Le | .pcmS24Be | .pcmS24Le | .pcmU8 =>
    context.streamTypeFromLpcmCodecContext
  | _ =>
    if context.codec then context.streamTypeFromLpcmCodecContext
    else context.streamTypeFromCompressedAudioCodecContext

def codecOf (encoding : String) (sampleFormat : SampleFormat) :
    Except ConversionFailure (AvCodecId × AvSampleFormat) :=
  if encoding = kAudioEncodingLpcm then
    match sampleFormat with
    | .unsigned8 => .ok (.pcmU8, .u8)
    | .signed16 => .ok (.pcmS16Le, .s16)
    | .signed24In32 => .ok (.pcmS24Le, .s32)
    | .float => .ok (.pcmF32Le, .flt)
    | .any => .error .abort
  else if encoding = kAudioEncodingAac then .ok (.aac, .none)
  else if encoding = kAudioEncodingAmrNb then .ok (.amrNb, .none)
  else if encoding = kAudioEncodingAmrWb then .ok (.amrWb, .none)
  else if encoding = kAudioEncodingFlac then .ok (.flac, .none)
  else if encoding = kAudioEncodingGsmMs then .ok (.gsmMs, .none)
  else if encoding = kAudioEncodingMp3 then .ok (.mp3, .none)
  else if encoding = kAudioEncodingPcmALaw then .ok (.pcmALaw, .none)
  else if encoding = kAudioEncodingPcmMuLaw then .ok (.pcmMuLaw, .none)
  else if encoding = kAudioEncodingVorbis then .ok (.vorbis, .none)
  else .error .abort

def fromAudioStreamType (encoding : String) (encodingParameters : Option (List UInt8))
    (type : AudioStreamType) : Except ConversionFailure AvCodecContext := do
  let (codecId, sampleFmt) ← codecOf encoding type.sampleFormat
  return {
    codecId
    sampleFmt
    channels := type.channels
    sampleRate := type.framesPerSecond
    extradata := encodingParameters.getD [] }

end AvCodecContext

-- `FfmpegDecoder::Create` for audio, by the output type of the decoder. `avcodecOpen2` finds and
-- opens a codec, unless it fails, and leaves it in the context.
def createAudioDecoder (avcodecOpen2 : AvCodecContext → Option AvCodecContext)
    (encoding : String) (encodingParameters : Option (List UInt8)) (type : AudioStreamType) :
    Except ConversionFailure (Option StreamType) := do
  let context ← AvCodecContext.fromAudioStreamType encoding encodingParameters type
  match avcodecOpen2 context with
  | none => return none
  | some opened => do
    let outputStreamType ← AvCodecContext.getStreamType { opened with codec := true }
    return some outputStreamType

theorem ConversionFailure.bind_ok {α β : Type} {first : Except ConversionFailure α}
    {second : α → Except ConversionFailure β} {result : β}
    (yields : (first >>= second) = .ok result) :
    ∃ value, first = .ok value ∧ second value = .ok result := by
  cases first with
  | error failure => cases yields
  | ok value => exact ⟨value, rfl, yields⟩

def StreamType.IsLpcm (type : StreamType) : Prop :=
  type.encoding = kAudioEncodingLpcm ∧ ∃ audio, type.kind = .audio audio

theorem AvCodecContext.lpcm_of_context {context : AvCodecContext} {type : StreamType}
    (yields : context.streamTypeFromLpcmCodecContext = .ok type) : type.IsLpcm := by
  obtain ⟨sampleFormat, -, created⟩ := ConversionFailure.bind_ok yields
  simp only [AudioStreamType.create] at created
  split at created
  · cases created
  · cases created
    exact ⟨rfl, _, rfl⟩

theorem createAudioDecoder_lpcm {avcodecOpen2 : AvCodecContext → Option AvCodecContext}
    {encoding : String} {encodingParameters : Option (List UInt8)} {type : AudioStreamType}
    {outType : StreamType}
    (created : createAudioDecoder avcodecOpen2 encoding encodingParameters type =
      .ok (some outType)) : outType.IsLpcm := by
  obtain ⟨context, -, created⟩ := ConversionFailure.bind_ok created
  split at created
  · cases created
  next opened isOpened =>
    obtain ⟨outputStreamType, yields, isType⟩ := ConversionFailure.bind_ok created
    cases isType
    apply AvCodecContext.lpcm_of_context
    rw [← yields]
    simp only [AvCodecContext.getStreamType, if_true]
    split <;> rfl

end MojoMedia
