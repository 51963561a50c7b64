import Mathlib.Data.List.Basic

set_option autoImplicit false

-- The structs of the interface are in the namespace `Mojo`.
namespace MojoMedia

inductive SampleFormat where
  | any
  | unsigned8
  | signed16
  | signed24In32
  | float
  deriving Repr, DecidableEq

inductive VideoProfile where
  | unknown
  | notApplicable
  | h264Baseline
  | h264Main
  | h264Extended
  | h264High
  | h264High10
  | h264High422
  | h264High444Predictive
  | h264ScalableBaseline
  | h264ScalableHigh
  | h264StereoHigh
  | h264MultiviewHigh
  deriving Repr, DecidableEq

inductive PixelFormat where
  | unknown
  | i420
  | yv12
  | yv16
  | yv12A
  | yv24
  | nv12
  | nv21
  | uyvy
  | yuy2
  | argb
  | xrgb
  | rgb24
  | rgb32
  | mjpeg
  | mt21
  deriving Repr, DecidableEq

inductive ColorSpace where
  | unknown
  | notApplicable
  | jpeg
  | hdRec709
  | sdRec601
  deriving Repr, DecidableEq

structure AudioStreamType where
  sampleFormat : SampleFormat
  channels : UInt32
  framesPerSecond : UInt32
  sized : sampleFormat ≠ .any
  deriving Repr, DecidableEq

structure VideoStreamType where
  profile : VideoProfile
  pixelFormat : PixelFormat
  colorSpace : ColorSpace
  width : UInt32
  height : UInt32
  codedWidth : UInt32
  codedHeight : UInt32
  deriving Repr, DecidableEq

inductive StreamKind where
  | audio (type : AudioStreamType)
  | video (type : VideoStreamType)
  | text
  | subpicture
  deriving Repr, DecidableEq

structure StreamType where
  kind : StreamKind
  encoding : String
  encodingParameters : Option (List UInt8)
  deriving Repr, DecidableEq

structure Range where
  min : UInt32
  max : UInt32
  ordered : min ≤ max
  deriving Repr, DecidableEq

structure AudioStreamTypeSet where
  sampleFormat : SampleFormat
  channels : Range
  framesPerSecond : Range
  deriving Repr, DecidableEq

structure VideoStreamTypeSet where
  width : Range
  height : Range
  deriving Repr, DecidableEq

inductive StreamSetKind where
  | audio (set : AudioStreamTypeSet)
  | video (set : VideoStreamTypeSet)
  | text
  | subpicture
  deriving Repr, DecidableEq

structure StreamTypeSet where
  kind : StreamSetKind
  encodings : List String
  deriving Repr, DecidableEq

namespace Mojo

inductive Array (α : Type) where
  | null
  | of (elements : List α)
  deriving Repr, DecidableEq

def Array.new {α : Type} (default : α) (size : Nat) : Array α := .of (List.replicate size default)

def Array.pushBack {α : Type} : Array α → α → Array α
  | .null, element => .of [element]
  | .of elements, element => .of (elements ++ [element])

inductive MediaTypeMedium where
  | audio
  | video
  | text
  | subpicture
  deriving Repr, DecidableEq

inductive AudioSampleFormat where
  | any
  | unsigned8
  | signed16
  | signed24In32
  | float
  deriving Repr, DecidableEq

inductive VideoProfile where
  | unknown
  | notApplicable
  | h264Baseline
  | h264Main
  | h264Extended
  | h264High
  | h264High10
  | h264High422
  | h264High444Predictive
  | h264ScalableBaseline
  | h264ScalableHigh
  | h264StereoHigh
  | h264MultiviewHigh
  deriving Repr, DecidableEq

inductive PixelFormat where
  | unknown
  | i420
  | yv12
  | yv16
  | yv12A
  | yv24
  | nv12
  | nv21
  | uyvy
  | yuy2
  | argb
  | xrgb
  | rgb24
  | rgb32
  | mjpeg
  | mt21
  deriving Repr, DecidableEq

inductive ColorSpace where
  | unknown
  | notApplicable
  | jpeg
  | hdRec709
  | sdRec601
  deriving Repr, DecidableEq

structure AudioMediaTypeDetails where
  sampleFormat : AudioSampleFormat
  channels : UInt32
  framesPerSecond : UInt32
  deriving Repr, DecidableEq

structure VideoMediaTypeDetails where
  profile : VideoProfile
  pixelFormat : PixelFormat
  colorSpace : ColorSpace
  width : UInt32
  height : UInt32
  codedWidth : UInt32
  codedHeight : UInt32
  deriving Repr, DecidableEq

inductive MediaTypeDetails where
  | audio (details : AudioMediaTypeDetails)
  | video (details : VideoMediaTypeDetails)
  | text
  | subpicture
  deriving Repr, DecidableEq

structure MediaType where
  medium : MediaTypeMedium
  details : MediaTypeDetails
  encoding : String
  encodingParameters : Array UInt8
  deriving Repr, DecidableEq

structure AudioMediaTypeSetDetails where
  sampleFormat : AudioSampleFormat
  minChannels : UInt32
  maxChannels : UInt32
  minFramesPerSecond : UInt32
  maxFramesPerSecond : UInt32
  deriving Repr, DecidableEq

structure VideoMediaTypeSetDetails where
  minWidth : UInt32
  maxWidth : UInt32
  minHeight : UInt32
  maxHeight : UInt32
  deriving Repr, DecidableEq

inductive MediaTypeSetDetails where
  | audio (details : AudioMediaTypeSetDetails)
  | video (details : VideoMediaTypeSetDetails)
  | text
  | subpicture
  deriving Repr, DecidableEq

structure MediaTypeSet where
  medium : MediaTypeMedium
  details : MediaTypeSetDetails
  encodings : Array String
  deriving Repr, DecidableEq

end Mojo

end MojoMedia
