import MojoMedia.FrameworkMojo.StreamTypes

set_option autoImplicit false

-- Pointers may be null on both sides, and a null pointer stays null.
namespace MojoMedia

inductive ConversionFailure where
  | abort
  | dcheck
  deriving Repr, DecidableEq

def SampleFormat.convert : SampleFormat → Mojo.AudioSampleFormat
  | .any => .any
  | .unsigned8 => .unsigned8
  | .signed16 => .signed16
  | .signed24In32 => .signed24In32
  | .float => .float

def Mojo.AudioSampleFormat.convert : Mojo.AudioSampleFormat → SampleFormat
  | .any => .any
  | .unsigned8 => .unsigned8
  | .signed16 => .signed16
  | .signed24In32 => .signed24In32
  | .float => .float

def VideoProfile.convert : VideoProfile → Mojo.VideoProfile
  | .unknown => .unknown
  | .notApplicable => .notApplicable
  | .h264Baseline => .h264Baseline
  | .h264Main => .h264Main
  | .h264Extended => .h264Extended
  | .h264High => .h264High
  | .h264High10 => .h264High10
  | .h264High422 => .h264High422
  | .h264High444Predictive => .h264High444Predictive
  | .h264ScalableBaseline => .h264ScalableBaseline
  | .h264ScalableHigh => .h264ScalableHigh
  | .h264StereoHigh => .h264StereoHigh
  | .h264MultiviewHigh => .h264MultiviewHigh

def Mojo.VideoProfile.convert : Mojo.VideoProfile → MojoMedia.VideoProfile
  | .unknown => .unknown
  | .notApplicable => .notApplicable
  | .h264Baseline => .h264Baseline
  | .h264Main => .h264Main
  | .h264Extended => .h264Extended
  | .h264High => .h264High
  | .h264High10 => .h264High10
  | .h264High422 => .h264High422
  | .h264High444Predictive => .h264High444Predictive
  | .h264ScalableBaseline => .h264ScalableBaseline
  | .h264ScalableHigh => .h264ScalableHigh
  | .h264StereoHigh => .h264StereoHigh
  | .h264MultiviewHigh => .h264MultiviewHigh

def PixelFormat.convert : PixelFormat → Mojo.PixelFormat
  | .unknown => .unknown
  | .i420 => .i420
  | .yv12 => .yv12
  | .yv16 => .yv16
  | .yv12A => .yv12A
  | .yv24 => .yv24
  | .nv12 => .nv12
  | .nv21 => .nv21
  | .uyvy => .uyvy
  | .yuy2 => .yuy2
  | .argb => .argb
  | .xrgb => .xrgb
  | .rgb24 => .rgb24
  | .rgb32 => .rgb32
  | .mjpeg => .mjpeg
  | .mt21 => .mt21

def Mojo.PixelFormat.convert : Mojo.PixelFormat → MojoMedia.PixelFormat
  | .unknown => .unknown
  | .i420 => .i420
  | .yv12 => .yv12
  | .yv16 => .yv16
  | .yv12A => .yv12A
  | .yv24 => .yv24
  | .nv12 => .nv12
  | .nv21 => .nv21
  | .uyvy => .uyvy
  | .yuy2 => .yuy2
  | .argb => .argb
  | .xrgb => .xrgb
  | .rgb24 => .rgb24
  | .rgb32 => .rgb32
  | .mjpeg => .mjpeg
  | .mt21 => .mt21

def ColorSpace.convert : ColorSpace → Mojo.ColorSpace
  | .unknown => .unknown
  | .notApplicable => .notApplicable
  | .jpeg => .jpeg
  | .hdRec709 => .hdRec709
  | .sdRec601 => .sdRec601

def Mojo.ColorSpace.convert : Mojo.ColorSpace → MojoMedia.ColorSpace
  | .unknown => .unknown
  | .notApplicable => .notApplicable
  | .jpeg => .jpeg
  | .hdRec709 => .hdRec709
  | .sdRec601 => .sdRec601

@[simp] theorem SampleFormat.convert_convert (format : SampleFormat) :
    format.convert.convert = format := by
  cases format with
  | any | unsigned8 | signed16 | signed24In32 | float => rfl

@[simp] theorem VideoProfile.convert_convert (profile : VideoProfile) :
    profile.convert.convert = profile := by
  cases profile <;> rfl

@[simp] theorem PixelFormat.convert_convert (format : PixelFormat) :
    format.convert.convert = format := by
  cases format <;> rfl

@[simp] theorem ColorSpace.convert_convert (space : ColorSpace) :
    space.convert.convert = space := by
  cases space <;> rfl

def memcpy (destination source : List UInt8) (size : Nat) : List UInt8 :=
  source.take size ++ destination.drop size

def bytesToArray : Option (List UInt8) → Mojo.Array UInt8
  | none => .null
  | some bytes => .of (memcpy (List.replicate bytes.length 0) bytes bytes.length)

def arrayToBytes : Mojo.Array UInt8 → Option (List UInt8)
  | .null => none
  | .of elements =>
    some (memcpy (List.replicate elements.length 0) elements elements.length)

theorem memcpy_all (bytes : List UInt8) :
    memcpy (List.replicate bytes.length 0) bytes bytes.length = bytes := by
  rw [memcpy, List.take_length, List.drop_eq_nil_of_le (by simp), List.append_nil]

@[simp] theorem arrayToBytes_bytesToArray (bytes : Option (List UInt8)) :
    arrayToBytes (bytesToArray bytes) = bytes := by
  cases bytes with
  | none => rfl
  | some bytes =>
    rw [bytesToArray, memcpy_all, arrayToBytes, memcpy_all]

def StreamType.toMediaType (type : StreamType) : Mojo.MediaType :=
  match type.kind with
  | .audio audio =>
    { medium := .audio
      details := .audio
        { sampleFormat := audio.sampleFormat.convert
          channels := audio.channels
          framesPerSecond := audio.framesPerSecond }
      encoding := type.encoding
      encodingParameters := bytesToArray type.encodingParameters }
  | .video video =>
    { medium := .video
      details := .video
        { profile := video.profile.convert
          pixelFormat := video.pixelFormat.convert
          colorSpace := video.colorSpace.convert
          width := video.width
          height := video.height
          codedWidth := video.codedWidth
          codedHeight := video.codedHeight }
      encoding := type.encoding
      encodingParameters := bytesToArray type.encodingParameters }
  | .text =>
    { medium := .text
      details := .text
      encoding := type.encoding
      encodingParameters := bytesToArray type.encodingParameters }
  | .subpicture =>
    { medium := .subpicture
      details := .subpicture
      encoding := type.encoding
      encodingParameters := bytesToArray type.encodingParameters }

def Mojo.MediaTypeDetails.getAudio :
    Mojo.MediaTypeDetails → Except ConversionFailure Mojo.AudioMediaTypeDetails
  | .audio details => .ok details
  | _ => .error .dcheck

def Mojo.MediaTypeDetails.getVideo :
    Mojo.MediaTypeDetails → Except ConversionFailure Mojo.VideoMediaTypeDetails
  | .video details => .ok details
  | _ => .error .dcheck

def AudioStreamType.create (encoding : String) (encodingParameters : Option (List UInt8))
    (sampleFormat : SampleFormat) (channels framesPerSecond : UInt32) :
    Except ConversionFailure StreamType :=
  if sized : sampleFormat = .any then .error .abort
  else .ok
    { kind := .audio { sampleFormat, channels, framesPerSecond, sized }
      encoding
      encodingParameters }

def Mojo.MediaType.toStreamType (type : Mojo.MediaType) : Except ConversionFailure StreamType :=
  match type.medium with
  | .audio => do
    let audio ← type.details.getAudio
    AudioStreamType.create type.encoding (arrayToBytes type.encodingParameters)
      audio.sampleFormat.convert audio.channels audio.framesPerSecond
  | .video => do
    let video ← type.details.getVideo
    return {
      kind := .video
        { profile := video.profile.convert
          pixelFormat := video.pixelFormat.convert
          colorSpace := video.colorSpace.convert
          width := video.width
          height := video.height
          codedWidth := video.codedWidth
          codedHeight := video.codedHeight }
      encoding := type.encoding
      encodingParameters := arrayToBytes type.encodingParameters }
  | .text => .ok
    { kind := .text
      encoding := type.encoding
      encodingParameters := arrayToBytes type.encodingParameters }
  | .subpicture => .ok
    { kind := .subpicture
      encoding := type.encoding
      encodingParameters := arrayToBytes type.encodingParameters }

theorem StreamType.roundTrip (type : StreamType) : type.toMediaType.toStreamType = .ok type := by
  obtain ⟨kind, encoding, parameters⟩ := type
  cases kind with
  | audio audio =>
    simp [toMediaType, Mojo.MediaType.toStreamType, Mojo.MediaTypeDetails.getAudio,
      AudioStreamType.create, audio.sized, bind, Except.bind]
  | video video =>
    simp [toMediaType, Mojo.MediaType.toStreamType, Mojo.MediaTypeDetails.getVideo, bind,
      Except.bind, pure, Except.pure]
  | text => simp [toMediaType, Mojo.MediaType.toStreamType]
  | subpicture => simp [toMediaType, Mojo.MediaType.toStreamType]

def StreamTypeSet.toMediaTypeSet (set : StreamTypeSet) : Mojo.MediaTypeSet :=
  match set.kind with
  | .audio audio =>
    { medium := .audio
      details := .audio
        { sampleFormat := audio.sampleFormat.convert
          minChannels := audio.channels.min
          maxChannels := audio.channels.max
          minFramesPerSecond := audio.framesPerSecond.min
          maxFramesPerSecond := audio.framesPerSecond.max }
      encodings := .of set.encodings }
  | .video video =>
    { medium := .video
      details := .video
        { minWidth := video.width.min
          maxWidth := video.width.max
          minHeight := video.height.min
          maxHeight := video.height.max }
      encodings := .of set.encodings }
  | .text => { medium := .text, details := .text, encodings := .of set.encodings }
  | .subpicture =>
    { medium := .subpicture, details := .subpicture, encodings := .of set.encodings }

def Mojo.MediaTypeSetDetails.getAudio :
    Mojo.MediaTypeSetDetails → Except ConversionFailure Mojo.AudioMediaTypeSetDetails
  | .audio details => .ok details
  | _ => .error .dcheck

def Mojo.MediaTypeSetDetails.getVideo :
    Mojo.MediaTypeSetDetails → Except ConversionFailure Mojo.VideoMediaTypeSetDetails
  | .video details => .ok details
  | _ => .error .dcheck

def Range.create (min max : UInt32) : Except ConversionFailure Range :=
  if ordered : min ≤ max then .ok { min, max, ordered } else .error .dcheck

@[simp] theorem Range.create_ends (range : Range) :
    Range.create range.min range.max = .ok range := by
  simp [Range.create, range.ordered]

def arrayToVector : Mojo.Array String → List String
  | .null => []
  | .of encodings => encodings

def Mojo.MediaTypeSet.toStreamTypeSet (set : Mojo.MediaTypeSet) :
    Except ConversionFailure StreamTypeSet :=
  match set.medium with
  | .audio => do
    let audio ← set.details.getAudio
    let channels ← Range.create audio.minChannels audio.maxChannels
    let framesPerSecond ← Range.create audio.minFramesPerSecond audio.maxFramesPerSecond
    return {
      kind := .audio { sampleFormat := audio.sampleFormat.convert, channels, framesPerSecond }
      encodings := arrayToVector set.encodings }
  | .video => do
    let video ← set.details.getVideo
    let width ← Range.create video.minWidth video.maxWidth
    let height ← Range.create video.minHeight video.maxHeight
    return { kind := .video { width, height }, encodings := arrayToVector set.encodings }
  | .text => .ok { kind := .text, encodings := arrayToVector set.encodings }
  | .subpicture => .ok { kind := .subpicture, encodings := arrayToVector set.encodings }

theorem StreamTypeSet.roundTrip (set : StreamTypeSet) :
    set.toMediaTypeSet.toStreamTypeSet = .ok set := by
  obtain ⟨kind, encodings⟩ := set
  cases kind with
  | audio audio =>
    simp [toMediaTypeSet, Mojo.MediaTypeSet.toStreamTypeSet, Mojo.MediaTypeSetDetails.getAudio,
      arrayToVector, bind, Except.bind, pure, Except.pure]
  | video video =>
    simp [toMediaTypeSet, Mojo.MediaTypeSet.toStreamTypeSet, Mojo.MediaTypeSetDetails.getVideo,
      arrayToVector, bind, Except.bind, pure, Except.pure]
  | text => simp [toMediaTypeSet, Mojo.MediaTypeSet.toStreamTypeSet, arrayToVector]
  | subpicture => simp [toMediaTypeSet, Mojo.MediaTypeSet.toStreamTypeSet, arrayToVector]

section Vectors

variable {α β : Type}

def vectorToArray (convert : α → β) : Option (List (Option α)) → Mojo.Array (Option β)
  | none => .null
  | some vector => vector.foldl (fun result element => result.pushBack (element.map convert))
      (Mojo.Array.new none vector.length)

def convertPointer (convert : β → Except ConversionFailure α) :
    Option β → Except ConversionFailure (Option α)
  | none => .ok none
  | some element => (convert element).map some

def arrayToPointers (convert : β → Except ConversionFailure α) :
    Mojo.Array (Option β) → Except ConversionFailure (Option (List (Option α)))
  | .null => .ok none
  | .of elements => (elements.mapM (convertPointer convert)).map some

theorem pushed (convert : α → β) (vector : List (Option α)) (elements : List (Option β)) :
    vector.foldl (fun result element => Mojo.Array.pushBack result (element.map convert))
        (.of elements) = .of (elements ++ vector.map (Option.map convert)) := by
  induction vector generalizing elements with
  | nil => simp
  | cons element rest ih =>
    rw [List.foldl_cons, Mojo.Array.pushBack, ih, List.map_cons, List.append_assoc]
    rfl

theorem vectorToArray_some (convert : α → β) (vector : List (Option α)) :
    vectorToArray convert (some vector) =
      .of (List.replicate vector.length none ++ vector.map (Option.map convert)) :=
  pushed convert vector _

variable {there : α → β} {back : β → Except ConversionFailure α}

theorem mapM_nulls (count : Nat) :
    (List.replicate count none).mapM (convertPointer back) = .ok (List.replicate count none) := by
  induction count with
  | zero => rfl
  | succ count ih => simp [List.replicate_succ, ih, convertPointer, bind, Except.bind, pure,
      Except.pure]

theorem mapM_converted (inverse : ∀ element, back (there element) = .ok element)
    (vector : List (Option α)) :
    (vector.map (Option.map there)).mapM (convertPointer back) = .ok vector := by
  induction vector with
  | nil => rfl
  | cons element rest ih =>
    have same : convertPointer back (element.map there) = .ok element := by
      cases element with
      | none => rfl
      | some element => simp [convertPointer, inverse, Except.map]
    simp [same, ih, bind, Except.bind, pure, Except.pure]

theorem vector_roundTrip (inverse : ∀ element, back (there element) = .ok element)
    (vector : List (Option α)) :
    arrayToPointers back (vectorToArray there (some vector)) =
      .ok (some (List.replicate vector.length none ++ vector)) := by
  rw [vectorToArray_some, arrayToPointers, List.mapM_append, mapM_nulls,
    mapM_converted inverse]
  rfl

theorem doubled_iff (vector : List (Option α)) :
    List.replicate vector.length none ++ vector = vector ↔ vector = [] := by
  constructor
  · intro same
    have lengths := congrArg List.length same
    rw [List.length_append, List.length_replicate] at lengths
    exact List.length_eq_zero_iff.mp (by omega)
  · intro empty
    rw [empty]
    rfl

theorem vector_preserved_iff (inverse : ∀ element, back (there element) = .ok element)
    (vector : List (Option α)) :
    arrayToPointers back (vectorToArray there (some vector)) = .ok (some vector) ↔
      vector = [] := by
  rw [vector_roundTrip inverse, ← doubled_iff vector]
  simp only [Except.ok.injEq, Option.some.injEq]

end Vectors

def streamTypesToArray : Option (List (Option StreamType)) → Mojo.Array (Option Mojo.MediaType) :=
  vectorToArray StreamType.toMediaType

def arrayToStreamTypes : Mojo.Array (Option Mojo.MediaType) →
    Except ConversionFailure (Option (List (Option StreamType))) :=
  arrayToPointers Mojo.MediaType.toStreamType

def streamTypeSetsToArray :
    Option (List (Option StreamTypeSet)) → Mojo.Array (Option Mojo.MediaTypeSet) :=
  vectorToArray StreamTypeSet.toMediaTypeSet

def arrayToStreamTypeSets : Mojo.Array (Option Mojo.MediaTypeSet) →
    Except ConversionFailure (Option (List (Option StreamTypeSet))) :=
  arrayToPointers Mojo.MediaTypeSet.toStreamTypeSet

theorem vectors_preserved_iff (types : List (Option StreamType))
    (sets : List (Option StreamTypeSet)) :
    (arrayToStreamTypes (streamTypesToArray (some types)) = .ok (some types) ↔ types = []) ∧
    (arrayToStreamTypeSets (streamTypeSetsToArray (some sets)) = .ok (some sets) ↔ sets = []) :=
  ⟨vector_preserved_iff StreamType.roundTrip types,
    vector_preserved_iff StreamTypeSet.roundTrip sets⟩

theorem text_doubled :
    let types : List (Option StreamType) :=
      [some { kind := .text, encoding := "srt", encodingParameters := none }]
    arrayToStreamTypes (streamTypesToArray (some types)) = .ok (some (none :: types)) ∧
      ¬ arrayToStreamTypes (streamTypesToArray (some types)) = .ok (some types) := by
  decide

end MojoMedia
