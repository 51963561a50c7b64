import Mathlib.Logic.Function.Basic
import MojoMedia.Common.LinearTransform
import MojoMedia.Audio.MixerUtils
import Mathlib.Data.UInt

set_option autoImplicit false

-- Both sets of links are changed by the main message loop, and an output's own thread begins its
-- shutdown and drops links whose track is gone.
namespace MojoMedia.Audio

open Mixers

inductive MediaTypeMedium where
  | audio
  | video
  | text
  | subpicture
  deriving Repr, DecidableEq

inductive AudioSampleFormat where
  | any
  | unsigned8
  | signed16
  | signed24In32
  | float
  deriving Repr, DecidableEq

structure AudioFormat where
  sampleFormat : AudioSampleFormat
  channels : UInt32
  framesPerSecond : UInt32
  deriving Repr, DecidableEq

structure AudioTypeSet where
  sampleFormat : AudioSampleFormat
  minChannels : UInt32
  maxChannels : UInt32
  minFramesPerSecond : UInt32
  maxFramesPerSecond : UInt32

def supportedAudioTypeSets : List AudioTypeSet :=
  [ { sampleFormat := .unsigned8
      minChannels := 1
      maxChannels := 2
      minFramesPerSecond := 1000
      maxFramesPerSecond := 48000 },
    { sampleFormat := .signed16
      minChannels := 1
      maxChannels := 2
      minFramesPerSecond := 1000
      maxFramesPerSecond := 48000 } ]

def AudioTypeSet.includes (set : AudioTypeSet) (format : AudioFormat) : Bool :=
  format.sampleFormat = set.sampleFormat ∧ set.minChannels ≤ format.channels ∧
    format.channels ≤ set.maxChannels ∧ set.minFramesPerSecond ≤ format.framesPerSecond ∧
    format.framesPerSecond ≤ set.maxFramesPerSecond

-- `details` is the audio member of the media type's details, if that is what they are.
structure Configuration where
  medium : MediaTypeMedium
  encoding : String
  details : Option AudioFormat
  audioFrameRatio : UInt32
  mediaTimeRatio : UInt32

inductive Mixer where
  | noOp
  | pointSampler (config : Config)
  | linearSampler (config : Config)
  deriving Repr, DecidableEq

def selectChannels (channels : UInt32) : Option Channels :=
  if channels = 1 then some .mono else if channels = 2 then some .stereo else none

def selectType : AudioSampleFormat → Option SType
  | .unsigned8 => some .uint8
  | .signed16 => some .int16
  | _ => none

def selectConfig (srcFormat dstFormat : AudioFormat) : Option Config := do
  let dst ← selectChannels dstFormat.channels
  let type ← selectType srcFormat.sampleFormat
  let src ← selectChannels srcFormat.channels
  some { dst, type, src }

def Mixer.select (srcFormat : AudioFormat) (optionalDstFormat : Option AudioFormat) :
    Option Mixer :=
  match optionalDstFormat with
  | none => some .noOp
  | some dstFormat =>
    let srcToDst := Ratio.reduced srcFormat.framesPerSecond dstFormat.framesPerSecond
    if srcToDst.numerator = 1 then (selectConfig srcFormat dstFormat).map .pointSampler
    else (selectConfig srcFormat dstFormat).map .linearSampler

-- `id` tells links apart, as their addresses do. The mixer was selected for `format`.
structure Link where
  id : Nat
  track : Nat
  output : Nat
  mixer : Mixer
  format : AudioFormat
  deriving Repr, DecidableEq

structure Track where
  pipeInitialized : Bool := false
  format : Option AudioFormat := none
  frameToMediaRatio : Ratio := { }
  bytesPerFrame : Nat := 1
  outputs : List Link := []

structure Output where
  format : Option AudioFormat
  shuttingDown : Bool := false
  links : List Link := []

def ptsFractionalScale : Ratio := Ratio.reduced (2 ^ 12) 1

def bytesPerSample : AudioSampleFormat → Nat
  | .unsigned8 => 1
  | .signed16 => 2
  | .signed24In32 => 4
  | _ => 2

def Configuration.accept (configuration : Configuration) (track : Track) : Option Track := do
  let format ← configuration.details
  if configuration.medium ≠ .audio ∨ configuration.encoding ≠ "lpcm" then none
  else if ¬ supportedAudioTypeSets.any fun set => set.includes format then none
  else if configuration.audioFrameRatio < 1 ∨ configuration.mediaTimeRatio < 1 then none
  else
    match Ratio.compose ptsFractionalScale
      (.reduced configuration.audioFrameRatio configuration.mediaTimeRatio) with
    | (_, false) => none
    | (frameToMediaRatio, true) =>
      some
        { track with
          pipeInitialized := true
          format := some format
          frameToMediaRatio
          bytesPerFrame := bytesPerSample format.sampleFormat * format.channels.toNat }

structure AudioServer where
  tracks : Nat → Option Track := fun _ => none
  outputs : Nat → Option Output
  managed : List Nat
  nextTrack : Nat := 0
  nextLink : Nat := 0

namespace AudioServer

def initialized (formats : List (Option AudioFormat)) : AudioServer :=
  { outputs := fun output => (formats[output]?).map fun format => { format }
    managed := List.range formats.length }

def setTrack (server : AudioServer) (index : Nat) (track : Option Track) : AudioServer :=
  { server with tracks := Function.update server.tracks index track }

def setOutput (server : AudioServer) (index : Nat) (output : Output) : AudioServer :=
  { server with outputs := Function.update server.outputs index (some output) }

def createTrack (server : AudioServer) : AudioServer :=
  { server.setTrack server.nextTrack (some { }) with nextTrack := server.nextTrack + 1 }

-- `AudioTrackImpl::Shutdown`. The track lets go of its links, and its owner of the track.
def shutdownTrack (server : AudioServer) (index : Nat) : AudioServer := server.setTrack index none

def addLink (server : AudioServer) (index : Nat) (track : Track) (format : AudioFormat)
    (outputIndex : Nat) : AudioServer :=
  match server.outputs outputIndex with
  | none => server
  | some output =>
    match Mixer.select format output.format with
    | none => server
    | some mixer =>
      if output.shuttingDown then server
      else
        let link : Link :=
          { id := server.nextLink, track := index, output := outputIndex, mixer, format }
        { (server.setOutput outputIndex { output with links := link :: output.links }).setTrack
            index (some { track with outputs := link :: track.outputs }) with
          nextLink := server.nextLink + 1 }

def selectOutputsForTrack (server : AudioServer) (index : Nat) : List Nat → AudioServer
  | [] => server
  | output :: rest =>
    match server.tracks index with
    | some track =>
      match track.format with
      | some format =>
        selectOutputsForTrack (server.addLink index track format output) index rest
      | none => server
    | none => server

def configure (server : AudioServer) (index : Nat) (track : Track)
    (configuration : Configuration) : AudioServer :=
  if track.pipeInitialized then server.shutdownTrack index
  else
    match configuration.accept track with
    | none => server.shutdownTrack index
    | some configured =>
      (server.setTrack index (some configured)).selectOutputsForTrack index server.managed

def removeOutput (server : AudioServer) (link : Link) : AudioServer :=
  match server.tracks link.track with
  | some track =>
    server.setTrack link.track
      (some { track with outputs := track.outputs.filter fun other => other ≠ link })
  | none => server

def shutdownOutput (server : AudioServer) (index : Nat) (output : Output) : AudioServer :=
  let unlinked := output.links.foldl removeOutput server
  { unlinked.setOutput index { output with shuttingDown := true, links := [] } with
    managed := server.managed.erase index }

inductive Event where
  | createTrack
  | configure (track : Nat) (configuration : Configuration)
  | pipeReset (track : Nat)
  | trackShutdown (track : Nat)
  | beginShutdown (output : Nat)
  | finishShutdown (output : Nat)
  | dropLink (output : Nat) (link : Link)
  | removeTrackLink (output : Nat) (link : Link)

def dropLink (server : AudioServer) (index : Nat) (output : Output) (link : Link) : AudioServer :=
  server.setOutput index
    { output with links := output.links.filter fun other => other ≠ link }

def step (server : AudioServer) : Event → Option AudioServer
  | .createTrack => some server.createTrack
  | .configure index configuration => do
    let track ← server.tracks index
    some (server.configure index track configuration)
  | .pipeReset index => do
    let track ← server.tracks index
    some (server.setTrack index (some { track with pipeInitialized := false }))
  | .trackShutdown index => do
    let _ ← server.tracks index
    some (server.shutdownTrack index)
  | .beginShutdown index => do
    let output ← server.outputs index
    some (server.setOutput index { output with shuttingDown := true })
  | .finishShutdown index => do
    let output ← server.outputs index
    if index ∈ server.managed then some (server.shutdownOutput index output) else none
  -- Processing finds that the track of a link is gone.
  | .dropLink index link => do
    let output ← server.outputs index
    if link ∈ output.links ∧ (server.tracks link.track).isNone ∧ ¬ output.shuttingDown then
      some (server.dropLink index output link)
    else none
  | .removeTrackLink index link => do
    let output ← server.outputs index
    if output.shuttingDown then some server else some (server.dropLink index output link)

end AudioServer

end MojoMedia.Audio
