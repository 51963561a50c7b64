import Mathlib.Logic.Function.Basic
import MojoMedia.FactoryService.MediaPlayer
import MojoMedia.Framework.CallbackJoiner
import MojoMedia.FrameworkMojo.StreamTypes

set_option autoImplicit false

-- A sink is made for every stream that is enabled, with a decoder before it if the stream is
-- compressed. The other processes answer in any order.
namespace MojoMedia

open Framework

inductive StartupCall where
  | connectDecoder (index : Nat)
  | getOutputType (index : Nat)
  | connectSink (index : Nat)
  deriving Repr, DecidableEq

def StartupCall.index : StartupCall → Nat
  | .connectDecoder index | .getOutputType index | .connectSink index => index

-- `callbackJoiner` is the joiner of all streams and `streamJoiner` that of a stream with a
-- decoder. Both run the only callback that is registered with them.
structure PlayerStartup where
  player : MediaPlayer := { }
  mediaTypes : List Mojo.MediaType := []
  callbackJoiner : CallbackJoiner Unit := { }
  streamJoiner : Nat → CallbackJoiner Unit := fun _ => { }
  pending : List StartupCall := []
  factory : Bool := true
  preparations : Nat := 0

def kAudioEncodingLpcm : String := "lpcm"

def kVideoEncodingUncompressed : String := "uncompressed_video"

def isEnabled (mediaType : Mojo.MediaType) : Bool :=
  match mediaType.medium with
  | .audio | .video => true
  | .text | .subpicture => false

def isCompressed (mediaType : Mojo.MediaType) : Bool :=
  mediaType.encoding ≠ kAudioEncodingLpcm && mediaType.encoding ≠ kVideoEncodingUncompressed

namespace PlayerStartup

def compressed (startup : PlayerStartup) (index : Nat) : Bool :=
  startup.mediaTypes[index]?.any isCompressed

def whenPrepared (startup : PlayerStartup) : PlayerStartup :=
  { startup with
    factory := false
    preparations := startup.preparations + 1
    player := ({ startup.player.setReportedMediaState .paused with
      state := .paused
      joined := true } : MediaPlayer).update }

def runPrepared (startup : PlayerStartup) : Option Unit → PlayerStartup
  | some () => startup.whenPrepared
  | none => startup

def completeStream (startup : PlayerStartup) : Option PlayerStartup := do
  let completed ← startup.callbackJoiner.complete
  some ({ startup with callbackJoiner := completed.1 }.runPrepared completed.2)

def setStreamJoiner (startup : PlayerStartup) (index : Nat) (joiner : CallbackJoiner Unit) :
    PlayerStartup :=
  { startup with streamJoiner := Function.update startup.streamJoiner index joiner }

def ask (startup : PlayerStartup) (call : StartupCall) : PlayerStartup :=
  { startup with pending := startup.pending ++ [call] }

def completeChild (startup : PlayerStartup) (index : Nat) : Option PlayerStartup := do
  let completed ← (startup.streamJoiner index).complete
  let counted := startup.setStreamJoiner index completed.1
  match completed.2 with
  | some () => counted.completeStream
  | none => some counted

def createSink (startup : PlayerStartup) (index : Nat) : Option PlayerStartup :=
  if startup.factory then some (startup.ask (.connectSink index)) else none

def prepareStream (startup : PlayerStartup) (index : Nat) : Option PlayerStartup :=
  if startup.factory then
    if startup.compressed index then do
      let connecting := startup.ask (.connectDecoder index)
      let typing := connecting.ask (.getOutputType index)
      -- The two children keep the callback from being run here.
      let registered ← ({ } : CallbackJoiner Unit).spawn.spawn.whenJoined ()
      some (typing.setStreamJoiner index registered.1)
    else startup.createSink index
  else none

def pushStream (startup : PlayerStartup) (mediaType : Mojo.MediaType) : PlayerStartup :=
  { startup with
    mediaTypes := startup.mediaTypes ++ [mediaType]
    player := { startup.player with
      streams := startup.player.streams ++ [{ enabled := isEnabled mediaType }] } }

def spawn (startup : PlayerStartup) : PlayerStartup :=
  { startup with callbackJoiner := startup.callbackJoiner.spawn }

def describeStreams : Nat → List Mojo.MediaType → PlayerStartup → Option PlayerStartup
  | _, [], startup => some startup
  | index, mediaType :: rest, startup => do
    let pushed := startup.pushStream mediaType
    let prepared ← (if isEnabled mediaType then pushed.spawn.prepareStream index else some pushed)
    describeStreams (index + 1) rest prepared

def describe (startup : PlayerStartup) (mediaTypes : List Mojo.MediaType) :
    Option PlayerStartup := do
  let described ← describeStreams 0 mediaTypes { startup with
    callbackJoiner := { }
    player := { startup.player with described := true } }
  let registered ← described.callbackJoiner.whenJoined ()
  some ({ described with callbackJoiner := registered.1 }.runPrepared registered.2)

def connected (startup : PlayerStartup) (index : Nat) (stream : PlayerStream) : PlayerStartup :=
  { startup with player := { startup.player with
      streams := startup.player.streams.set index { stream with state := .paused } } }

def answer (startup : PlayerStartup) : StartupCall → Option PlayerStartup
  | .connectDecoder index => startup.completeChild index
  | .getOutputType index => do
    let spawned := startup.setStreamJoiner index (startup.streamJoiner index).spawn
    let asked ← spawned.createSink index
    asked.completeChild index
  | .connectSink index => do
    let stream ← startup.player.streams[index]?
    if stream.state = .unprepared ∧ (startup.player.reportedMediaState = .unprepared ∨
        startup.player.reportedMediaState = .fault) then
      let connected := startup.connected index stream
      if startup.compressed index then connected.completeChild index else connected.completeStream
    else none

inductive Event where
  | described (mediaTypes : List Mojo.MediaType)
  | answered (position : Nat)
  | player (event : MediaPlayer.Event)
  deriving Repr, DecidableEq

def isStartup : MediaPlayer.Event → Bool
  | .describe _ | .connected _ | .joined => true
  | _ => false

def step (startup : PlayerStartup) : Event → Option PlayerStartup
  | .described mediaTypes =>
    if startup.player.described then some startup else startup.describe mediaTypes
  | .answered position =>
    match startup.pending[position]? with
    | some call => { startup with pending := startup.pending.eraseIdx position }.answer call
    | none => some startup
  | .player event =>
    if isStartup event then some startup
    else some { startup with player := (startup.player.step event).getD startup.player }

end PlayerStartup

end MojoMedia
