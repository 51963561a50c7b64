import MojoMedia.Common.RateControl
import MojoMedia.FrameworkMojo.MediaTransport

set_option autoImplicit false

-- The sink keeps a transform from local time to frames, and reports it to clients with frames
-- turned into ticks of the local clock.
namespace MojoMedia

structure FrameRate where
  framesPerSecond : UInt32
  positive : 0 < framesPerSecond.toNat
  exact : framesPerSecond.toNat < 2 ^ 24
  deriving DecidableEq

inductive SinkRate where
  | stopped
  | normal
  deriving Repr, DecidableEq

inductive SinkDestination where
  | nowhere
  | audioServer
  deriving Repr, DecidableEq

def FrameRate.times (frameRate : FrameRate) : SinkRate → UInt32
  | .stopped => 0
  | .normal => frameRate.framesPerSecond

structure MediaSink where
  -- `ready_` has occurred.
  ready : Bool := false
  -- `rate_control_` and `frames_per_second_`, when the track is configured.
  frameRate : Option FrameRate := none
  producerState : MediaState := .unprepared
  rate : SinkRate := .stopped
  targetRate : SinkRate := .stopped
  transform : LinearTransform := { scale := .reduced 0 1 }
  statusTransform : Option TimelineQuad := none
  flushed : Bool := true
  -- `GetFirstPtsSinceFlush` of the producer.
  firstPts : Int64 := Int64.minValue
  -- A `DCHECK` has failed.
  failed : Bool := false
  deriving DecidableEq

namespace MediaSink

def kUnknownPts : Int64 := Int64.minValue

def localSecondsPerTick : Ratio := .reduced 1 1000000000

def framesPerTick (framesPerSecond : UInt32) : Ratio × Bool :=
  Ratio.compose localSecondsPerTick (.reduced framesPerSecond 1)

def startLocalTime (now : Int64) : Int64 := now + 30000000

def startPts (sink : MediaSink) : Option Int64 :=
  if sink.flushed ∧ sink.firstPts ≠ kUnknownPts then some sink.firstPts else none

def startMediaTime (sink : MediaSink) (startLocalTime : Int64) : Option Int64 :=
  match sink.startPts with
  | some pts => some pts
  | none => sink.transform.doForwardTransform startLocalTime

def presentationQuad (frameRate : FrameRate) (quad : TimelineQuad) : Option TimelineQuad :=
  let localToPresentation : LinearTransform :=
    { scale := (framesPerTick frameRate.framesPerSecond).1 }
  match localToPresentation.doReverseTransform quad.referenceOffset,
    localToPresentation.doReverseTransform (.ofNat quad.referenceDelta.toNat) with
  | some referenceOffset, some presentationDelta =>
    let rate := Ratio.reduced (.ofInt presentationDelta.toInt) quad.targetDelta
    some
      { referenceOffset
        targetOffset := quad.targetOffset
        referenceDelta := rate.numerator
        targetDelta := rate.denominator }
  | _, _ => none

-- What `MaybeSetRate` does when there is a rate to set. Without an answer of one of the
-- transforms a check fails, and the sink stays as it is.
def setRate (sink : MediaSink) (frameRate : FrameRate) (now : Int64) :
    MediaSink × Option TimelineQuad :=
  let rate := framesPerTick (frameRate.times sink.targetRate)
  let frames := framesPerTick frameRate.framesPerSecond
  let targetOffset := startLocalTime now
  match sink.startMediaTime targetOffset with
  | none => ({ sink with failed := true }, none)
  | some referenceOffset =>
    let quad : TimelineQuad :=
      { referenceOffset
        targetOffset
        referenceDelta := rate.1.numerator
        targetDelta := rate.1.denominator }
    match presentationQuad frameRate quad with
    | none => ({ sink with failed := true }, none)
    | some status =>
      ({ sink with
          flushed := false
          transform := { scale := rate.1, aZero := targetOffset, bZero := referenceOffset }
          statusTransform := some status
          rate := sink.targetRate
          failed := sink.failed || !rate.2 || !frames.2 },
        some quad)

def maybeSetRate (sink : MediaSink) (now : Int64) : MediaSink × Option TimelineQuad :=
  if sink.producerState.isPrepared = false ∨ sink.rate = sink.targetRate then (sink, none)
  else
    match sink.frameRate with
    | none => ({ sink with rate := sink.targetRate }, none)
    | some frameRate => sink.setRate frameRate now

def play (sink : MediaSink) (now : Int64) : MediaSink × Option TimelineQuad :=
  { sink with targetRate := .normal }.maybeSetRate now

def pause (sink : MediaSink) (now : Int64) : MediaSink × Option TimelineQuad :=
  { sink with targetRate := .stopped }.maybeSetRate now

def statusChanged (sink : MediaSink) (state : MediaState) (now : Int64) :
    MediaSink × Option TimelineQuad :=
  let changed := { sink with producerState := state }
  if state = .ended then changed.pause now else (changed, none)

def connected (sink : MediaSink) (frameRate : FrameRate) (now : Int64) :
    MediaSink × Option TimelineQuad :=
  { sink with frameRate := some frameRate, ready := true }.maybeSetRate now

def flush (sink : MediaSink) : MediaSink :=
  { sink with firstPts := kUnknownPts, flushed := true }

def packet (sink : MediaSink) (pts : Int64) : MediaSink :=
  { sink with firstPts := if sink.firstPts = kUnknownPts then pts else sink.firstPts }

def refused (sink : MediaSink) : MediaSink := { sink with producerState := .fault }

def created : SinkDestination → MediaSink
  | .nowhere => { ready := true }
  | .audioServer => { }

def reportedState (sink : MediaSink) : MediaState :=
  if sink.producerState = .paused ∧ sink.rate ≠ .stopped then .playing else sink.producerState

end MediaSink

def TimelineQuad.transform (quad : TimelineQuad) : LinearTransform :=
  { scale := .reduced quad.referenceDelta quad.targetDelta
    aZero := quad.targetOffset
    bZero := quad.referenceOffset }

-- A change of the transform of the sink. `startPts` is what the media time starts at, if it does
-- not go on from the transform before.
structure SinkSeam where
  before : LinearTransform
  after : LinearTransform
  startPts : Option Int64
  deriving DecidableEq

-- A sink, the quads on their way to the rate control of its track, and the local clock.
structure SinkPlayback where
  sink : MediaSink := { }
  quads : List TimelineQuad := []
  track : RateControl := { }
  now : Int64 := 0
  seams : List SinkSeam := []
  deriving DecidableEq

namespace SinkPlayback

inductive Event where
  | wait (time : Int64)
  | refused
  | connected (frameRate : FrameRate)
  | play
  | pause
  | status (state : MediaState)
  | packet (pts : Int64)
  | flush
  | setCurrentQuad
  deriving DecidableEq

def created (destination : SinkDestination) : SinkPlayback := { sink := .created destination }

def move (playback : SinkPlayback) (moved : MediaSink × Option TimelineQuad) : SinkPlayback :=
  match moved.2 with
  | none => { playback with sink := moved.1 }
  | some quad =>
    { playback with
      sink := moved.1
      quads := playback.quads ++ [quad]
      seams := playback.seams ++
        [{ before := playback.sink.transform
           after := moved.1.transform
           startPts := playback.sink.startPts }] }

-- The graph is prepared, and packets, flushes and states of the producer come, when the sink
-- is ready. A producer is unprepared, paused or ended.
def step (playback : SinkPlayback) : Event → Option SinkPlayback
  | .wait time => if playback.now ≤ time then some { playback with now := time } else none
  | .refused =>
    if playback.sink.ready ∨ playback.sink.producerState = .fault then none
    else some { playback with sink := playback.sink.refused }
  | .connected frameRate =>
    if playback.sink.ready ∨ playback.sink.producerState = .fault then none
    else some (playback.move (playback.sink.connected frameRate playback.now))
  | .play => some (playback.move (playback.sink.play playback.now))
  | .pause => some (playback.move (playback.sink.pause playback.now))
  | .status state =>
    if playback.sink.ready ∧ state ≠ .playing then
      some (playback.move (playback.sink.statusChanged state playback.now))
    else none
  | .packet pts =>
    if playback.sink.ready then some { playback with sink := playback.sink.packet pts } else none
  | .flush =>
    if playback.sink.ready then some { playback with sink := playback.sink.flush } else none
  | .setCurrentQuad =>
    match playback.quads with
    | [] => none
    | quad :: rest =>
      some
        { playback with
          quads := rest
          track := (playback.track.setCurrentQuad quad playback.now).1 }

end SinkPlayback

end MojoMedia
