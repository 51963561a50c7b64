import MojoMedia.Shared.MachineInt
import MojoMedia.Framework.Stages

set_option autoImplicit false

-- What `av_read_frame` yields comes with the wake.
namespace MojoMedia

open MachineInt Framework

def avNoptsValue : Int := -2 ^ 63

structure AvPacket where
  streamIndex : Nat
  pts : Int
  duration : Int
  data : List UInt8
  deriving Repr, DecidableEq

-- `nextStreamToEnd` is none for -1. `supplying` is the packet that the worker is about to supply,
-- and `notReached` records whether a packet was pulled after all streams have ended.
structure FfmpegDemux where
  streamCount : Nat
  packetRequested : Bool := false
  seekPosition : Int
  nextPts : Int := 0
  nextStreamToEnd : Option Nat := none
  supplying : Option (Nat × Packet) := none
  notReached : Bool := false
  deriving Repr, DecidableEq

namespace FfmpegDemux

def kNotSeeking : Int := 2 ^ 63 - 1

def create (streamCount : Nat) : FfmpegDemux :=
  { streamCount, seekPosition := kNotSeeking }

def seek (demux : FfmpegDemux) (position : Int) : FfmpegDemux :=
  { demux with seekPosition := position }

def requestPacket (demux : FfmpegDemux) : FfmpegDemux :=
  { demux with packetRequested := true }

def demuxPacket (avPacket : AvPacket) : Packet :=
  { pts := if avPacket.pts = avNoptsValue then Packet.kUnknownPts else avPacket.pts
    endOfStream := false
    payload := avPacket.data }

def createEndOfStream (pts : Int) : Packet :=
  { pts
    endOfStream := true
    payload := [] }

def pullEndOfStreamPacket (demux : FfmpegDemux) (nextStreamToEnd : Nat) : FfmpegDemux :=
  if demux.streamCount ≤ nextStreamToEnd then
    { demux with
      nextStreamToEnd := some nextStreamToEnd
      notReached := true }
  else
    { demux with
      nextStreamToEnd := some (nextStreamToEnd + 1)
      supplying := some (nextStreamToEnd, createEndOfStream demux.nextPts) }

def pullPacket (demux : FfmpegDemux) (frame : Option AvPacket) : FfmpegDemux :=
  match demux.nextStreamToEnd with
  | some nextStreamToEnd => demux.pullEndOfStreamPacket nextStreamToEnd
  | none =>
    match frame with
    | none => demux.pullEndOfStreamPacket 0
    | some avPacket =>
      { demux with
        nextPts := s64 (avPacket.pts + avPacket.duration)
        supplying := some (avPacket.streamIndex, demuxPacket avPacket) }

def wake (demux : FfmpegDemux) (frame : Option AvPacket) : Option FfmpegDemux :=
  if demux.supplying = none ∧ (demux.packetRequested ∨ demux.seekPosition ≠ kNotSeeking) then
    let seeked :=
      { demux with
        packetRequested := false
        seekPosition := kNotSeeking
        nextStreamToEnd :=
          if demux.seekPosition ≠ kNotSeeking then none else demux.nextStreamToEnd }
    some (if demux.packetRequested then seeked.pullPacket frame else seeked)
  else none

end FfmpegDemux

end MojoMedia
