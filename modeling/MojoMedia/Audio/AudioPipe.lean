import MojoMedia.Audio.TransformCache
import MojoMedia.Audio.LinearSampler

set_option autoImplicit false

-- A pointer into the shared buffer is an offset from its base.
namespace MojoMedia.Audio

open Mixers

structure MediaPacketRegion where
  offset : UInt64
  length : UInt64
  deriving Repr, DecidableEq

def kNoTimestamp : Int64 := 0x7fffffffffffffff

structure MediaPacket where
  pts : Int64 := kNoTimestamp
  payload : Option MediaPacketRegion
  extraPayload : Option (List (Option MediaPacketRegion)) := none
  deriving Repr, DecidableEq

def MediaPacket.regionPtrs (packet : MediaPacket) : List (Option MediaPacketRegion) :=
  packet.payload :: packet.extraPayload.getD []

def MediaPacket.regions (packet : MediaPacket) : List MediaPacketRegion :=
  packet.regionPtrs.reduceOption

inductive PacketError where
  | noBuffer
  | missingRegion (index : Nat)
  | outOfRange (index : Nat)
  | notDivisible (index : Nat)
  | tooManyFrames (index : Nat) (frameCount : UInt32)
  | ptsOverflow (pts : Int64)
  deriving Repr, DecidableEq

structure AudioRegion where
  base : UInt64
  fracFrameLen : UInt32
  deriving Repr, DecidableEq

structure AudioPacketRef where
  regions : List AudioRegion
  startPts : Int64
  endPts : Int64
  deriving Repr, DecidableEq

structure PipeOwner where
  bytesPerFrame : UInt32
  frameToMediaRatio : Ratio
  framed : bytesPerFrame ≠ 0

structure AudioPipe where
  bound : Bool := true
  buffer : Option UInt64 := none
  nextPts : Option Int64 := none
  deriving Repr, DecidableEq

def kMaxFrames : UInt32 := (0xFFFFFFFF : UInt32) >>> 12

def checkRegions (size : UInt64) :
    Nat → List (Option MediaPacketRegion) → Except PacketError Unit
  | _, [] => .ok ()
  | index, none :: _ => .error (.missingRegion index)
  | index, some region :: rest =>
    if size < region.offset ∨ size - region.offset < region.length then
      .error (.outOfRange index)
    else checkRegions size (index + 1) rest

def countFrames (frameSize : UInt32) :
    Nat → UInt32 → List MediaPacketRegion → Except PacketError (List AudioRegion × UInt32)
  | _, frameCount, [] => .ok ([], frameCount)
  | index, frameCount, region :: rest =>
    if 1 < frameSize ∧ region.length % frameSize.toUInt64 ≠ 0 then .error (.notDivisible index)
    else
      let frameCount := frameCount + (region.length / frameSize.toUInt64).toUInt32
      if kMaxFrames < frameCount then .error (.tooManyFrames index frameCount)
      else
        match countFrames frameSize (index + 1) frameCount rest with
        | .error failed => .error failed
        | .ok (regions, total) =>
          .ok ({ base := region.offset, fracFrameLen := frameCount <<< 12 } :: regions, total)

namespace AudioPipe

def startPts (self : AudioPipe) (owner : PipeOwner) (pts : Int64) : Option Int64 :=
  if pts ≠ kNoTimestamp then (scaling owner.frameToMediaRatio).doForwardTransform pts
  else some (self.nextPts.getD 0)

def onPacketReceived (self : AudioPipe) (owner : PipeOwner) (packet : MediaPacket) :
    Except PacketError (AudioPacketRef × AudioPipe) := do
  let (regions, frameCount) ← countFrames owner.bytesPerFrame 0 0 packet.regions
  match self.startPts owner packet.pts with
  | none => .error (.ptsOverflow packet.pts)
  | some startPts =>
    let nextPts := startPts + Int64.ofNat (frameCount.toNat * 2 ^ ptsFractionalBits)
    .ok ({ regions, startPts, endPts := nextPts }, { self with nextPts := some nextPts })

def accept (self : AudioPipe) (owner : PipeOwner) (packet : MediaPacket) :
    Except PacketError (AudioPacketRef × AudioPipe) :=
  match self.buffer with
  | none => .error .noBuffer
  | some size => do
    checkRegions size 0 packet.regionPtrs
    self.onPacketReceived owner packet

def reset (self : AudioPipe) : AudioPipe := { self with bound := false, buffer := none }

def sendPacket (self : AudioPipe) (owner : PipeOwner) (packet : MediaPacket) :
    Except PacketError AudioPacketRef × AudioPipe :=
  match self.accept owner packet with
  | .error failed => (.error failed, self.reset)
  | .ok (ref, next) => (.ok ref, next)

end AudioPipe

def MediaPacketRegion.frames (frameSize : UInt32) (region : MediaPacketRegion) : Nat :=
  region.length.toNat / frameSize.toNat

def AudioRegion.Denotes (frameSize : UInt32) (region : AudioRegion) (byte : Nat) : Prop :=
  region.base.toNat ≤ byte ∧
    byte < region.base.toNat + region.fracFrameLen.toNat / 2 ^ ptsFractionalBits * frameSize.toNat

def MediaPacketRegion.Contains (region : MediaPacketRegion) (byte : Nat) : Prop :=
  region.offset.toNat ≤ byte ∧ byte < region.offset.toNat + region.length.toNat

def AudioPacketRef.fracFrames (ref : AudioPacketRef) : Nat :=
  (ref.regions.map fun region => region.fracFrameLen.toNat).sum

-- A packet holds one region for each region it was sent with, as long as that region and within
-- it, and lasts as long as its regions do.
structure AudioPacketRef.Faithful (frameSize : UInt32) (size : UInt64)
    (payload : List MediaPacketRegion) (ref : AudioPacketRef) : Prop where
  lengths : List.Forall₂ (fun region sent => region.fracFrameLen.toNat =
    sent.frames frameSize * 2 ^ ptsFractionalBits) ref.regions payload
  duration : (ref.fracFrames : Int) = ref.endPts.toInt - ref.startPts.toInt
  inside : List.Forall₂ (fun region sent => ∀ byte, AudioRegion.Denotes frameSize region byte →
    sent.Contains byte ∧ byte < size.toNat) ref.regions payload

end MojoMedia.Audio
