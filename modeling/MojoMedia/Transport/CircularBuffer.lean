import MojoMedia.Shared.MachineInt

set_option autoImplicit false

-- Lengths and offsets are 64-bit, the flush generation and the sequence numbers 32-bit. Pointers
-- into the mapped buffer are offsets from `buffer_`. Debug assertions are compiled out.
namespace MojoMedia.CircularBuffer

open MachineInt

inductive MediaResult where
  | ok
  | unknownError
  | internalError
  | notImplemented
  | unsupportedOperation
  | unsupportedConfig
  | invalidArgument
  | insufficientResources
  | badState
  | bufOverflow
  | flushed
  | busy
  | protocolError
  | alreadyExists
  | notFound
  | shuttingDown
  | connectionLost
  deriving Repr, DecidableEq

inductive SendResult where
  | consumed
  | flushed
  deriving Repr, DecidableEq

structure MediaPacketRegion where
  offset : Nat
  length : Nat
  deriving Repr, DecidableEq

structure MediaPacket where
  payload : MediaPacketRegion
  extraPayload : List MediaPacketRegion
  deriving Repr, DecidableEq

structure MappedPacket where
  packet : Option MediaPacket := none
  data : Option Nat × Option Nat := (none, none)
  length : Nat × Nat := (0, 0)
  cancelWr : Nat := 0
  flushGeneration : Nat := 0
  deriving Repr, DecidableEq

def MappedPacket.reset (packet : MappedPacket) : MappedPacket :=
  { packet with packet := none, data := (none, none), length := (0, 0), cancelWr := 0 }

structure PacketState where
  postConsumeRd : Nat
  seqNum : Nat
  cbk : Option Nat
  deriving Repr, DecidableEq

-- A message written to the `MediaConsumer` end of the pipe.
inductive PipeMessage where
  | setBuffer
  | sendPacket (seqNum : Nat) (packet : MediaPacket)
  | flush
  deriving Repr, DecidableEq

structure Adapter where
  pipeBound : Bool := true
  signalCbk : Option Nat := none
  flushInProgress : Bool := false
  faultCbkMade : Bool := false
  cbkScheduled : Bool := false
  hiWaterMark : Nat := 0
  loWaterMark : Nat := 0
  signalled : Bool := false
  internalState : MediaResult := .ok
  bufferHandle : Bool := false
  buffer : Bool := false
  bufferSize : Nat := 0
  rd : Nat := 0
  wr : Nat := 0
  flushGeneration : Nat := 0
  seqNumGen : Nat := 0
  inFlightQueue : List PacketState := []
  -- Tasks posted to the run loop that have not run yet.
  postedTasks : Nat := 0
  deriving Repr, DecidableEq

structure Outcome where
  result : MediaResult
  packet : MappedPacket
  adapter : Adapter
  messages : List PipeMessage := []

namespace Adapter

def faulted (adapter : Adapter) : Bool := adapter.internalState != .ok

def busy (adapter : Adapter) : Bool := adapter.flushInProgress

def getPending (adapter : Adapter) : Nat :=
  if !adapter.buffer then 0
  else u64 (subU64 adapter.wr adapter.rd +
    if adapter.wr < adapter.rd then adapter.bufferSize else 0)

def getBufferSize (adapter : Adapter) : Nat :=
  if !adapter.buffer then 0 else subU64 adapter.bufferSize 1

def nextSignalled (adapter : Adapter) : Bool :=
  if adapter.faulted then true
  else if adapter.busy then false
  else if !adapter.signalled && decide (adapter.getPending < adapter.loWaterMark) then true
  else if adapter.signalled && decide (adapter.hiWaterMark ≤ adapter.getPending) then false
  else adapter.signalled

def updateSignalled (adapter : Adapter) : Adapter :=
  let adapter := { adapter with signalled := adapter.nextSignalled }
  if adapter.signalled && !adapter.cbkScheduled && !adapter.faultCbkMade then
    { adapter with postedTasks := adapter.postedTasks + 1, cbkScheduled := true }
  else adapter

def cleanup (adapter : Adapter) : Adapter :=
  { adapter with
    pipeBound := false
    buffer := false
    bufferHandle := false
    rd := 0
    wr := 0
    inFlightQueue := []
    signalCbk := none
    internalState := .shuttingDown }

def fault (adapter : Adapter) (reason : MediaResult) : Adapter :=
  if adapter.internalState = .ok then
    ({ adapter with internalState := reason }).cleanup.updateSignalled
  else adapter.updateSignalled

-- Results of `CreateSharedBuffer`, `MapBuffer` and `DuplicateBuffer`.
structure BufferCalls where
  create : Bool
  map : Bool
  duplicate : Bool

def init (adapter : Adapter) (size : Nat) (calls : BufferCalls) : Adapter × List PipeMessage :=
  if adapter.bufferHandle then
    (if adapter.bufferSize ≠ size then adapter.fault .badState else adapter, [])
  else if !calls.create then (adapter.fault .insufficientResources, [])
  else
    let adapter := { adapter with bufferHandle := true, bufferSize := size }
    if !calls.map then (adapter.fault .unknownError, [])
    else
      let adapter := { adapter with buffer := true }
      if !calls.duplicate then (adapter.fault .unknownError, [])
      else (adapter, [.setBuffer])

def setSignalCallback (adapter : Adapter) (cbk : Option Nat) : Adapter :=
  let adapter := { adapter with signalCbk := cbk }
  if cbk.isSome then adapter.updateSignalled else adapter

def setWatermarks (adapter : Adapter) (hiWaterMark loWaterMark : Nat) : Adapter :=
  if hiWaterMark < loWaterMark then adapter
  else ({ adapter with hiWaterMark, loWaterMark }).updateSignalled

-- The allocation is padded out to the start of the buffer.
def pads (adapter : Adapter) (size : Nat) (noWrap : Bool) : Bool :=
  noWrap && decide (adapter.rd < adapter.wr) &&
    decide (subU64 adapter.bufferSize adapter.wr < size)

def allocStart (adapter : Adapter) (size : Nat) (noWrap : Bool) : Nat :=
  if adapter.pads size noWrap then 0 else adapter.wr

-- Payload and extra payload of an allocation, in non-modulo space.
def allocRegions (bufferSize allocStart allocEnd size : Nat) : MediaPacket :=
  if bufferSize < allocEnd then
    let length := subU64 bufferSize allocStart
    { payload := ⟨allocStart, length⟩, extraPayload := [⟨0, subU64 size length⟩] }
  else { payload := ⟨allocStart, size⟩, extraPayload := [] }

-- The accept test: the end of the allocation lies within the pending region.
def endsInPending (adapter : Adapter) (allocEnd : Nat) : Bool :=
  let nonModWr := u64 (adapter.wr + if adapter.wr < adapter.rd then adapter.bufferSize else 0)
  decide (adapter.rd ≤ allocEnd) && decide (allocEnd < nonModWr)

def createMediaPacket (adapter : Adapter) (size : Nat) (noWrap : Bool)
    (packet : MappedPacket) : Outcome :=
  if adapter.faulted then { result := .badState, packet, adapter }
  else if adapter.busy then { result := .busy, packet, adapter }
  else if subU64 adapter.bufferSize 1 < size then
    { result := .insufficientResources, packet, adapter }
  else
    let allocStart := adapter.allocStart size noWrap
    let allocEnd := u64 (allocStart + size)
    if adapter.endsInPending allocEnd then
      { result := .insufficientResources, packet, adapter }
    else
      let media := allocRegions adapter.bufferSize allocStart allocEnd size
      { result := .ok
        packet :=
          { packet := some media
            data := (some media.payload.offset, media.extraPayload.head?.map (·.offset))
            length := (media.payload.length, (media.extraPayload.head?.map (·.length)).getD 0)
            cancelWr := adapter.wr
            flushGeneration := adapter.flushGeneration }
        adapter := ({ adapter with wr := allocEnd % adapter.bufferSize }).updateSignalled }

-- End of the last region, before it is brought back into the buffer.
def regionsEnd (packet : MediaPacket) : Nat :=
  match packet.extraPayload.head? with
  | some region => u64 (region.offset + region.length)
  | none => u64 (packet.payload.offset + packet.payload.length)

def sendMediaPacket (adapter : Adapter) (packet : MappedPacket) (cbk : Option Nat) : Outcome :=
  match packet.packet with
  | none => { result := .invalidArgument, packet, adapter }
  | some media =>
    let adapter := if adapter.pipeBound then adapter else adapter.fault .connectionLost
    if adapter.faulted || packet.flushGeneration != adapter.flushGeneration then
      { result := .flushed, packet := packet.reset, adapter }
    else
      let postConsumeRd :=
        if regionsEnd media = adapter.bufferSize then 0 else regionsEnd media
      let seqNum := adapter.seqNumGen
      { result := .ok
        packet := packet.reset
        adapter :=
          { adapter with
            seqNumGen := u32 (seqNum + 1)
            inFlightQueue := adapter.inFlightQueue ++ [⟨postConsumeRd, seqNum, cbk⟩] }
        messages := [.sendPacket seqNum media] }

def cancelMediaPacket (adapter : Adapter) (packet : MappedPacket) : Outcome :=
  match packet.packet with
  | none => { result := .invalidArgument, packet, adapter }
  | some _ =>
    if adapter.faulted || packet.flushGeneration != adapter.flushGeneration then
      { result := .flushed, packet := packet.reset, adapter }
    else
      { result := .ok
        packet := packet.reset
        adapter := ({ adapter with wr := packet.cancelWr }).updateSignalled }

def flush (adapter : Adapter) : Outcome :=
  if adapter.faulted then { result := .internalError, packet := {}, adapter }
  else if adapter.busy then { result := .busy, packet := {}, adapter }
  else
    { result := .ok
      packet := {}
      adapter :=
        { adapter with
          inFlightQueue := []
          rd := 0
          wr := 0
          flushInProgress := true
          flushGeneration := u32 (adapter.flushGeneration + 1) }
      messages := [.flush] }

-- The read pointer may only move forwards, and not past the write pointer.
def validRd (adapter : Adapter) (newRd : Nat) : Bool :=
  let newRdNonModulo := u64 (newRd + if newRd < adapter.rd then adapter.bufferSize else 0)
  let wrNonModulo := u64 (adapter.wr + if adapter.wr < adapter.rd then adapter.bufferSize else 0)
  decide (adapter.rd ≤ newRdNonModulo) && decide (newRdNonModulo ≤ wrNonModulo)

-- The second component is the user callback that is run, if any.
def handleSendPacket (adapter : Adapter) (seqNum : Nat) (result : SendResult) :
    Adapter × Option (Nat × SendResult) :=
  match adapter.inFlightQueue with
  | [] => (adapter.fault .unknownError, none)
  | front :: rest =>
    if front.seqNum ≠ seqNum then (adapter.fault .unknownError, none)
    else
      let adapter := { adapter with inFlightQueue := rest }
      let adapter :=
        if adapter.flushInProgress then adapter
        else if adapter.validRd front.postConsumeRd then
          ({ adapter with rd := front.postConsumeRd }).updateSignalled
        else adapter.fault .unknownError
      (adapter, front.cbk.map fun cbk => (cbk, result))

-- `pop_front` on an empty deque is undefined, so there is no adapter after it.
def handleFlush (adapter : Adapter) : Option Adapter :=
  if adapter.faulted then some adapter
  else if !adapter.flushInProgress then some (adapter.fault .protocolError)
  else
    match adapter.inFlightQueue with
    | [] => none
    | _ :: rest =>
      some ({ adapter with
        rd := 0
        wr := 0
        inFlightQueue := rest
        flushInProgress := false }).updateSignalled

-- The second component is the state the user's signal callback is given.
def handleSignalCallback (adapter : Adapter) : Adapter × Option MediaResult :=
  let adapter := { adapter with cbkScheduled := false }
  if adapter.faultCbkMade || !adapter.signalled then (adapter, none)
  else if adapter.signalCbk.isNone then (adapter, none)
  else
    ({ adapter with faultCbkMade := adapter.faultCbkMade || adapter.faulted },
      some adapter.internalState)

end Adapter

end MojoMedia.CircularBuffer
