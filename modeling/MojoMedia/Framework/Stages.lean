import Mathlib.Algebra.Group.Int.Defs
import Mathlib.Logic.Function.Basic
import MojoMedia.Shared.Runs
import MojoMedia.Shared.Transducers

set_option autoImplicit false

-- Stage 0 hosts an active source, stages 1 to `length` host transforms and the last one hosts an
-- active sink. Output `k` belongs to stage `k` and its mate is the input of stage `k + 1`.
namespace MojoMedia.Framework

open Transducers

structure Packet where
  pts : Int
  endOfStream : Bool
  payload : List UInt8
  deriving Repr, DecidableEq

def Packet.size (packet : Packet) : Nat := packet.payload.length

def Packet.kUnknownPts : Int := -2 ^ 63

inductive Demand where
  | negative
  | neutral
  | positive
  deriving Repr, DecidableEq

abbrev Transform := Transducer Packet Packet

structure Graph where
  length : Nat
  transform : Nat → Transform
  copyAllocator : Nat → Option (Nat → Bool)

-- `requests` are the stages whose `RequestUpdate` waits for the engine's lock, and `locked`
-- says that a thread holds it. `supplied` records what the source has supplied.
structure State (graph : Graph) where
  packets : List Packet := []
  downstreamDemand : Demand := .negative
  packetFromUpstream : Nat → Option Packet := fun _ => none
  transformState : (stage : Nat) → (graph.transform stage).State :=
    fun stage => (graph.transform stage).start
  inputPacketIsNew : Nat → Bool := fun _ => true
  demand : Nat → Demand := fun _ => .negative
  allocations : Nat → Nat := fun _ => 0
  sinkDemand : Demand := .negative
  received : List Packet := []
  supplied : List Packet := []
  supplyBacklog : List Nat := []
  demandBacklog : List Nat := []
  inSupplyBacklog : Nat → Bool := fun _ => false
  inDemandBacklog : Nat → Bool := fun _ => false
  packetsProduced : Bool := false
  requests : List Nat := []
  locked : Bool := false

namespace State

variable {graph : Graph}

def pushToSupplyBacklog (state : State graph) (stage : Nat) : State graph :=
  let produced := { state with packetsProduced := true }
  if state.inSupplyBacklog stage then produced
  else
    { produced with
      supplyBacklog := state.supplyBacklog ++ [stage]
      inSupplyBacklog := Function.update state.inSupplyBacklog stage true }

def pushToDemandBacklog (state : State graph) (stage : Nat) : State graph :=
  if state.inDemandBacklog stage then state
  else
    { state with
      demandBacklog := stage :: state.demandBacklog
      inDemandBacklog := Function.update state.inDemandBacklog stage true }

def outputDemand (state : State graph) (output : Nat) : Demand :=
  if state.demand output = .negative ∨ (state.packetFromUpstream (output + 1)).isSome then
    .negative
  else state.demand output

def supplyPacketFromOutput (state : State graph) (stage : Nat) (packet : Packet) :
    State graph :=
  { state with
    packetFromUpstream := Function.update state.packetFromUpstream stage (some packet) }

def deliver (state : State graph) (output : Nat) (packet : Packet) : State graph :=
  (state.supplyPacketFromOutput (output + 1) packet).pushToSupplyBacklog (output + 1)

def supplyPacket (state : State graph) (output : Nat) (packet : Packet) : State graph :=
  match graph.copyAllocator output with
  | none => state.deliver output packet
  | some allocatePayloadBuffer =>
    if packet.size = 0 then state.deliver output packet
    else
      let count := state.allocations output
      let allocated := { state with
        allocations := Function.update state.allocations output (count + 1) }
      if allocatePayloadBuffer count then
        allocated.deliver output
          { pts := packet.pts
            endOfStream := packet.endOfStream
            payload := packet.payload }
      else allocated

def setDemand (state : State graph) (output : Nat) (demand : Demand) : State graph :=
  if state.demand output = demand then state
  else
    { state with demand := Function.update state.demand output demand }.pushToDemandBacklog output

def updateSource (state : State graph) : State graph :=
  let demand := state.outputDemand 0
  let signalled := { state with downstreamDemand := demand }
  match state.packets with
  | [] => signalled
  | packet :: packets =>
    if demand = .negative then signalled
    else { signalled.supplyPacket 0 packet with packets := packets }

def transformPacket (state : State graph) (stage : Nat) (packet : Packet) : State graph :=
  let call := (graph.transform stage).call (state.transformState stage) packet
    (state.inputPacketIsNew stage)
  let called := { state with
    transformState := Function.update state.transformState stage call.state
    packetFromUpstream := Function.update state.packetFromUpstream stage
      (if call.done then none else some packet)
    inputPacketIsNew := Function.update state.inputPacketIsNew stage call.done }
  match call.output with
  | some output => called.supplyPacket stage output
  | none => called

def updateTransform (state : State graph) (stage : Nat) : State graph :=
  let transformed : State graph :=
    match state.packetFromUpstream stage with
    | some packet =>
      if state.outputDemand stage = .negative then state else state.transformPacket stage packet
    | none => state
  transformed.setDemand (stage - 1) (transformed.outputDemand stage)

def updateSink (state : State graph) (answer : Demand) : State graph :=
  let accepted : State graph :=
    match state.packetFromUpstream (graph.length + 1) with
    | some packet =>
      { state with
        packetFromUpstream :=
          Function.update state.packetFromUpstream (graph.length + 1) none
        received := state.received ++ [packet]
        sinkDemand := answer }
    | none => state
  accepted.setDemand graph.length accepted.sinkDemand

def updateStage (state : State graph) (stage : Nat) (answer : Demand) : State graph :=
  let idle := { state with packetsProduced := false }
  let updated :=
    if stage = 0 then idle.updateSource
    else if stage ≤ graph.length then idle.updateTransform stage
    else idle.updateSink answer
  if updated.packetsProduced then updated.pushToDemandBacklog stage else updated

def update (state : State graph) (answer : Demand) : State graph :=
  match state.supplyBacklog, state.demandBacklog with
  | stage :: rest, _ =>
    { state with
      supplyBacklog := rest
      inSupplyBacklog := Function.update state.inSupplyBacklog stage false }.updateStage
        stage answer
  | [], stage :: rest =>
    { state with
      demandBacklog := rest
      inDemandBacklog := Function.update state.inDemandBacklog stage false }.updateStage
        stage answer
  | [], [] => { state with locked := false }

-- The supply callback of the source. Only its request needs the engine's lock.
def supply (state : State graph) (packet : Packet) : State graph :=
  { state with
    packets := state.packets ++ [packet]
    supplied := state.supplied ++ [packet]
    requests := if state.packets = [] then state.requests ++ [0] else state.requests }

def changeDemand (state : State graph) (demand : Demand) : State graph :=
  if state.sinkDemand = demand then state
  else
    { state with
      sinkDemand := demand
      requests := state.requests ++ [graph.length + 1] }

end State

inductive Event where
  | supply (packet : Packet)
  | demand (demand : Demand)
  | requestUpdate (position : Nat) (answer : Demand)
  | update (answer : Demand)
  deriving Repr, DecidableEq

variable {graph : Graph}

def step (state : State graph) : Event → Option (State graph)
  | .supply packet => some (state.supply packet)
  | .demand demand => some (state.changeDemand demand)
  | .requestUpdate position answer =>
    if state.locked then none
    else
      match state.requests[position]? with
      | none => none
      | some stage =>
        some ({ state with
          locked := true
          requests := state.requests.eraseIdx position }.updateStage stage answer)
  | .update answer => if state.locked then some (state.update answer) else none

def copied (copyAllocator : Option (Nat → Bool)) : Nat → List Packet → List Packet
  | _, [] => []
  | count, packet :: packets =>
    match copyAllocator with
    | none => packet :: copied copyAllocator count packets
    | some allocatePayloadBuffer =>
      if packet.size = 0 then packet :: copied copyAllocator count packets
      else if allocatePayloadBuffer count then
        packet :: copied copyAllocator (count + 1) packets
      else copied copyAllocator (count + 1) packets

def Graph.transformed (graph : Graph) : Nat → List Packet → List Packet
  | 0, supplied => supplied
  | stage + 1, supplied =>
    (graph.transform (stage + 1)).outputs (graph.transform (stage + 1)).start true
      (graph.transformed stage supplied)

def Graph.passed (graph : Graph) : Nat → List Packet → List Packet
  | 0, supplied => copied (graph.copyAllocator 0) 0 supplied
  | stage + 1, supplied =>
    copied (graph.copyAllocator (stage + 1)) 0
      ((graph.transform (stage + 1)).outputs (graph.transform (stage + 1)).start true
        (graph.passed stage supplied))

end MojoMedia.Framework
