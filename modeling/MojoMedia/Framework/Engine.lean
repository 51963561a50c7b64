import MojoMedia.Framework.ActiveMultistreamSource
import MojoMedia.Framework.MateSymmetry

set_option autoImplicit false

-- What the hosted parts answer while a stage is updated comes with the event.
namespace MojoMedia.Framework

-- Every connector is connected. Only outputs of sources that are mated with a sink copy what they
-- supply: a transform allocates its output packets where its mate wants them, and wants its own
-- input nowhere.
structure PreparedGraph where
  connections : Connections
  mated : connections.Mated
  connected : connections.FullyConnected
  copyAllocator : OutputRef → Option (Nat → Bool)
  transforms : ∀ output, connections.kind output.stage = .transform → copyAllocator output = none
  inputs : ∀ output input, connections.outputMate output = some input →
    connections.kind input.stage = .transform → copyAllocator output = none

structure MultistreamSourceStage where
  cachedPacket : Option Packet := none
  cachedPacketOutputIndex : Nat := 0
  endedStreams : Nat := 0
  deriving Repr, DecidableEq

namespace Engine

-- `TransformPacket` answers with `done` and `output`, the sink with the demand after each
-- packet in turn, and `PullPacket` with a stream and a packet in turn.
structure Answers where
  done : Bool := true
  output : Option Packet := none
  demands : Nat → Demand := fun _ => .negative
  pulled : List (Nat × Packet) := []

-- `sinkDemand` is the demand that a sink has signalled for an input. `requests` are the stages
-- whose `RequestUpdate` waits for the engine's lock. `suppliedWhileHeld` records whether
-- `SupplyPacket` was ever called while the mate held a packet, and `overwritten` whether a packet
-- was ever put in the place of another.
structure State where
  demand : OutputRef → Demand := fun _ => .negative
  allocations : OutputRef → Nat := fun _ => 0
  packetFromUpstream : InputRef → Option Packet := fun _ => none
  packets : Nat → List Packet := fun _ => []
  downstreamDemand : Nat → Demand := fun _ => .negative
  multistreamSource : Nat → MultistreamSourceStage := fun _ => { }
  activeMultistreamSource : Nat → ActiveMultistreamSourceStage := fun _ => { }
  inputPacketIsNew : Nat → Bool := fun _ => true
  sinkDemand : InputRef → Demand := fun _ => .negative
  pendingInputs : Nat → List Nat := fun _ => []
  supplyBacklog : List Nat := []
  demandBacklog : List Nat := []
  inSupplyBacklog : Nat → Bool := fun _ => false
  inDemandBacklog : Nat → Bool := fun _ => false
  packetsProduced : Bool := false
  requests : List Nat := []
  locked : Bool := false
  suppliedWhileHeld : Bool := false
  overwritten : Bool := false

namespace State

variable (graph : PreparedGraph)

def setPackets (state : State) (stage : Nat) (packets : List Packet) : State :=
  { state with packets := Function.update state.packets stage packets }

def setDownstreamDemand (state : State) (stage : Nat) (demand : Demand) : State :=
  { state with downstreamDemand := Function.update state.downstreamDemand stage demand }

def setMultistreamSource (state : State) (stage : Nat) (source : MultistreamSourceStage) : State :=
  { state with multistreamSource := Function.update state.multistreamSource stage source }

def setActiveMultistreamSource (state : State) (stage : Nat)
    (source : ActiveMultistreamSourceStage) : State :=
  { state with
    activeMultistreamSource := Function.update state.activeMultistreamSource stage source }

def setInputPacketIsNew (state : State) (stage : Nat) (isNew : Bool) : State :=
  { state with inputPacketIsNew := Function.update state.inputPacketIsNew stage isNew }

def setSinkDemand (state : State) (input : InputRef) (demand : Demand) : State :=
  { state with sinkDemand := Function.update state.sinkDemand input demand }

def setPendingInputs (state : State) (stage : Nat) (pending : List Nat) : State :=
  { state with pendingInputs := Function.update state.pendingInputs stage pending }

def setOutputDemand (state : State) (output : OutputRef) (demand : Demand) : State :=
  { state with demand := Function.update state.demand output demand }

def countAllocation (state : State) (output : OutputRef) : State :=
  { state with
    allocations := Function.update state.allocations output (state.allocations output + 1) }

def takePacket (state : State) (input : InputRef) : State :=
  { state with packetFromUpstream := Function.update state.packetFromUpstream input none }

def request (state : State) (stage : Nat) : State :=
  { state with requests := state.requests ++ [stage] }

def pushToSupplyBacklog (state : State) (stage : Nat) : State :=
  let produced := { state with packetsProduced := true }
  if state.inSupplyBacklog stage then produced
  else
    { produced with
      supplyBacklog := state.supplyBacklog ++ [stage]
      inSupplyBacklog := Function.update state.inSupplyBacklog stage true }

def pushToDemandBacklog (state : State) (stage : Nat) : State :=
  if state.inDemandBacklog stage then state
  else
    { state with
      demandBacklog := stage :: state.demandBacklog
      inDemandBacklog := Function.update state.inDemandBacklog stage true }

def mateHolds (state : State) (output : OutputRef) : Bool :=
  match graph.connections.outputMate output with
  | some input => (state.packetFromUpstream input).isSome
  | none => false

def outputDemand (state : State) (output : OutputRef) : Demand :=
  if state.demand output = .negative ∨ state.mateHolds graph output then .negative
  else state.demand output

def supplyPacketFromOutput (state : State) (input : InputRef) (packet : Packet) : State :=
  { state with
    packetFromUpstream := Function.update state.packetFromUpstream input (some packet)
    overwritten := state.overwritten || (state.packetFromUpstream input).isSome }

def deliver (state : State) (output : OutputRef) (packet : Packet) : State :=
  match graph.connections.outputMate output with
  | some input => (state.supplyPacketFromOutput input packet).pushToSupplyBacklog input.stage
  | none => state

def noteSupply (state : State) (output : OutputRef) : State :=
  { state with suppliedWhileHeld := state.suppliedWhileHeld || state.mateHolds graph output }

def supplyPacket (state : State) (output : OutputRef) (packet : Packet) : State :=
  let noted := state.noteSupply graph output
  match graph.copyAllocator output with
  | none => noted.deliver graph output packet
  | some allocatePayloadBuffer =>
    if packet.size = 0 then noted.deliver graph output packet
    else if allocatePayloadBuffer (state.allocations output) then
      (noted.countAllocation output).deliver graph output
        { pts := packet.pts
          endOfStream := packet.endOfStream
          payload := packet.payload }
    else noted.countAllocation output

def setDemand (state : State) (input : InputRef) (demand : Demand) : State :=
  match graph.connections.inputMate input with
  | some output =>
    if state.demand output = demand then state
    else (state.setOutputDemand output demand).pushToDemandBacklog output.stage
  | none => state

def updateActiveSource (state : State) (stage : Nat) : State :=
  let demand := state.outputDemand graph ⟨stage, 0⟩
  let signalled := state.setDownstreamDemand stage demand
  match state.packets stage with
  | [] => signalled
  | packet :: packets =>
    if demand = .negative then signalled
    else (signalled.supplyPacket graph ⟨stage, 0⟩ packet).setPackets stage packets

def supplyCached (state : State) (stage outputs : Nat) : State :=
  let source := state.multistreamSource stage
  let demand := fun index => state.outputDemand graph ⟨stage, index⟩
  match source.cachedPacket with
  | some packet =>
    if hasPositiveDemand demand outputs ∧ demand source.cachedPacketOutputIndex ≠ .negative then
      (state.supplyPacket graph ⟨stage, source.cachedPacketOutputIndex⟩ packet).setMultistreamSource
        stage { source with cachedPacket := none }
    else state
  | none => state

def cachePulled (state : State) (stage outputIndex : Nat) (packet : Packet) : State :=
  let source := state.multistreamSource stage
  state.setMultistreamSource stage
    { cachedPacket := some packet
      cachedPacketOutputIndex := outputIndex
      endedStreams :=
        if packet.endOfStream then source.endedStreams + 1 else source.endedStreams }

def updateMultistreamSource (stage outputs : Nat) : List (Nat × Packet) → State → Option State
  | pulled, state =>
    let supplied := state.supplyCached graph stage outputs
    let source := supplied.multistreamSource stage
    if source.cachedPacket.isSome ∨ source.endedStreams = outputs then some supplied
    else
      match pulled with
      | [] => none
      | (outputIndex, packet) :: rest =>
        if outputIndex < outputs then
          updateMultistreamSource stage outputs rest (supplied.cachePulled stage outputIndex packet)
        else none

def updateActiveMultistreamSource (state : State) (stage outputs : Nat) : State :=
  let demand := fun index => state.outputDemand graph ⟨stage, index⟩
  let source := state.activeMultistreamSource stage
  let supplied :=
    match source.toSupply demand with
    | some (outputIndex, packet) => state.supplyPacket graph ⟨stage, outputIndex⟩ packet
    | none => state
  let demandAfter := fun index => supplied.outputDemand graph ⟨stage, index⟩
  supplied.setActiveMultistreamSource stage
    ((source.withoutSupplied demand).afterRequest outputs demandAfter)

def transformPacket (state : State) (stage : Nat) (answers : Answers) : State :=
  let called := (if answers.done then state.takePacket ⟨stage, 0⟩ else state).setInputPacketIsNew
    stage answers.done
  match answers.output with
  | some output => called.supplyPacket graph ⟨stage, 0⟩ output
  | none => called

def updateTransform (state : State) (stage : Nat) (answers : Answers) : State :=
  let transformed :=
    if (state.packetFromUpstream ⟨stage, 0⟩).isSome ∧
        state.outputDemand graph ⟨stage, 0⟩ ≠ .negative then
      state.transformPacket graph stage answers
    else state
  transformed.setDemand graph ⟨stage, 0⟩ (transformed.outputDemand graph ⟨stage, 0⟩)

def supplySink (state : State) (input : InputRef) (answer : Demand) : State :=
  (state.takePacket input).setSinkDemand input answer

def updateActiveSink (state : State) (stage : Nat) (answers : Answers) : State :=
  let supplied :=
    if (state.packetFromUpstream ⟨stage, 0⟩).isSome then
      state.supplySink ⟨stage, 0⟩ (answers.demands 0)
    else state
  supplied.setDemand graph ⟨stage, 0⟩ (supplied.sinkDemand ⟨stage, 0⟩)

-- The loop over the pending inputs. `kept` are those that stay pending, and `count` counts the
-- packets the sink has been supplied with.
def updatePending (stage : Nat) (answers : Answers) :
    List Nat → Nat → List Nat → State → State × List Nat
  | [], _, kept, state => (state, kept)
  | index :: rest, count, kept, state =>
    if (state.packetFromUpstream ⟨stage, index⟩).isSome then
      let answer := answers.demands count
      let supplied := (state.supplySink ⟨stage, index⟩ answer).setDemand graph ⟨stage, index⟩ answer
      if answer = .negative then updatePending stage answers rest (count + 1) kept supplied
      else
        -- The loop looks at the same input again, and finds no packet.
        updatePending stage answers rest (count + 1) (kept ++ [index])
          (supplied.setDemand graph ⟨stage, index⟩ answer)
    else
      updatePending stage answers rest count (kept ++ [index])
        (state.setDemand graph ⟨stage, index⟩ (state.sinkDemand ⟨stage, index⟩))

def updateActiveMultistreamSink (state : State) (stage : Nat) (answers : Answers) : State :=
  let updated := updatePending graph stage answers (state.pendingInputs stage) 0 [] state
  updated.1.setPendingInputs stage updated.2

def update (state : State) (stage : Nat) (answers : Answers) : Option State :=
  match graph.connections.kind stage with
  | .activeSource => some (state.updateActiveSource graph stage)
  | .multistreamSource outputs => updateMultistreamSource graph stage outputs answers.pulled state
  | .activeMultistreamSource outputs => some (state.updateActiveMultistreamSource graph stage outputs)
  | .transform => some (state.updateTransform graph stage answers)
  | .activeSink => some (state.updateActiveSink graph stage answers)
  | .activeMultistreamSink _ => some (state.updateActiveMultistreamSink graph stage answers)

def clearProduced (state : State) : State := { state with packetsProduced := false }

def updateStage (state : State) (stage : Nat) (answers : Answers) : Option State := do
  let updated ← state.clearProduced.update graph stage answers
  some (if updated.packetsProduced then updated.pushToDemandBacklog stage else updated)

def popSupplyBacklog (state : State) (stage : Nat) (rest : List Nat) : State :=
  { state with
    supplyBacklog := rest
    inSupplyBacklog := Function.update state.inSupplyBacklog stage false }

def popDemandBacklog (state : State) (stage : Nat) (rest : List Nat) : State :=
  { state with
    demandBacklog := rest
    inDemandBacklog := Function.update state.inDemandBacklog stage false }

def updateNext (state : State) (answers : Answers) : Option State :=
  match state.supplyBacklog, state.demandBacklog with
  | stage :: rest, _ => (state.popSupplyBacklog stage rest).updateStage graph stage answers
  | [], stage :: rest => (state.popDemandBacklog stage rest).updateStage graph stage answers
  | [], [] => some { state with locked := false }

def enter (state : State) (position : Nat) : State :=
  { state with
    locked := true
    requests := state.requests.eraseIdx position }

-- Only the `RequestUpdate` that callbacks end with waits for the engine's lock.

def supply (state : State) (stage : Nat) (packet : Packet) : State :=
  let pushed := state.setPackets stage (state.packets stage ++ [packet])
  if state.packets stage = [] then pushed.request stage else pushed

def answer (state : State) (stage outputIndex : Nat) (packet : Packet) : State :=
  let supplied := (state.activeMultistreamSource stage).supply
    (fun index => state.outputDemand graph ⟨stage, index⟩) outputIndex packet
  let cached := state.setActiveMultistreamSource stage supplied.1
  if supplied.2 then cached.request stage else cached

def changeDemand (state : State) (stage : Nat) (demand : Demand) : State :=
  if state.sinkDemand ⟨stage, 0⟩ = demand then state
  else (state.setSinkDemand ⟨stage, 0⟩ demand).request stage

def updateDemand (state : State) (stage index : Nat) (demand : Demand) : State :=
  ((state.setSinkDemand ⟨stage, index⟩ demand).setPendingInputs stage
    (state.pendingInputs stage ++ [index])).request stage

end State

inductive Event where
  | supply (stage : Nat) (packet : Packet)
  | answer (stage outputIndex : Nat) (packet : Packet)
  | demand (stage : Nat) (demand : Demand)
  | updateDemand (stage index : Nat) (demand : Demand)
  | requestUpdate (position : Nat) (answers : Answers)
  | update (answers : Answers)

def step (graph : PreparedGraph) (state : State) : Event → Option State
  | .supply stage packet =>
    if graph.connections.kind stage = .activeSource then some (state.supply stage packet) else none
  | .answer stage outputIndex packet =>
    match graph.connections.kind stage with
    | .activeMultistreamSource outputs =>
      if outputIndex < outputs ∧
          (state.activeMultistreamSource stage).packetRequestOutstanding then
        some (state.answer graph stage outputIndex packet)
      else none
    | _ => none
  | .demand stage demand =>
    if graph.connections.kind stage = .activeSink then some (state.changeDemand stage demand)
    else none
  | .updateDemand stage index demand =>
    match graph.connections.kind stage with
    | .activeMultistreamSink inputs =>
      if index < inputs ∧ demand ≠ .negative then some (state.updateDemand stage index demand)
      else none
    | _ => none
  | .requestUpdate position answers =>
    if state.locked then none
    else do
      let stage ← state.requests[position]?
      (state.enter position).updateStage graph stage answers
  | .update answers => if state.locked then state.updateNext graph answers else none

end Engine

end MojoMedia.Framework
