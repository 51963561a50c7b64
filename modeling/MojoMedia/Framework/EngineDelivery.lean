import MojoMedia.Framework.Stages

set_option autoImplicit false

namespace MojoMedia.Framework

open Transducers

variable {graph : Graph}

def passes (copyAllocator : Option (Nat → Bool)) (count : Nat) (packet : Packet) :
    Option Packet × Nat :=
  match copyAllocator with
  | none => (some packet, count)
  | some allocatePayloadBuffer =>
    if packet.size = 0 then (some packet, count)
    else if allocatePayloadBuffer count then (some packet, count + 1)
    else (none, count + 1)

theorem copied_cons (copyAllocator : Option (Nat → Bool)) (count : Nat) (packet : Packet)
    (packets : List Packet) :
    copied copyAllocator count (packet :: packets) =
      (passes copyAllocator count packet).1.toList ++
        copied copyAllocator (passes copyAllocator count packet).2 packets := by
  cases copyAllocator with
  | none => simp [copied, passes]
  | some allocatePayloadBuffer =>
    by_cases empty : packet.size = 0
    · simp [copied, passes, empty]
    · by_cases allocated : allocatePayloadBuffer count = true
      · simp [copied, passes, empty, allocated]
      · simp [copied, passes, empty, allocated]

theorem copied_of_allocated (copyAllocator : Option (Nat → Bool))
    (allocated : ∀ allocatePayloadBuffer, copyAllocator = some allocatePayloadBuffer →
      ∀ count, allocatePayloadBuffer count = true) (count : Nat) (packets : List Packet) :
    copied copyAllocator count packets = packets := by
  induction packets generalizing count with
  | nil => rfl
  | cons packet packets ih =>
    rw [copied_cons, ih]
    cases copyAllocator with
    | none => simp [passes]
    | some allocatePayloadBuffer =>
      have buffer := allocated allocatePayloadBuffer rfl count
      by_cases empty : packet.size = 0
      · simp [passes, empty]
      · simp [passes, empty, buffer]

-- What output `k` will put into the slot of stage `k + 1`, if these packets are supplied.
def State.feed (state : State graph) : Nat → List Packet → List Packet
  | 0, future => copied (graph.copyAllocator 0) (state.allocations 0) (state.packets ++ future)
  | stage + 1, future =>
    copied (graph.copyAllocator (stage + 1)) (state.allocations (stage + 1))
      ((graph.transform (stage + 1)).outputs (state.transformState (stage + 1))
        (state.inputPacketIsNew (stage + 1))
        ((state.packetFromUpstream (stage + 1)).toList ++ state.feed stage future))

def State.stream (state : State graph) (output : Nat) (future : List Packet) : List Packet :=
  (state.packetFromUpstream (output + 1)).toList ++ state.feed output future

theorem feed_succ (state : State graph) (stage : Nat) (future : List Packet) :
    state.feed (stage + 1) future =
      copied (graph.copyAllocator (stage + 1)) (state.allocations (stage + 1))
        ((graph.transform (stage + 1)).outputs (state.transformState (stage + 1))
          (state.inputPacketIsNew (stage + 1)) (state.stream stage future)) := rfl

structure State.Agrees (state next : State graph) (stage : Nat) : Prop where
  allocations : next.allocations stage = state.allocations stage
  transformState : next.transformState stage = state.transformState stage
  inputPacketIsNew : next.inputPacketIsNew stage = state.inputPacketIsNew stage

theorem stream_later {state next : State graph} {output : Nat} {future : List Packet}
    (same : next.stream output future = state.stream output future)
    (agrees : ∀ stage, output < stage → state.Agrees next stage)
    (slots : ∀ stage, output + 1 < stage →
      next.packetFromUpstream stage = state.packetFromUpstream stage) (more : Nat) :
    next.stream (output + more) future = state.stream (output + more) future := by
  induction more with
  | zero => exact same
  | succ more ih =>
    have agree := agrees (output + more + 1) (by omega)
    have slot := slots (output + more + 1 + 1) (by omega)
    rw [← Nat.add_assoc]
    simp only [State.stream, slot, feed_succ] at ih ⊢
    rw [agree.allocations, agree.transformState, agree.inputPacketIsNew, ih]

structure State.Still (state next : State graph) : Prop where
  packets : next.packets = state.packets
  slots : next.packetFromUpstream = state.packetFromUpstream
  allocations : next.allocations = state.allocations
  transformState : next.transformState = state.transformState
  inputPacketIsNew : next.inputPacketIsNew = state.inputPacketIsNew
  received : next.received = state.received
  supplied : next.supplied = state.supplied

theorem State.Still.refl (state : State graph) : state.Still state :=
  ⟨rfl, rfl, rfl, rfl, rfl, rfl, rfl⟩

theorem State.Still.trans {state middle next : State graph} (first : state.Still middle)
    (second : middle.Still next) : state.Still next where
  packets := second.packets.trans first.packets
  slots := second.slots.trans first.slots
  allocations := second.allocations.trans first.allocations
  transformState := second.transformState.trans first.transformState
  inputPacketIsNew := second.inputPacketIsNew.trans first.inputPacketIsNew
  received := second.received.trans first.received
  supplied := second.supplied.trans first.supplied

theorem State.Still.feed {state next : State graph} (still : state.Still next) (stage : Nat)
    (future : List Packet) : next.feed stage future = state.feed stage future := by
  induction stage with
  | zero => simp only [State.feed, still.allocations, still.packets]
  | succ stage ih =>
    simp only [State.feed, still.allocations, still.transformState, still.inputPacketIsNew,
      still.slots, ih]

theorem still_pushToSupplyBacklog (state : State graph) (stage : Nat) :
    state.Still (state.pushToSupplyBacklog stage) := by
  simp only [State.pushToSupplyBacklog]
  split <;> exact ⟨rfl, rfl, rfl, rfl, rfl, rfl, rfl⟩

theorem still_pushToDemandBacklog (state : State graph) (stage : Nat) :
    state.Still (state.pushToDemandBacklog stage) := by
  simp only [State.pushToDemandBacklog]
  split <;> exact ⟨rfl, rfl, rfl, rfl, rfl, rfl, rfl⟩

theorem still_setDemand (state : State graph) (output : Nat) (demand : Demand) :
    state.Still (state.setDemand output demand) := by
  simp only [State.setDemand]
  split
  · exact .refl state
  · have changed : state.Still { state with
        demand := Function.update state.demand output demand } :=
      ⟨rfl, rfl, rfl, rfl, rfl, rfl, rfl⟩
    exact changed.trans (still_pushToDemandBacklog _ output)

def State.eventual (state : State graph) (future : List Packet) : List Packet :=
  state.received ++ state.stream graph.length future

theorem State.Still.eventual {state next : State graph} (still : state.Still next)
    (future : List Packet) : next.eventual future = state.eventual future := by
  simp only [State.eventual, State.stream, still.received, still.slots, still.feed]

theorem feed_earlier {state next : State graph} (stage : Nat) (future : List Packet)
    (packets : next.packets = state.packets)
    (agrees : ∀ other, other ≤ stage → state.Agrees next other)
    (slots : ∀ other, other ≤ stage →
      next.packetFromUpstream other = state.packetFromUpstream other) :
    next.feed stage future = state.feed stage future := by
  induction stage with
  | zero => simp only [State.feed, packets, (agrees 0 (Nat.le_refl _)).allocations]
  | succ stage ih =>
    have before := ih (fun other le => agrees other (by omega)) fun other le =>
      slots other (by omega)
    have agree := agrees (stage + 1) (Nat.le_refl _)
    simp only [State.feed, agree.allocations, agree.transformState, agree.inputPacketIsNew,
      slots (stage + 1) (Nat.le_refl _), before]

structure State.Supplies (state next : State graph) (output : Nat) (packet : Packet) :
    Prop where
  packets : next.packets = state.packets
  slots : next.packetFromUpstream = Function.update state.packetFromUpstream (output + 1)
    (passes (graph.copyAllocator output) (state.allocations output) packet).1
  allocations : next.allocations = Function.update state.allocations output
    (passes (graph.copyAllocator output) (state.allocations output) packet).2
  transformState : next.transformState = state.transformState
  inputPacketIsNew : next.inputPacketIsNew = state.inputPacketIsNew
  received : next.received = state.received
  supplied : next.supplied = state.supplied

theorem still_deliver (state : State graph) (output : Nat) (packet : Packet) :
    (state.supplyPacketFromOutput (output + 1) packet).Still (state.deliver output packet) :=
  still_pushToSupplyBacklog _ _

theorem deliver_supplies (state : State graph) (output : Nat) (packet : Packet) (count : Nat)
    (passed : passes (graph.copyAllocator output) (state.allocations output) packet =
      (some packet, count)) :
    state.Supplies ({ state with
      allocations := Function.update state.allocations output count }.deliver output packet)
        output packet := by
  have still := still_deliver { state with
    allocations := Function.update state.allocations output count } output packet
  refine ⟨still.packets, ?_, ?_, still.transformState, still.inputPacketIsNew, still.received,
    still.supplied⟩
  · rw [still.slots, passed]
    rfl
  · rw [still.allocations, passed]
    rfl

theorem supplyPacket_supplies (state : State graph) (output : Nat) (packet : Packet)
    (empty : state.packetFromUpstream (output + 1) = none) :
    state.Supplies (state.supplyPacket output packet) output packet := by
  have unchanged : Function.update state.allocations output (state.allocations output) =
      state.allocations := Function.update_eq_self output state.allocations
  have uncopied : passes (graph.copyAllocator output) (state.allocations output) packet =
      (some packet, state.allocations output) →
      state.Supplies (state.deliver output packet) output packet := by
    intro passed
    simpa only [unchanged] using deliver_supplies state output packet _ passed
  simp only [State.supplyPacket]
  split
  · next none => exact uncopied (by simp [passes, none])
  · next allocatePayloadBuffer some =>
    split
    · next nothing => exact uncopied (by simp [passes, some, nothing])
    · next payload =>
      split
      · next allocated =>
        exact deliver_supplies state output packet _ (by simp [passes, some, payload, allocated])
      · next starved =>
        have passed : passes (graph.copyAllocator output) (state.allocations output) packet =
            (none, state.allocations output + 1) := by
          simp [passes, some, payload, starved]
        refine ⟨rfl, ?_, ?_, rfl, rfl, rfl, rfl⟩
        · rw [passed, ← empty, Function.update_eq_self]
        · rw [passed]

theorem Supplies.stream {state next : State graph} {output : Nat} {packet : Packet}
    (supplies : state.Supplies next output packet) (rest : List Packet) :
    (next.packetFromUpstream (output + 1)).toList ++
        copied (graph.copyAllocator output) (next.allocations output) rest =
      copied (graph.copyAllocator output) (state.allocations output) (packet :: rest) := by
  rw [copied_cons, supplies.slots, supplies.allocations, Function.update_self,
    Function.update_self]

theorem Supplies.stream_earlier {state next : State graph} {stage : Nat} {packet : Packet}
    (supplies : state.Supplies next (stage + 1) packet) (future : List Packet) :
    next.stream stage future = state.stream stage future := by
  have slots : ∀ other, other ≤ stage + 1 →
      next.packetFromUpstream other = state.packetFromUpstream other := by
    intro other before
    have different : other ≠ stage + 1 + 1 := by omega
    rw [supplies.slots, Function.update_of_ne different]
  have feed := feed_earlier stage future supplies.packets (fun other before => ?_)
    fun other before => slots other (by omega)
  · simp only [State.stream, slots (stage + 1) (Nat.le_refl _), feed]
  · have different : other ≠ stage + 1 := by omega
    exact ⟨by rw [supplies.allocations, Function.update_of_ne different],
      congrFun supplies.transformState other, congrFun supplies.inputPacketIsNew other⟩

theorem demand_free {state : State graph} {output : Nat}
    (demanded : state.outputDemand output ≠ .negative) :
    state.packetFromUpstream (output + 1) = none := by
  simp only [State.outputDemand] at demanded
  split at demanded
  · exact absurd rfl demanded
  · next free =>
    rw [not_or] at free
    simpa using free.2

theorem eventual_of_stream {state next : State graph} (output : Nat) (future : List Packet)
    (le : output ≤ graph.length) (received : next.received = state.received)
    (same : next.stream output future = state.stream output future)
    (agrees : ∀ stage, output < stage → state.Agrees next stage)
    (slots : ∀ stage, output + 1 < stage →
      next.packetFromUpstream stage = state.packetFromUpstream stage) :
    next.eventual future = state.eventual future := by
  have last := stream_later same agrees slots (graph.length - output)
  rw [Nat.add_sub_cancel' le] at last
  simp only [State.eventual, received, last]

theorem eventual_updateSource (state : State graph) (future : List Packet) :
    state.updateSource.eventual future = state.eventual future := by
  have signalled : ∀ demand, state.Still { state with downstreamDemand := demand } :=
    fun demand => ⟨rfl, rfl, rfl, rfl, rfl, rfl, rfl⟩
  simp only [State.updateSource]
  split
  · exact (signalled _).eventual future
  · next packet packets queue =>
    split
    · exact (signalled _).eventual future
    · next demanded =>
      have empty := demand_free demanded
      have supplies := supplyPacket_supplies
        { state with downstreamDemand := state.outputDemand 0 } 0 packet empty
      refine eventual_of_stream 0 future (Nat.zero_le _) supplies.received ?_ ?_ ?_
      · have before : state.stream 0 future = copied (graph.copyAllocator 0)
            (state.allocations 0) (packet :: (packets ++ future)) := by
          simp only [State.stream, State.feed, queue, empty, Option.toList_none,
            List.nil_append, List.cons_append]
        exact (Supplies.stream supplies (packets ++ future)).trans before.symm
      · intro stage later
        refine ⟨?_, congrFun supplies.transformState stage,
          congrFun supplies.inputPacketIsNew stage⟩
        have different : stage ≠ 0 := by omega
        simp only [supplies.allocations, Function.update_of_ne different]
      · intro stage later
        have different : stage ≠ 0 + 1 := by omega
        simp only [supplies.slots, Function.update_of_ne different]

theorem stream_called (state : State graph) (stage : Nat) (packet : Packet)
    (future : List Packet) (slot : state.packetFromUpstream (stage + 1) = some packet)
    {called : State graph} {call : Call (graph.transform (stage + 1)).State Packet}
    (result : call = (graph.transform (stage + 1)).call (state.transformState (stage + 1)) packet
      (state.inputPacketIsNew (stage + 1)))
    (feed : called.feed stage future = state.feed stage future)
    (slots : called.packetFromUpstream (stage + 1) = if call.done then none else some packet)
    (transformState : called.transformState (stage + 1) = call.state)
    (inputPacketIsNew : called.inputPacketIsNew (stage + 1) = call.done) :
    call.output.toList ++
        (graph.transform (stage + 1)).outputs (called.transformState (stage + 1))
          (called.inputPacketIsNew (stage + 1)) (called.stream stage future) =
      (graph.transform (stage + 1)).outputs (state.transformState (stage + 1))
        (state.inputPacketIsNew (stage + 1)) (state.stream stage future) := by
  simp only [State.stream, slot, slots, transformState, inputPacketIsNew, feed]
  rw [Option.toList_some, List.singleton_append, Transducer.outputs_call, ← result]
  by_cases finished : call.done = true
  · simp [finished]
  · simp [finished]

theorem eventual_transformPacket (state : State graph) (stage : Nat) (packet : Packet)
    (future : List Packet) (le : stage + 1 ≤ graph.length)
    (slot : state.packetFromUpstream (stage + 1) = some packet)
    (empty : state.packetFromUpstream (stage + 1 + 1) = none) :
    (state.transformPacket (stage + 1) packet).eventual future = state.eventual future := by
  simp only [State.transformPacket]
  generalize result : (graph.transform (stage + 1)).call (state.transformState (stage + 1)) packet
    (state.inputPacketIsNew (stage + 1)) = call
  -- Only stage `k + 1` has changed, so what it will be handed is still the same.
  set called : State graph := { state with
    transformState := Function.update state.transformState (stage + 1) call.state
    packetFromUpstream := Function.update state.packetFromUpstream (stage + 1)
      (if call.done then none else some packet)
    inputPacketIsNew := Function.update state.inputPacketIsNew (stage + 1) call.done }
    with called_eq
  have elsewhere : ∀ other, other ≠ stage + 1 → state.Agrees called other ∧
      called.packetFromUpstream other = state.packetFromUpstream other := by
    intro other different
    exact ⟨⟨rfl, Function.update_of_ne different _ _, Function.update_of_ne different _ _⟩,
      Function.update_of_ne different _ _⟩
  have feed : called.feed stage future = state.feed stage future :=
    feed_earlier stage future rfl (fun other before => (elsewhere other (by omega)).1)
      fun other before => (elsewhere other (by omega)).2
  have outputs := stream_called state stage packet future slot result.symm feed
    (by simp [called_eq]) (by simp [called_eq]) (by simp [called_eq])
  have still : called.packetFromUpstream (stage + 1 + 1) = none :=
    (elsewhere (stage + 1 + 1) (by omega)).2.trans empty
  have before : state.stream (stage + 1) future = copied (graph.copyAllocator (stage + 1))
      (state.allocations (stage + 1)) (call.output.toList ++
        (graph.transform (stage + 1)).outputs (called.transformState (stage + 1))
          (called.inputPacketIsNew (stage + 1)) (called.stream stage future)) := by
    rw [outputs, State.stream, empty, feed_succ]
    rfl
  cases output : call.output with
  | none =>
    refine eventual_of_stream (stage + 1) future le rfl ?_
      (fun other after => (elsewhere other (by omega)).1)
      fun other after => (elsewhere other (by omega)).2
    rw [before, output, State.stream, still, feed_succ]
    rfl
  | some produced =>
    have supplies := supplyPacket_supplies called (stage + 1) produced still
    have handed := Supplies.stream_earlier supplies future
    refine eventual_of_stream (stage + 1) future le supplies.received ?_ ?_ ?_
    · rw [before, output, State.stream, feed_succ, handed, supplies.transformState,
        supplies.inputPacketIsNew]
      exact Supplies.stream supplies _
    · intro other after
      obtain ⟨agree, -⟩ := elsewhere other (by omega)
      have different : other ≠ stage + 1 := by omega
      refine ⟨?_, ?_, ?_⟩
      · rw [supplies.allocations, Function.update_of_ne different, agree.allocations]
      · rw [supplies.transformState, agree.transformState]
      · rw [supplies.inputPacketIsNew, agree.inputPacketIsNew]
    · intro other after
      have different : other ≠ stage + 1 + 1 := by omega
      rw [supplies.slots, Function.update_of_ne different]
      exact (elsewhere other (by omega)).2

theorem eventual_updateTransform (state : State graph) (stage : Nat) (future : List Packet)
    (positive : stage ≠ 0) (le : stage ≤ graph.length) :
    (state.updateTransform stage).eventual future = state.eventual future := by
  obtain ⟨before, rfl⟩ : ∃ before, stage = before + 1 := ⟨stage - 1, by omega⟩
  simp only [State.updateTransform]
  rw [(still_setDemand _ _ _).eventual]
  split
  · next packet slot =>
    split
    · rfl
    · next demanded =>
      exact eventual_transformPacket state before packet future le slot (demand_free demanded)
  · rfl

theorem eventual_updateSink (state : State graph) (answer : Demand) (future : List Packet) :
    (state.updateSink answer).eventual future = state.eventual future := by
  simp only [State.updateSink]
  rw [(still_setDemand _ _ _).eventual]
  split
  · next packet slot =>
    have feed : State.feed { state with
        packetFromUpstream :=
          Function.update state.packetFromUpstream (graph.length + 1) none
        received := state.received ++ [packet]
        sinkDemand := answer } graph.length future = state.feed graph.length future := by
      refine feed_earlier graph.length future rfl (fun _ _ => ⟨rfl, rfl, rfl⟩) ?_
      intro other before
      have different : other ≠ graph.length + 1 := by omega
      exact Function.update_of_ne different _ _
    simp only [State.eventual, State.stream, feed, slot, Function.update_self]
    simp
  · rfl

theorem updateStage_cases (state : State graph) (stage : Nat) (answer : Demand) :
    ∃ idle updated : State graph, state.Still idle ∧
      updated.Still (state.updateStage stage answer) ∧
      (updated = idle.updateSource ∨
        stage ≠ 0 ∧ stage ≤ graph.length ∧ updated = idle.updateTransform stage ∨
        updated = idle.updateSink answer) := by
  refine ⟨{ state with packetsProduced := false },
    if stage = 0 then State.updateSource { state with packetsProduced := false }
    else if stage ≤ graph.length then
      State.updateTransform { state with packetsProduced := false } stage
    else State.updateSink { state with packetsProduced := false } answer,
    ⟨rfl, rfl, rfl, rfl, rfl, rfl, rfl⟩, ?_, ?_⟩
  · simp only [State.updateStage]
    generalize (if stage = 0 then _ else _ : State graph) = updated
    by_cases produced : updated.packetsProduced = true
    · rw [if_pos produced]
      exact still_pushToDemandBacklog updated stage
    · rw [if_neg produced]
      exact .refl updated
  · split
    · exact .inl rfl
    · next positive =>
      split
      · next le => exact .inr (.inl ⟨positive, le, rfl⟩)
      · exact .inr (.inr rfl)

theorem eventual_updateStage (state : State graph) (stage : Nat) (answer : Demand)
    (future : List Packet) :
    (state.updateStage stage answer).eventual future = state.eventual future := by
  obtain ⟨idle, updated, before, after, source | ⟨positive, le, transform⟩ | sink⟩ :=
    updateStage_cases state stage answer
  · rw [after.eventual, source, eventual_updateSource, before.eventual]
  · rw [after.eventual, transform, eventual_updateTransform idle stage future positive le,
      before.eventual]
  · rw [after.eventual, sink, eventual_updateSink, before.eventual]

theorem supplied_supplyPacket (state : State graph) (output : Nat) (packet : Packet) :
    (state.supplyPacket output packet).supplied = state.supplied := by
  simp only [State.supplyPacket]
  split
  · exact (still_deliver state output packet).supplied
  · split
    · exact (still_deliver state output packet).supplied
    · split
      · exact (still_deliver _ output packet).supplied
      · rfl

theorem supplied_updateSource (state : State graph) :
    state.updateSource.supplied = state.supplied := by
  simp only [State.updateSource]
  split
  · rfl
  · split
    · rfl
    · exact supplied_supplyPacket _ 0 _

theorem supplied_updateTransform (state : State graph) (stage : Nat) :
    (state.updateTransform stage).supplied = state.supplied := by
  simp only [State.updateTransform]
  rw [(still_setDemand _ _ _).supplied]
  split
  · split
    · rfl
    · simp only [State.transformPacket]
      split
      · exact supplied_supplyPacket _ stage _
      · rfl
  · rfl

theorem supplied_updateSink (state : State graph) (answer : Demand) :
    (state.updateSink answer).supplied = state.supplied := by
  simp only [State.updateSink]
  rw [(still_setDemand _ _ _).supplied]
  split <;> rfl

theorem supplied_updateStage (state : State graph) (stage : Nat) (answer : Demand) :
    (state.updateStage stage answer).supplied = state.supplied := by
  obtain ⟨idle, updated, before, after, source | ⟨-, -, transform⟩ | sink⟩ :=
    updateStage_cases state stage answer
  · rw [after.supplied, source, supplied_updateSource, before.supplied]
  · rw [after.supplied, transform, supplied_updateTransform, before.supplied]
  · rw [after.supplied, sink, supplied_updateSink, before.supplied]

-- What comes out in the end is what the packets supplied so far, and any supplied later, would
-- bring a graph that has not started yet.
def State.Conserves (state : State graph) : Prop :=
  ∀ future, state.eventual future = graph.passed graph.length (state.supplied ++ future)

theorem feed_start (stage : Nat) (future : List Packet) :
    ({ } : State graph).feed stage future = graph.passed stage future := by
  induction stage with
  | zero => rfl
  | succ stage ih =>
    simp only [State.feed, Graph.passed, Option.toList_none, List.nil_append, ih]

theorem conserves_start : ({ } : State graph).Conserves := by
  intro future
  simp only [State.eventual, State.stream, Option.toList_none, List.nil_append, feed_start]

theorem feed_supply (state : State graph) (packet : Packet) (stage : Nat)
    (future : List Packet) :
    (state.supply packet).feed stage future = state.feed stage (packet :: future) := by
  induction stage with
  | zero => simp [State.feed, State.supply]
  | succ stage ih =>
    simp only [State.feed]
    rw [ih]
    rfl

theorem State.Conserves.of_still {state next : State graph} (conserves : state.Conserves)
    (still : state.Still next) : next.Conserves := by
  intro future
  rw [still.eventual, still.supplied]
  exact conserves future

theorem State.Conserves.updateStage {state : State graph} (conserves : state.Conserves)
    (stage : Nat) (answer : Demand) : (state.updateStage stage answer).Conserves := by
  intro future
  rw [eventual_updateStage, supplied_updateStage]
  exact conserves future

theorem State.Conserves.supply {state : State graph} (conserves : state.Conserves)
    (packet : Packet) : (state.supply packet).Conserves := by
  intro future
  have later : (state.supply packet).eventual future = state.eventual (packet :: future) := by
    simp only [State.eventual, State.stream, feed_supply]
    rfl
  rw [later, conserves]
  simp [State.supply]

theorem conserves_step {state next : State graph} {event : Event} (conserves : state.Conserves)
    (taken : step state event = some next) : next.Conserves := by
  cases event with
  | supply packet =>
    cases taken
    exact conserves.supply packet
  | demand demand =>
    cases taken
    refine conserves.of_still ?_
    simp only [State.changeDemand]
    split <;> exact ⟨rfl, rfl, rfl, rfl, rfl, rfl, rfl⟩
  | requestUpdate position answer =>
    simp only [step] at taken
    split at taken
    · simp at taken
    · split at taken
      · simp at taken
      · next stage waiting =>
        cases taken
        have entered : State.Conserves { state with
            locked := true
            requests := state.requests.eraseIdx position } :=
          conserves.of_still ⟨rfl, rfl, rfl, rfl, rfl, rfl, rfl⟩
        exact entered.updateStage stage answer
  | update answer =>
    simp only [step, Option.ite_none_right_eq_some, Option.some.injEq] at taken
    obtain ⟨-, rfl⟩ := taken
    simp only [State.update]
    split
    · refine State.Conserves.updateStage ?_ _ answer
      exact conserves.of_still ⟨rfl, rfl, rfl, rfl, rfl, rfl, rfl⟩
    · refine State.Conserves.updateStage ?_ _ answer
      exact conserves.of_still ⟨rfl, rfl, rfl, rfl, rfl, rfl, rfl⟩
    · exact conserves.of_still ⟨rfl, rfl, rfl, rfl, rfl, rfl, rfl⟩

theorem conserves_run {state : State graph} {events : List Event}
    (reached : Runs.run step { } events = some state) : state.Conserves := by
  apply Runs.invariant_of_run step State.Conserves _ { } state events conserves_start reached
  intro before event after conserves taken
  exact conserves_step conserves taken

theorem passed_of_allocated (allocated : ∀ output ≤ graph.length, ∀ allocatePayloadBuffer,
      graph.copyAllocator output = some allocatePayloadBuffer →
      ∀ count, allocatePayloadBuffer count = true) (supplied : List Packet) :
    graph.passed graph.length supplied = graph.transformed graph.length supplied := by
  have each : ∀ stage ≤ graph.length,
      graph.passed stage supplied = graph.transformed stage supplied := by
    intro stage le
    induction stage with
    | zero => exact copied_of_allocated _ (allocated 0 le) 0 supplied
    | succ stage ih =>
      simp only [Graph.passed, Graph.transformed]
      rw [ih (by omega)]
      exact copied_of_allocated _ (allocated (stage + 1) le) 0 _
  exact each graph.length (Nat.le_refl _)

-- The sink receives, in order, what the transforms make of the supplied packets; only packets
-- whose copy could not be allocated are missing.
theorem sink_receives_in_order {state : State graph} {events : List Event}
    (reached : Runs.run step { } events = some state) :
    state.received <+: graph.passed graph.length state.supplied ∧
      ((∀ output ≤ graph.length, ∀ allocatePayloadBuffer,
          graph.copyAllocator output = some allocatePayloadBuffer →
          ∀ count, allocatePayloadBuffer count = true) →
        state.received <+: graph.transformed graph.length state.supplied) := by
  have conserves := conserves_run reached []
  rw [List.append_nil] at conserves
  have received : state.received <+: graph.passed graph.length state.supplied := by
    rw [← conserves]
    exact List.prefix_append _ _
  exact ⟨received, fun allocated => passed_of_allocated allocated state.supplied ▸ received⟩

def identity : Transform where
  State := Unit
  start := ()
  call _ packet _ := ⟨true, some packet, ()⟩
  left _ _ _ := 0
  finite := nofun

def starvedOnce : Graph where
  length := 0
  transform _ := identity
  copyAllocator output := if output = 0 then some fun count => count ≠ 0 else none

def firstPacket : Packet := ⟨0, false, [1, 2]⟩

def secondPacket : Packet := ⟨1, false, [3]⟩

def supplyTwice : List Event :=
  [ .demand .positive, .requestUpdate 0 .positive, .update .positive, .update .positive,
    .supply firstPacket, .requestUpdate 0 .positive, .update .positive,
    .supply secondPacket, .requestUpdate 0 .positive, .update .positive ]

theorem starved_copy_skipped :
    ∃ state : State starvedOnce, Runs.run step { } supplyTwice = some state ∧
      state.received = [secondPacket] ∧
      state.received <+: starvedOnce.passed starvedOnce.length state.supplied := by
  have outcome : (Runs.run step ({ } : State starvedOnce) supplyTwice).any (fun state =>
      state.received = [secondPacket]) = true := by
    decide +kernel
  obtain ⟨state, reached, received⟩ := (Option.any_eq_true _ _).mp outcome
  exact ⟨state, reached, by simpa using received, (sink_receives_in_order reached).1⟩

theorem starved_copy_loses_packet :
    ∃ state : State starvedOnce, Runs.run step { } supplyTwice = some state ∧
      ¬ state.received <+: starvedOnce.transformed starvedOnce.length state.supplied := by
  have outcome : (Runs.run step ({ } : State starvedOnce) supplyTwice).any (fun state =>
      ¬ state.received <+: starvedOnce.transformed starvedOnce.length state.supplied) = true := by
    decide +kernel
  obtain ⟨state, reached, lost⟩ := (Option.any_eq_true _ _).mp outcome
  exact ⟨state, reached, by simpa using lost⟩

end MojoMedia.Framework
