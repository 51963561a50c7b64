import MojoMedia.Framework.EngineDelivery

set_option autoImplicit false

namespace MojoMedia.Framework.LinearFlush

open Transducers

-- `flush` is `Transform::Flush`. A transform that is called with a new packet after it makes the
-- same of it, and of the packets that follow, as one that has not been called yet.
structure FlushingGraph where
  graph : Graph
  flush : (stage : Nat) → (graph.transform stage).State → (graph.transform stage).State
  fresh : ∀ stage state packets,
    (graph.transform stage).outputs (flush stage state) true packets =
      (graph.transform stage).outputs (graph.transform stage).start true packets

variable {flushing : FlushingGraph}

def flushStageOutput (flushing : FlushingGraph) (state : State flushing.graph) (stage : Nat) :
    State flushing.graph :=
  let flushed := { state with demand := Function.update state.demand stage .negative }
  if stage = 0 then { flushed with packets := [] }
  else
    { flushed with
      transformState := Function.update state.transformState stage
        (flushing.flush stage (state.transformState stage))
      inputPacketIsNew := Function.update state.inputPacketIsNew stage true }

def flushStageInput (state : State flushing.graph) (stage : Nat) : State flushing.graph :=
  { state with
    packetFromUpstream := Function.update state.packetFromUpstream stage none
    sinkDemand := if stage = flushing.graph.length + 1 then .negative else state.sinkDemand }

def visitDownstream : Nat → Nat → State flushing.graph → State flushing.graph
  | 0, _, state => state
  | left + 1, stage, state =>
    visitDownstream left (stage + 1)
      (flushStageInput (flushStageOutput flushing state stage) (stage + 1))

def flushOutput (state : State flushing.graph) : State flushing.graph :=
  visitDownstream (flushing.graph.length + 1) 0 state

inductive Call where
  | engine (event : Event)
  | flushOutput
  deriving Repr, DecidableEq

def stepCall (state : State flushing.graph) : Call → Option (State flushing.graph)
  | .engine event => step state event
  | .flushOutput => if state.locked then none else some (flushOutput state)

-- What an output passes on when the source starts to supply again, and the outputs have made some
-- allocations before.
def passedFrom (graph : Graph) (allocations : Nat → Nat) : Nat → List Packet → List Packet
  | 0, supplied => copied (graph.copyAllocator 0) (allocations 0) supplied
  | stage + 1, supplied =>
    copied (graph.copyAllocator (stage + 1)) (allocations (stage + 1))
      ((graph.transform (stage + 1)).outputs (graph.transform (stage + 1)).start true
        (passedFrom graph allocations stage supplied))

theorem passedFrom_of_allocated {graph : Graph} {allocations : Nat → Nat}
    (allocated : ∀ output ≤ graph.length, ∀ allocatePayloadBuffer,
      graph.copyAllocator output = some allocatePayloadBuffer →
      ∀ count, allocatePayloadBuffer count = true) (supplied : List Packet) :
    passedFrom graph allocations graph.length supplied =
      graph.transformed graph.length supplied := by
  have each : ∀ stage ≤ graph.length,
      passedFrom graph allocations stage supplied = graph.transformed stage supplied := by
    intro stage le
    induction stage with
    | zero => exact copied_of_allocated _ (allocated 0 le) _ supplied
    | succ stage ih =>
      simp only [passedFrom, Graph.transformed]
      rw [ih (by omega)]
      exact copied_of_allocated _ (allocated (stage + 1) le) _ _
  exact each graph.length (Nat.le_refl _)

-- The outputs from `first` on and before `last` have been visited, and everything else is as it
-- was.
structure Flushed (first last : Nat) (state next : State flushing.graph) : Prop where
  demand : ∀ output, next.demand output =
    if first ≤ output ∧ output < last then .negative else state.demand output
  packets : next.packets = if first = 0 ∧ 0 < last then [] else state.packets
  transformState : ∀ stage, next.transformState stage =
    if stage ≠ 0 ∧ first ≤ stage ∧ stage < last then
      flushing.flush stage (state.transformState stage)
    else state.transformState stage
  inputPacketIsNew : ∀ stage, next.inputPacketIsNew stage =
    if stage ≠ 0 ∧ first ≤ stage ∧ stage < last then true else state.inputPacketIsNew stage
  slots : ∀ stage, next.packetFromUpstream stage =
    if first < stage ∧ stage ≤ last then none else state.packetFromUpstream stage
  sinkDemand : next.sinkDemand =
    if first ≤ flushing.graph.length ∧ flushing.graph.length < last then .negative
    else state.sinkDemand
  rest : { next with
    demand := state.demand
    packets := state.packets
    transformState := state.transformState
    inputPacketIsNew := state.inputPacketIsNew
    packetFromUpstream := state.packetFromUpstream
    sinkDemand := state.sinkDemand } = state

theorem flushed_stage (stage : Nat) (state : State flushing.graph) :
    Flushed stage (stage + 1) state
      (flushStageInput (flushStageOutput flushing state stage) (stage + 1)) := by
  have here (other : Nat) : stage ≤ other ∧ other < stage + 1 ↔ other = stage := by omega
  have next (other : Nat) : stage < other ∧ other ≤ stage + 1 ↔ other = stage + 1 := by omega
  have sink : stage ≤ flushing.graph.length ∧ flushing.graph.length < stage + 1 ↔
      stage + 1 = flushing.graph.length + 1 := by omega
  by_cases source : stage = 0
  · subst source
    refine ⟨?_, rfl, ?_, ?_, ?_, ?_, rfl⟩
    · intro output
      simp [flushStageInput, flushStageOutput, Function.update_apply]
    · intro other
      rw [if_neg (by omega)]
      rfl
    · intro other
      rw [if_neg (by omega)]
      rfl
    · intro other
      simp [flushStageInput, flushStageOutput, Function.update_apply, next]
    · simp [flushStageInput, flushStageOutput]
  · refine ⟨?_, ?_, ?_, ?_, ?_, ?_, ?_⟩
    · intro output
      simp only [flushStageInput, flushStageOutput, source, if_false, Function.update_apply, here]
    · simp [flushStageInput, flushStageOutput, source]
    · intro other
      simp only [flushStageInput, flushStageOutput, source, if_false, here]
      by_cases same : other = stage
      · subst same
        simp [source]
      · simp [same]
    · intro other
      simp only [flushStageInput, flushStageOutput, source, if_false, here]
      by_cases same : other = stage
      · subst same
        simp [source]
      · simp [same]
    · intro other
      simp [flushStageInput, flushStageOutput, source, Function.update_apply, next]
    · simp only [flushStageInput, flushStageOutput, source, if_false, sink]
    · simp [flushStageInput, flushStageOutput, source]

theorem Flushed.trans {first middle last : Nat} {state between next : State flushing.graph}
    (before : first ≤ middle) (after : middle ≤ last) (one : Flushed first middle state between)
    (two : Flushed middle last between next) : Flushed first last state next := by
  refine ⟨?_, ?_, ?_, ?_, ?_, ?_, ?_⟩
  · intro output
    rw [two.demand, one.demand]
    grind
  · rw [two.packets, one.packets]
    grind
  · intro stage
    rw [two.transformState, one.transformState]
    grind
  · intro stage
    rw [two.inputPacketIsNew, one.inputPacketIsNew]
    grind
  · intro stage
    rw [two.slots, one.slots]
    grind
  · rw [two.sinkDemand, one.sinkDemand]
    grind
  · have earlier := one.rest
    rw [← two.rest] at earlier
    exact earlier

theorem flushed_visitDownstream (left stage : Nat) (state : State flushing.graph) :
    Flushed stage (stage + left) state (visitDownstream left stage state) := by
  induction left generalizing stage state with
  | zero =>
    have none (other : Nat) : ¬ (stage ≤ other ∧ other < stage + 0) := by omega
    have noInput (other : Nat) : ¬ (stage < other ∧ other ≤ stage + 0) := by omega
    have noSource : ¬ (stage = 0 ∧ 0 < stage + 0) := by omega
    refine ⟨?_, ?_, ?_, ?_, ?_, ?_, rfl⟩
    · exact fun output => (if_neg (none output)).symm
    · exact (if_neg noSource).symm
    · exact fun other => (if_neg (mt And.right (none other))).symm
    · exact fun other => (if_neg (mt And.right (none other))).symm
    · exact fun other => (if_neg (noInput other)).symm
    · exact (if_neg (none _)).symm
  | succ left ih =>
    have later := ih (stage + 1)
      (flushStageInput (flushStageOutput flushing state stage) (stage + 1))
    rw [Nat.add_right_comm stage 1 left, Nat.add_assoc] at later
    exact (flushed_stage stage state).trans (Nat.le_succ stage) (by omega) later

theorem flushed_flushOutput (state : State flushing.graph) :
    Flushed 0 (flushing.graph.length + 1) state (flushOutput state) := by
  simpa [flushOutput] using flushed_visitDownstream (flushing.graph.length + 1) 0 state

theorem Flushed.feed {state next : State flushing.graph}
    (flushed : Flushed 0 (flushing.graph.length + 1) state next) (stage : Nat)
    (le : stage ≤ flushing.graph.length) (future : List Packet) :
    next.feed stage future = passedFrom flushing.graph state.allocations stage future := by
  have allocations : next.allocations = state.allocations := by
    rw [← flushed.rest]
  induction stage with
  | zero => simp [State.feed, passedFrom, allocations, flushed.packets]
  | succ stage ih =>
    have inside : stage + 1 ≠ 0 ∧ 0 ≤ stage + 1 ∧ stage + 1 < flushing.graph.length + 1 :=
      ⟨by omega, by omega, by omega⟩
    have slot : next.packetFromUpstream (stage + 1) = none := by
      rw [flushed.slots, if_pos ⟨by omega, by omega⟩]
    simp only [State.feed, passedFrom, allocations, slot, Option.toList_none, List.nil_append,
      ih (by omega), flushed.transformState, flushed.inputPacketIsNew, if_pos inside]
    rw [flushing.fresh]

theorem Flushed.eventual {state next : State flushing.graph}
    (flushed : Flushed 0 (flushing.graph.length + 1) state next) (future : List Packet) :
    next.eventual future = state.received ++
      passedFrom flushing.graph state.allocations flushing.graph.length future := by
  have received : next.received = state.received := by
    rw [← flushed.rest]
  have slot : next.packetFromUpstream (flushing.graph.length + 1) = none := by
    rw [flushed.slots, if_pos ⟨by omega, Nat.le_refl _⟩]
  simp [State.eventual, State.stream, received, slot, flushed.feed _ (Nat.le_refl _)]

theorem received_supplyPacket {graph : Graph} (state : State graph) (output : Nat)
    (packet : Packet) : (state.supplyPacket output packet).received = state.received := by
  simp only [State.supplyPacket]
  split
  · exact (still_deliver state output packet).received
  · split
    · exact (still_deliver state output packet).received
    · split
      · exact (still_deliver _ output packet).received
      · rfl

theorem received_updateSource {graph : Graph} (state : State graph) :
    state.updateSource.received = state.received := by
  simp only [State.updateSource]
  split
  · rfl
  · split
    · rfl
    · exact received_supplyPacket _ 0 _

theorem received_updateTransform {graph : Graph} (state : State graph) (stage : Nat) :
    (state.updateTransform stage).received = state.received := by
  simp only [State.updateTransform]
  rw [(still_setDemand _ _ _).received]
  split
  · split
    · rfl
    · simp only [State.transformPacket]
      split
      · exact received_supplyPacket _ stage _
      · rfl
  · rfl

theorem received_updateSink {graph : Graph} (state : State graph) (answer : Demand) :
    state.received <+: (state.updateSink answer).received := by
  simp only [State.updateSink]
  rw [(still_setDemand _ _ _).received]
  split
  · exact List.prefix_append _ _
  · exact List.prefix_rfl

theorem received_updateStage {graph : Graph} (state : State graph) (stage : Nat)
    (answer : Demand) : state.received <+: (state.updateStage stage answer).received := by
  obtain ⟨idle, updated, before, after, source | ⟨-, -, transform⟩ | sink⟩ :=
    updateStage_cases state stage answer
  · have same : (state.updateStage stage answer).received = state.received := by
      rw [after.received, source, received_updateSource, before.received]
    exact same ▸ List.prefix_rfl
  · have same : (state.updateStage stage answer).received = state.received := by
      rw [after.received, transform, received_updateTransform, before.received]
    exact same ▸ List.prefix_rfl
  · rw [after.received, sink, ← before.received]
    exact received_updateSink idle answer

structure Brings {graph : Graph} (more : List Packet) (state next : State graph) : Prop where
  supplied : next.supplied = state.supplied ++ more
  received : state.received <+: next.received
  eventual : ∀ future, next.eventual future = state.eventual (more ++ future)

theorem brings_updateStage {graph : Graph} {state entered : State graph}
    (still : state.Still entered) (stage : Nat) (answer : Demand) :
    Brings [] state (entered.updateStage stage answer) := by
  refine ⟨?_, ?_, fun future => ?_⟩
  · rw [supplied_updateStage, still.supplied, List.append_nil]
  · exact still.received ▸ received_updateStage entered stage answer
  · rw [eventual_updateStage, still.eventual]
    rfl

theorem brings_of_still {graph : Graph} {state next : State graph} (still : state.Still next) :
    Brings [] state next where
  supplied := by rw [still.supplied, List.append_nil]
  received := still.received ▸ List.prefix_rfl
  eventual future := still.eventual future

theorem brings_step {graph : Graph} {state next : State graph} {event : Event}
    (taken : step state event = some next) : ∃ more, Brings more state next := by
  cases event with
  | supply packet =>
    cases taken
    refine ⟨[packet], rfl, List.prefix_rfl, fun future => ?_⟩
    simp only [State.eventual, State.stream, feed_supply]
    rfl
  | demand demand =>
    cases taken
    refine ⟨[], brings_of_still ?_⟩
    simp only [State.changeDemand]
    split <;> exact ⟨rfl, rfl, rfl, rfl, rfl, rfl, rfl⟩
  | requestUpdate position answer =>
    simp only [step] at taken
    split at taken
    · simp at taken
    · split at taken
      · simp at taken
      · cases taken
        refine ⟨[], ?_⟩
        apply brings_updateStage
        exact ⟨rfl, rfl, rfl, rfl, rfl, rfl, rfl⟩
  | update answer =>
    simp only [step, Option.ite_none_right_eq_some, Option.some.injEq] at taken
    obtain ⟨-, rfl⟩ := taken
    refine ⟨[], ?_⟩
    simp only [State.update]
    split
    · apply brings_updateStage
      exact ⟨rfl, rfl, rfl, rfl, rfl, rfl, rfl⟩
    · apply brings_updateStage
      exact ⟨rfl, rfl, rfl, rfl, rfl, rfl, rfl⟩
    · exact brings_of_still ⟨rfl, rfl, rfl, rfl, rfl, rfl, rfl⟩

theorem Brings.trans {graph : Graph} {first second : List Packet}
    {state between next : State graph} (one : Brings first state between)
    (two : Brings second between next) : Brings (first ++ second) state next := by
  refine ⟨?_, one.received.trans two.received, fun future => ?_⟩
  · rw [two.supplied, one.supplied, List.append_assoc]
  · rw [two.eventual, one.eventual, List.append_assoc]

theorem brings_run {state next : State flushing.graph} {calls : List Call}
    (unflushed : .flushOutput ∉ calls) (reached : Runs.run stepCall state calls = some next) :
    ∃ more, Brings more state next := by
  induction calls generalizing state with
  | nil =>
    obtain rfl : state = next := by simpa using reached
    exact ⟨[], brings_of_still (.refl state)⟩
  | cons call rest ih =>
    obtain ⟨between, taken, later⟩ := (Runs.run_cons stepCall state next call rest).mp reached
    cases call with
    | flushOutput => exact absurd List.mem_cons_self unflushed
    | engine event =>
      obtain ⟨first, one⟩ := brings_step taken
      obtain ⟨second, two⟩ := ih (fun member => unflushed (List.mem_cons_of_mem _ member)) later
      exact ⟨first ++ second, one.trans two⟩

theorem stream_of_empty {graph : Graph} {state : State graph} {stage : Nat}
    (queue : state.packets = []) (slots : ∀ stage, state.packetFromUpstream stage = none) :
    state.stream stage [] = [] := by
  have feed : state.feed stage [] = [] := by
    induction stage with
    | zero => simp [State.feed, queue, copied]
    | succ stage ih => simp [State.feed, slots, ih, Transducer.outputs, copied]
  simp [State.stream, slots, feed]

-- After a flush, whatever was in the graph before, the sink receives in order what fresh
-- transforms make of the packets that are supplied after it, and it has received all of it once
-- the graph is empty again.
theorem nothing_comes_through_flush (flushing : FlushingGraph) (calls : List Call)
    (before state : State flushing.graph) (unflushed : .flushOutput ∉ calls)
    (reached : Runs.run stepCall before (.flushOutput :: calls) = some state) :
    ∃ received supplied, state.received = before.received ++ received ∧
      state.supplied = before.supplied ++ supplied ∧
      received <+: passedFrom flushing.graph before.allocations flushing.graph.length supplied ∧
      (state.packets = [] → (∀ stage, state.packetFromUpstream stage = none) →
        received =
          passedFrom flushing.graph before.allocations flushing.graph.length supplied) ∧
      ((∀ output ≤ flushing.graph.length, ∀ allocatePayloadBuffer,
          flushing.graph.copyAllocator output = some allocatePayloadBuffer →
          ∀ count, allocatePayloadBuffer count = true) →
        received <+: flushing.graph.transformed flushing.graph.length supplied) := by
  obtain ⟨flushed, taken, later⟩ :=
    (Runs.run_cons stepCall before state .flushOutput calls).mp reached
  obtain rfl : flushOutput before = flushed := by
    simp only [stepCall, Option.ite_none_left_eq_some, Option.some.injEq] at taken
    exact taken.2
  have empty := flushed_flushOutput before
  obtain ⟨supplied, brings⟩ := brings_run unflushed later
  have sent : (flushOutput before).supplied = before.supplied :=
    (congrArg (fun state => state.supplied) empty.rest :)
  have taken : (flushOutput before).received = before.received :=
    (congrArg (fun state => state.received) empty.rest :)
  obtain ⟨received, grows⟩ := taken ▸ brings.received
  -- What has been received since, and what is still to come.
  have total : received ++ state.stream flushing.graph.length [] =
      passedFrom flushing.graph before.allocations flushing.graph.length supplied := by
    have outcome := brings.eventual []
    rw [empty.eventual, List.append_nil, State.eventual, ← grows, List.append_assoc] at outcome
    exact List.append_cancel_left outcome
  have ordered : received <+:
      passedFrom flushing.graph before.allocations flushing.graph.length supplied :=
    total ▸ List.prefix_append _ _
  refine ⟨received, supplied, grows.symm, by rw [brings.supplied, sent], ordered, ?_, ?_⟩
  · intro queue slots
    rw [← total, stream_of_empty queue slots, List.append_nil]
  · intro allocated
    exact passedFrom_of_allocated allocated supplied ▸ ordered

def repeating : Transform where
  State := Unit
  start := ()
  call _ packet isNew := ⟨!isNew, some packet, ()⟩
  left _ _ isNew := if isNew then 1 else 0
  finite _ _ isNew unfinished := by
    cases isNew <;> simp_all

def repeatingGraph : FlushingGraph where
  graph := { length := 1, transform := fun _ => repeating, copyAllocator := fun _ => none }
  flush _ _ := ()
  fresh _ _ _ := rfl

def oneReceived (packet : Packet) : List Call :=
  [ .engine (.demand .positive), .engine (.requestUpdate 0 .negative),
    .engine (.update .negative), .engine (.update .negative), .engine (.update .negative),
    .engine (.supply packet), .engine (.requestUpdate 0 .negative), .engine (.update .negative),
    .engine (.update .negative), .engine (.update .negative), .engine (.update .negative),
    .engine (.update .negative) ]

theorem half_packet_flushed :
    ∃ before state : State repeatingGraph.graph,
      Runs.run stepCall { } (oneReceived firstPacket) = some before ∧
      before.packetFromUpstream 1 = some firstPacket ∧
      Runs.run stepCall before (.flushOutput :: oneReceived secondPacket) = some state ∧
      ∃ received, state.received = before.received ++ received ∧
        received <+: repeatingGraph.graph.transformed 1 [secondPacket] := by
  have outcome : (Runs.run stepCall ({ } : State repeatingGraph.graph)
      (oneReceived firstPacket)).any (fun before => before.packetFromUpstream 1 = some firstPacket ∧
        (Runs.run stepCall before (.flushOutput :: oneReceived secondPacket)).any (fun state =>
          state.supplied = before.supplied ++ [secondPacket])) = true := by
    decide +kernel
  obtain ⟨before, reached, found⟩ := (Option.any_eq_true _ _).mp outcome
  obtain ⟨held, found⟩ := of_decide_eq_true found
  obtain ⟨state, later, sent⟩ := (Option.any_eq_true _ _).mp found
  obtain ⟨received, supplied, grows, all, -, -, whole⟩ :=
    nothing_comes_through_flush repeatingGraph (oneReceived secondPacket) before state
      (by decide) later
  obtain rfl : [secondPacket] = supplied :=
    List.append_cancel_left ((of_decide_eq_true sent).symm.trans all)
  refine ⟨before, state, reached, held, later, received, grows, whole ?_⟩
  intro _ _ _ copies
  cases copies

end MojoMedia.Framework.LinearFlush
