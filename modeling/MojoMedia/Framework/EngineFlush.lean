import MojoMedia.Framework.Quiescence
import MojoMedia.Shared.Orbits

set_option autoImplicit false

namespace MojoMedia.Framework.Engine

namespace State

variable (graph : PreparedGraph)

-- A stage that has no such connector has no result. `flushStageInput` returns the outputs that
-- its callback was called with.
def flushStageOutput (state : State) (output : OutputRef) : Option State :=
  let flushed := state.setOutputDemand output .negative
  match graph.connections.kind output.stage with
  | .activeSource => some (flushed.setPackets output.stage [])
  | .multistreamSource _ => some (flushed.setMultistreamSource output.stage { })
  | .activeMultistreamSource _ =>
    some (flushed.setActiveMultistreamSource output.stage
      (state.activeMultistreamSource output.stage).flushOutput)
  | .transform => some (flushed.setInputPacketIsNew output.stage true)
  | .activeSink | .activeMultistreamSink _ => none

def removePending (state : State) (input : InputRef) : State :=
  state.setPendingInputs input.stage
    ((state.pendingInputs input.stage).filter (· ≠ input.index))

def flushStageInput (state : State) (input : InputRef) : Option (State × List Nat) :=
  match graph.connections.kind input.stage with
  | .transform => some (state.takePacket input, [0])
  | .activeSink => some ((state.takePacket input).setSinkDemand input .negative, [])
  | .activeMultistreamSink _ =>
    some (((state.setSinkDemand input .negative).takePacket input).removePending input, [])
  | .activeSource | .multistreamSource _ | .activeMultistreamSource _ => none

abbrev DownstreamVisitor := State → OutputRef → InputRef → Option (State × List Nat)

def visitDownstream (visitor : DownstreamVisitor) :
    Nat → State → List OutputRef → Option (State × List OutputRef)
  | _, state, [] => some (state, [])
  | 0, _, _ :: _ => none
  | fuel + 1, state, output :: backlog =>
    if graph.connections.ValidOutput output then do
      let input ← graph.connections.outputMate output
      let visit ← visitor state output input
      let later ← visitDownstream visitor fuel visit.1
        (backlog ++ visit.2.map fun index => ⟨input.stage, index⟩)
      some (later.1, output :: later.2)
    else none

def flushVisitor : DownstreamVisitor := fun state output input =>
  if graph.connections.prepared input then do
    let flushed ← state.flushStageOutput graph output
    flushed.flushStageInput graph input
  else none

def flushOutput (fuel : Nat) (state : State) (output : OutputRef) :
    Option (State × List OutputRef) :=
  if graph.connections.ValidOutput output then
    if (graph.connections.outputMate output).isSome then
      visitDownstream graph (flushVisitor graph) fuel state [output]
    else some (state, [])
  else none

end State

def nextOutput (graph : PreparedGraph) (output : OutputRef) : Option OutputRef :=
  (graph.connections.outputMate output).bind fun input =>
    if graph.connections.kind input.stage = .transform then some ⟨input.stage, 0⟩ else none

def inputsOf (graph : PreparedGraph) (outputs : List OutputRef) : List InputRef :=
  outputs.filterMap graph.connections.outputMate

def IsMultistreamSource : StageKind → Bool
  | .multistreamSource _ => true
  | _ => false

def IsActiveMultistreamSource : StageKind → Bool
  | .activeMultistreamSource _ => true
  | _ => false

def IsMultistreamSink : StageKind → Bool
  | .activeMultistreamSink _ => true
  | _ => false

structure Flushed (graph : PreparedGraph) (outputs : List OutputRef) (state next : State) :
    Prop where
  demand : ∀ output, next.demand output =
    if output ∈ outputs then .negative else state.demand output
  slots : ∀ input, next.packetFromUpstream input =
    if input ∈ inputsOf graph outputs then none else state.packetFromUpstream input
  sinkDemand : ∀ input, next.sinkDemand input =
    if input ∈ inputsOf graph outputs ∧ graph.connections.kind input.stage ≠ .transform then
      .negative
    else state.sinkDemand input
  pendingInputs : ∀ stage, next.pendingInputs stage =
    if IsMultistreamSink (graph.connections.kind stage) then
      (state.pendingInputs stage).filter fun index => ⟨stage, index⟩ ∉ inputsOf graph outputs
    else state.pendingInputs stage
  packets : ∀ stage, next.packets stage =
    if stage ∈ outputs.map (·.stage) ∧ graph.connections.kind stage = .activeSource then []
    else state.packets stage
  multistreamSource : ∀ stage, next.multistreamSource stage =
    if stage ∈ outputs.map (·.stage) ∧ IsMultistreamSource (graph.connections.kind stage) then { }
    else state.multistreamSource stage
  activeMultistreamSource : ∀ stage, next.activeMultistreamSource stage =
    if stage ∈ outputs.map (·.stage) ∧ IsActiveMultistreamSource (graph.connections.kind stage) then
      { }
    else state.activeMultistreamSource stage
  inputPacketIsNew : ∀ stage, next.inputPacketIsNew stage =
    if stage ∈ outputs.map (·.stage) ∧ graph.connections.kind stage = .transform then true
    else state.inputPacketIsNew stage
  rest : { next with
    demand := state.demand
    packetFromUpstream := state.packetFromUpstream
    sinkDemand := state.sinkDemand
    pendingInputs := state.pendingInputs
    packets := state.packets
    multistreamSource := state.multistreamSource
    activeMultistreamSource := state.activeMultistreamSource
    inputPacketIsNew := state.inputPacketIsNew } = state

variable {graph : PreparedGraph}

theorem flushStageOutput_eq {state : State} {output : OutputRef}
    (valid : graph.connections.ValidOutput output) :
    state.flushStageOutput graph output = some { state with
      demand := Function.update state.demand output .negative
      packets := fun stage =>
        if stage = output.stage ∧ graph.connections.kind stage = .activeSource then []
        else state.packets stage
      multistreamSource := fun stage =>
        if stage = output.stage ∧ IsMultistreamSource (graph.connections.kind stage) then { }
        else state.multistreamSource stage
      activeMultistreamSource := fun stage =>
        if stage = output.stage ∧ IsActiveMultistreamSource (graph.connections.kind stage) then { }
        else state.activeMultistreamSource stage
      inputPacketIsNew := fun stage =>
        if stage = output.stage ∧ graph.connections.kind stage = .transform then true
        else state.inputPacketIsNew stage } := by
  have hasOutput := valid.2
  cases kind : graph.connections.kind output.stage <;>
    simp only [kind, StageKind.outputCount, Nat.not_lt_zero] at hasOutput <;>
    simp only [State.flushStageOutput, kind, State.setOutputDemand, State.setPackets,
      State.setMultistreamSource, State.setActiveMultistreamSource, State.setInputPacketIsNew,
      Option.some.injEq, State.mk.injEq, true_and, and_true] <;>
    refine ⟨?_, ?_, ?_, ?_⟩ <;> funext stage <;> by_cases here : stage = output.stage <;>
    simp [here, kind, IsMultistreamSource, IsActiveMultistreamSource,
      ActiveMultistreamSourceStage.flushOutput]

theorem flushStageInput_eq {state : State} {input : InputRef}
    (valid : graph.connections.ValidInput input) :
    state.flushStageInput graph input = some ({ state with
      packetFromUpstream := Function.update state.packetFromUpstream input none
      sinkDemand := fun other =>
        if other = input ∧ graph.connections.kind other.stage ≠ .transform then .negative
        else state.sinkDemand other
      pendingInputs := fun stage =>
        if IsMultistreamSink (graph.connections.kind stage) then
          (state.pendingInputs stage).filter fun index => ⟨stage, index⟩ ≠ input
        else state.pendingInputs stage },
      if graph.connections.kind input.stage = .transform then [0] else []) := by
  have hasInput := valid.2
  have kept (stage : Nat) (different : stage ≠ input.stage) :
      ((state.pendingInputs stage).filter fun index => (⟨stage, index⟩ : InputRef) ≠ input) =
        state.pendingInputs stage := by
    rw [List.filter_eq_self]
    rintro index -
    simpa using fun same : (⟨stage, index⟩ : InputRef) = input => different (same ▸ rfl)
  have sinks (other : InputRef) (through : graph.connections.kind input.stage = .transform) :
      ¬ (other = input ∧ graph.connections.kind other.stage ≠ .transform) := by
    rintro ⟨rfl, different⟩
    exact different through
  have unlisted (stage : Nat) (other : ¬ IsMultistreamSink (graph.connections.kind input.stage)) :
      (if IsMultistreamSink (graph.connections.kind stage) then
        (state.pendingInputs stage).filter fun index => (⟨stage, index⟩ : InputRef) ≠ input
      else state.pendingInputs stage) = state.pendingInputs stage := by
    split
    next multistream => exact kept stage fun same => other (same ▸ multistream)
    next => rfl
  have demands (sink : graph.connections.kind input.stage ≠ .transform) :
      (fun other => if other = input ∧ graph.connections.kind other.stage ≠ .transform then
        Demand.negative else state.sinkDemand other) =
        Function.update state.sinkDemand input .negative := by
    funext other
    by_cases here : other = input <;> simp [here, sink]
  cases kind : graph.connections.kind input.stage with
  | activeSource | multistreamSource _ | activeMultistreamSource _ =>
    simp [kind, StageKind.inputCount] at hasInput
  | transform =>
    have pending := fun stage => unlisted stage (by simp [kind, IsMultistreamSink])
    simp only [State.flushStageInput, kind, State.takePacket, sinks _ kind, if_false, pending,
      if_true]
  | activeSink =>
    have pending := fun stage => unlisted stage (by simp [kind, IsMultistreamSink])
    rw [demands (by simp [kind])]
    simp only [State.flushStageInput, kind, State.takePacket, State.setSinkDemand, pending,
      reduceCtorEq, if_false]
  | activeMultistreamSink inputs =>
    have pending : (fun stage => if IsMultistreamSink (graph.connections.kind stage) then
          (state.pendingInputs stage).filter fun index => (⟨stage, index⟩ : InputRef) ≠ input
        else state.pendingInputs stage) =
        Function.update state.pendingInputs input.stage
          ((state.pendingInputs input.stage).filter (· ≠ input.index)) := by
      funext stage
      by_cases here : stage = input.stage
      · subst here
        simp only [Function.update_self, kind, IsMultistreamSink, if_true]
        refine List.filter_congr fun index _ => ?_
        cases input
        simp
      · rw [Function.update_of_ne here]
        split
        next => rw [kept stage here]
        next => rfl
    rw [demands (by simp [kind]), pending]
    simp only [State.flushStageInput, kind, State.takePacket, State.setSinkDemand,
      State.removePending, State.setPendingInputs, reduceCtorEq, if_false]

theorem flushed_visit {output : OutputRef} {input : InputRef} (state : State)
    (mates : graph.connections.outputMate output = some input)
    (prepared : graph.connections.prepared input = true) :
    ∃ next, State.flushVisitor graph state output input =
        some (next, if graph.connections.kind input.stage = .transform then [0] else []) ∧
      Flushed graph [output] state next := by
  obtain ⟨validOutput, validInput⟩ := graph.mated.valid output input mates
  simp only [State.flushVisitor, prepared, if_true, flushStageOutput_eq validOutput,
    Option.bind_eq_bind, Option.bind_some, flushStageInput_eq validInput]
  refine ⟨_, rfl, ?_⟩
  constructor <;> simp [inputsOf, mates, Function.update_apply]

theorem Flushed.cons {output : OutputRef} {outputs : List OutputRef} {state middle next : State}
    (first : Flushed graph [output] state middle) (rest : Flushed graph outputs middle next) :
    Flushed graph (output :: outputs) state next := by
  have inputs (input : InputRef) : input ∈ inputsOf graph (output :: outputs) ↔
      input ∈ inputsOf graph [output] ∨ input ∈ inputsOf graph outputs := by
    simp [inputsOf]
  refine ⟨?_, ?_, ?_, ?_, ?_, ?_, ?_, ?_, ?_⟩
  · intro other
    rw [rest.demand, first.demand]
    grind
  · intro input
    rw [rest.slots, first.slots]
    grind
  · intro input
    rw [rest.sinkDemand, first.sinkDemand]
    grind
  · intro stage
    rw [rest.pendingInputs, first.pendingInputs]
    split
    · rw [List.filter_filter]
      refine List.filter_congr fun index _ => ?_
      simp [inputs, and_comm]
    · rfl
  · intro stage
    rw [rest.packets, first.packets]
    grind
  · intro stage
    rw [rest.multistreamSource, first.multistreamSource]
    grind
  · intro stage
    rw [rest.activeMultistreamSource, first.activeMultistreamSource]
    grind
  · intro stage
    rw [rest.inputPacketIsNew, first.inputPacketIsNew]
    grind
  · have later := rest.rest
    have earlier := first.rest
    rw [← later] at earlier
    exact earlier

theorem nextOutput_eq_some {output successor : OutputRef} :
    nextOutput graph output = some successor ↔
      ∃ input, graph.connections.outputMate output = some input ∧
        graph.connections.kind input.stage = .transform ∧ successor = ⟨input.stage, 0⟩ := by
  simp only [nextOutput, Option.bind_eq_some_iff, Option.ite_none_right_eq_some,
    Option.some.injEq, eq_comm (a := successor)]

-- A transform has a single input, so it comes next after a single output.
theorem nextOutput_injective {first second successor : OutputRef}
    (fromFirst : nextOutput graph first = some successor)
    (fromSecond : nextOutput graph second = some successor) : first = second := by
  obtain ⟨input, mates, through, rfl⟩ := nextOutput_eq_some.mp fromFirst
  obtain ⟨other, otherMates, -, same⟩ := nextOutput_eq_some.mp fromSecond
  have only {reached : InputRef} (valid : graph.connections.ValidInput reached)
      (here : reached.stage = input.stage) : reached = ⟨input.stage, 0⟩ := by
    have index := valid.2
    rw [here, through] at index
    cases reached
    simp only [StageKind.inputCount, Nat.lt_one_iff] at index
    simp only at here
    rw [here, index]
  have equal : input = other := by
    rw [only (graph.mated.valid _ _ mates).2 rfl, only (graph.mated.valid _ _ otherMates).2]
    simpa using (congrArg OutputRef.stage same).symm
  exact graph.mated.output_unique otherMates (equal ▸ mates)

def SourceOutput (graph : PreparedGraph) (output : OutputRef) : Prop :=
  graph.connections.ValidOutput output ∧ (graph.connections.kind output.stage).inputCount = 0

theorem SourceOutput.unreached {output : OutputRef} (source : SourceOutput graph output)
    (before : OutputRef) : nextOutput graph before ≠ some output := by
  intro goes
  obtain ⟨input, -, through, rfl⟩ := nextOutput_eq_some.mp goes
  simp [SourceOutput, through, StageKind.inputCount] at source

theorem SourceOutput.exists_follows {output : OutputRef} (source : SourceOutput graph output) :
    ∃ path, Orbits.Follows (nextOutput graph) output path ∧ path.Nodup ∧
      path.length ≤ graph.connections.stages.length + 1 := by
  let outputs := output :: graph.connections.stages.map fun stage => (⟨stage, 0⟩ : OutputRef)
  have within (value successor : OutputRef) (goes : nextOutput graph value = some successor) :
      successor ∈ outputs := by
    obtain ⟨input, mates, -, rfl⟩ := nextOutput_eq_some.mp goes
    have present := (graph.mated.valid _ _ mates).2.1
    exact List.mem_cons_of_mem _ (List.mem_map.mpr ⟨_, present, rfl⟩)
  obtain ⟨path, follows, distinct, short⟩ := Orbits.exists_follows List.mem_cons_self within
    (fun _ _ _ => nextOutput_injective) source.unreached
  exact ⟨path, follows, distinct, by simpa [outputs] using short⟩

def Prepared (graph : PreparedGraph) : Prop :=
  ∀ input, graph.connections.ValidInput input → graph.connections.prepared input = true

theorem visitDownstream_cons (prepared : Prepared graph) {output : OutputRef}
    (valid : graph.connections.ValidOutput output) (state : State) :
    ∃ visited, Flushed graph [output] state visited ∧ ∀ fuel,
      State.visitDownstream graph (State.flushVisitor graph) (fuel + 1) state [output] =
        (State.visitDownstream graph (State.flushVisitor graph) fuel visited
          (nextOutput graph output).toList).map fun later => (later.1, output :: later.2) := by
  obtain ⟨input, mates⟩ := Option.isSome_iff_exists.mp (graph.connected.2 output valid)
  have ready := prepared input (graph.mated.valid output input mates).2
  obtain ⟨visited, visit, flushed⟩ := flushed_visit state mates ready
  refine ⟨visited, flushed, fun fuel => ?_⟩
  have onwards : ((if graph.connections.kind input.stage = .transform then [0] else []).map
      fun index => (⟨input.stage, index⟩ : OutputRef)) = (nextOutput graph output).toList := by
    simp only [nextOutput, mates, Option.bind_some]
    split <;> rfl
  simp only [State.visitDownstream, if_pos valid, mates, visit, Option.bind_eq_bind,
    Option.bind_some, List.nil_append, onwards]
  cases State.visitDownstream graph (State.flushVisitor graph) fuel visited
    (nextOutput graph output).toList <;> rfl

theorem visitDownstream_follows (prepared : Prepared graph) {output : OutputRef}
    {path : List OutputRef} (follows : Orbits.Follows (nextOutput graph) output path)
    (valid : graph.connections.ValidOutput output) {fuel : Nat} (enough : path.length ≤ fuel)
    (state : State) :
    ∃ next, State.visitDownstream graph (State.flushVisitor graph) fuel state [output] =
      some (next, path) ∧ Flushed graph path state next := by
  induction follows generalizing fuel state with
  | @last output ends =>
    obtain ⟨fuel, rfl⟩ := Nat.exists_eq_add_of_le' enough
    obtain ⟨visited, flushed, turn⟩ := visitDownstream_cons prepared valid state
    refine ⟨visited, ?_, flushed⟩
    rw [List.length_singleton, turn, ends]
    simp [State.visitDownstream]
  | @step output successor path goes rest ih =>
    obtain ⟨fuel, rfl⟩ := Nat.exists_eq_add_of_le' enough
    obtain ⟨visited, flushed, turn⟩ := visitDownstream_cons prepared valid state
    obtain ⟨input, mates, through, rfl⟩ := nextOutput_eq_some.mp goes
    have present := (graph.mated.valid output input mates).2.1
    have validNext : graph.connections.ValidOutput ⟨input.stage, 0⟩ :=
      ⟨present, by simp [through, StageKind.outputCount]⟩
    obtain ⟨next, later, flushedLater⟩ := ih validNext (Nat.le_add_left _ fuel) visited
    refine ⟨next, ?_, flushed.cons flushedLater⟩
    rw [List.length_cons, ← Nat.add_assoc, turn, goes]
    simp [later]

theorem follows_sink {output : OutputRef} {path : List OutputRef}
    (follows : Orbits.Follows (nextOutput graph) output path)
    (valid : graph.connections.ValidOutput output) :
    ∃ last input, path.getLast? = some last ∧ graph.connections.outputMate last = some input ∧
      (graph.connections.kind input.stage).outputCount = 0 := by
  induction follows with
  | @last output ends =>
    obtain ⟨input, mates⟩ := Option.isSome_iff_exists.mp (graph.connected.2 output valid)
    have hasInput := (graph.mated.valid output input mates).2.2
    refine ⟨output, input, rfl, mates, ?_⟩
    cases kind : graph.connections.kind input.stage <;>
      simp_all [nextOutput, StageKind.inputCount, StageKind.outputCount]
  | @step output successor path goes rest ih =>
    obtain ⟨input, mates, through, rfl⟩ := nextOutput_eq_some.mp goes
    have present := (graph.mated.valid output input mates).2.1
    obtain ⟨last, sink, isLast, found⟩ := ih ⟨present, by simp [through, StageKind.outputCount]⟩
    exact ⟨last, sink, by simp [List.getLast?_cons, isLast], found⟩

-- The outputs that a flush of `output` goes on with, down to one that feeds a sink.
structure Downstream (graph : PreparedGraph) (output : OutputRef) (path : List OutputRef) :
    Prop where
  follows : Orbits.Follows (nextOutput graph) output path
  nodup : path.Nodup
  sink : ∃ last input, path.getLast? = some last ∧
    graph.connections.outputMate last = some input ∧
      (graph.connections.kind input.stage).outputCount = 0

theorem SourceOutput.exists_downstream {output : OutputRef} (source : SourceOutput graph output) :
    ∃ path, Downstream graph output path ∧ path.length ≤ graph.connections.stages.length + 1 := by
  obtain ⟨path, follows, distinct, short⟩ := source.exists_follows
  exact ⟨path, ⟨follows, distinct, follows_sink follows source.1⟩, short⟩

theorem Downstream.flushOutput {output : OutputRef} {path : List OutputRef}
    (downstream : Downstream graph output path) (prepared : Prepared graph)
    (valid : graph.connections.ValidOutput output) {fuel : Nat} (enough : path.length ≤ fuel)
    (state : State) :
    ∃ next, state.flushOutput graph fuel output = some (next, path) ∧
      Flushed graph path state next := by
  obtain ⟨next, visited, flushed⟩ :=
    visitDownstream_follows prepared downstream.follows valid enough state
  refine ⟨next, ?_, flushed⟩
  simp only [State.flushOutput, if_pos valid, graph.connected.2 output valid, if_true, visited]

-- A flush of a source's output comes to an end at a sink in any prepared graph. It visits the
-- outputs downstream once each, and leaves nothing of what was on the way.
theorem flush_reaches_sink (graph : PreparedGraph) (prepared : Prepared graph)
    (output : OutputRef) (source : SourceOutput graph output) :
    ∃ path, Downstream graph output path ∧
      ∀ fuel, graph.connections.stages.length < fuel → ∀ state : State,
        ∃ next, state.flushOutput graph fuel output = some (next, path) ∧
          Flushed graph path state next := by
  obtain ⟨path, downstream, short⟩ := source.exists_downstream
  refine ⟨path, downstream, fun fuel enough state => ?_⟩
  exact downstream.flushOutput prepared source.1 (Nat.le_trans short enough) state

def preparedChain : PreparedGraph where
  connections := { Connections.chain with prepared := fun _ => true }
  mated := ⟨Connections.chain_mated.symmetric, Connections.chain_mated.valid⟩
  connected := Connections.chain_connected
  copyAllocator _ := none
  transforms _ _ := rfl
  inputs _ _ _ _ := rfl

theorem chain_flush_reaches_sink :
    ∃ path, path.Nodup ∧ ∀ state : State, ∃ next,
      state.flushOutput preparedChain 4 ⟨0, 0⟩ = some (next, path) ∧
        Flushed preparedChain path state next := by
  obtain ⟨path, downstream, flushes⟩ :=
    flush_reaches_sink preparedChain (fun _ _ => rfl) ⟨0, 0⟩ ⟨by decide, rfl⟩
  exact ⟨path, downstream.nodup, flushes 4 (by decide)⟩

theorem Flushed.fields {outputs : List OutputRef} {state next : State}
    (flushed : Flushed graph outputs state next) :
    next.supplyBacklog = state.supplyBacklog ∧ next.demandBacklog = state.demandBacklog ∧
      next.inSupplyBacklog = state.inSupplyBacklog ∧
      next.inDemandBacklog = state.inDemandBacklog ∧ next.requests = state.requests ∧
      next.locked = state.locked := by
  rw [← flushed.rest]
  exact ⟨rfl, rfl, rfl, rfl, rfl, rfl⟩

theorem mem_inputsOf {outputs : List OutputRef} {output : OutputRef} {input : InputRef}
    (mates : graph.connections.outputMate output = some input) :
    input ∈ inputsOf graph outputs ↔ output ∈ outputs := by
  simp only [inputsOf, List.mem_filterMap]
  constructor
  · rintro ⟨other, member, also⟩
    exact graph.mated.output_unique mates also ▸ member
  · exact fun member => ⟨output, member, mates⟩

theorem mem_through {start : OutputRef} {path : List OutputRef} {stage : Nat}
    (follows : Orbits.Follows (nextOutput graph) start path) (source : SourceOutput graph start)
    (through : graph.connections.kind stage = .transform) :
    ⟨stage, 0⟩ ∈ path ↔ ⟨stage, 0⟩ ∈ inputsOf graph path := by
  have only {input : InputRef} (valid : graph.connections.ValidInput input)
      (here : input.stage = stage) : input = ⟨stage, 0⟩ := by
    have index := valid.2
    rw [here, through] at index
    cases input
    simp_all [StageKind.inputCount]
  simp only [inputsOf, List.mem_filterMap]
  constructor
  · intro member
    rcases follows.mem_cases member with rfl | ⟨before, earlier, goes⟩
    · simp [SourceOutput, through, StageKind.inputCount] at source
    · obtain ⟨input, mates, -, same⟩ := nextOutput_eq_some.mp goes
      have here : input.stage = stage := by simpa using (congrArg OutputRef.stage same).symm
      rw [only (graph.mated.valid _ _ mates).2 here] at mates
      exact ⟨before, earlier, mates⟩
  · rintro ⟨before, earlier, mates⟩
    exact follows.mem_next earlier (nextOutput_eq_some.mpr ⟨_, mates, through, rfl⟩)

namespace Flushed

variable {outputs : List OutputRef} {state next : State}

theorem outputDemand_of_visited (flushed : Flushed graph outputs state next) {output : OutputRef}
    (visited : output ∈ outputs) : next.outputDemand graph output = .negative :=
  State.outputDemand_of_negative (by rw [flushed.demand, if_pos visited])

theorem outputDemand_of_unvisited (flushed : Flushed graph outputs state next)
    {output : OutputRef} (unvisited : output ∉ outputs) :
    next.outputDemand graph output = state.outputDemand graph output := by
  refine State.outputDemand_congr (by rw [flushed.demand, if_neg unvisited]) ?_
  simp only [State.mateHolds]
  split
  next input mates => rw [flushed.slots, if_neg (mt (mem_inputsOf mates).mp unvisited)]
  next => rfl

theorem signalled (flushed : Flushed graph outputs state next) (input : InputRef) :
    next.signalled graph input =
      if input ∈ inputsOf graph outputs then .negative else state.signalled graph input := by
  simp only [State.signalled]
  split
  next output mates =>
    have forth := (graph.mated.symmetric output input).mpr mates
    simp only [flushed.demand, mem_inputsOf forth]
  next unmated => simp

theorem alert (flushed : Flushed graph outputs state next) {start : OutputRef}
    (follows : Orbits.Follows (nextOutput graph) start outputs)
    (source : SourceOutput graph start) (alert : State.Alert graph none state) :
    State.Alert graph none next := by
  obtain ⟨supplyBacklog, demandBacklog, inSupply, inDemand, requests, locked⟩ := flushed.fields
  have sinkDemand (input : InputRef)
      (sink : graph.connections.kind input.stage ≠ .transform) : next.sinkDemand input =
        if input ∈ inputsOf graph outputs then .negative else state.sinkDemand input := by
    rw [flushed.sinkDemand]
    simp [sink]
  refine ⟨?_, ?_, ?_, ?_, ?_, ?_, ?_⟩
  · rw [inSupply, supplyBacklog]
    exact alert.supplyFlag
  · rw [inDemand, demandBacklog]
    exact alert.demandFlag
  · intro output input mates held wanted
    rw [flushed.slots] at held
    rw [flushed.demand] at wanted
    rw [demandBacklog]
    split at held
    · exact absurd rfl held
    · split at wanted
      · exact absurd rfl wanted
      · exact .inl ((alert.waiting output input mates held wanted).resolve_right (by simp))
  · intro output input mates held notBusy
    rw [flushed.slots] at held
    rw [flushed.demand, supplyBacklog]
    split at held
    · exact absurd rfl held
    · split
      · exact .inr rfl
      · exact alert.held output input mates held notBusy
  · intro input multistream absent
    obtain ⟨inputs, kind⟩ := multistream
    rw [flushed.slots, sinkDemand input (by simp [kind]), flushed.signalled]
    rw [flushed.pendingInputs] at absent
    simp only [kind, IsMultistreamSink, if_true, List.mem_filter, decide_not, Bool.not_eq_true',
      decide_eq_false_iff_not, not_and, not_not] at absent
    by_cases visited : input ∈ inputsOf graph outputs
    · simp [visited]
    · simp only [visited, if_false]
      exact alert.pending input ⟨inputs, kind⟩ fun listed => visited (absent listed)
  · intro stage present notBusy
    rw [supplyBacklog, demandBacklog, requests]
    refine (alert.settled stage present notBusy).imp_left fun settled => ?_
    -- The connectors of the stage have been visited, or it sees what it saw.
    unfold State.Settled at settled ⊢
    cases kind : graph.connections.kind stage with
    | activeSource =>
      simp only [kind] at settled ⊢
      by_cases visited : ⟨stage, 0⟩ ∈ outputs
      · exact .inr (flushed.outputDemand_of_visited visited)
      · rw [flushed.outputDemand_of_unvisited visited, flushed.packets]
        split
        · exact .inl rfl
        · exact settled
    | transform =>
      simp only [kind] at settled ⊢
      rw [flushed.signalled, flushed.slots]
      simp only [← mem_through follows source kind]
      by_cases visited : ⟨stage, 0⟩ ∈ outputs
      · simp [visited, flushed.outputDemand_of_visited visited]
      · simpa [visited, flushed.outputDemand_of_unvisited visited] using settled
    | activeSink =>
      simp only [kind] at settled ⊢
      rw [flushed.signalled, flushed.slots, sinkDemand _ (by simp [kind])]
      by_cases visited : ⟨stage, 0⟩ ∈ inputsOf graph outputs
      · simp [visited]
      · simpa [visited] using settled
    | activeMultistreamSink inputs =>
      simp only [kind] at settled ⊢
      intro index inside
      rw [flushed.signalled, flushed.slots, sinkDemand _ (by simp [kind])]
      by_cases visited : ⟨stage, index⟩ ∈ inputsOf graph outputs
      · simp [visited]
      · simpa [visited] using settled index inside
    | multistreamSource _ | activeMultistreamSource _ => trivial
  · rw [locked, supplyBacklog, demandBacklog]
    exact alert.idle

theorem safe (flushed : Flushed graph outputs state next) (safe : state.Safe) : next.Safe := by
  obtain ⟨calls, slots⟩ := safe
  rw [← flushed.rest] at calls slots
  exact ⟨calls, slots⟩

end Flushed

inductive Call where
  | engine (event : Event)
  | flushOutput (output : OutputRef)

def stepCall (graph : PreparedGraph) (state : State) : Call → Option State
  | .engine event => step graph state event
  | .flushOutput output =>
    if state.locked then none
    else (state.flushOutput graph (graph.connections.stages.length + 1) output).map Prod.fst

theorem State.Alert.quiescent {state : State} (alert : State.Alert graph none state)
    (returned : state.locked = false) : Quiescent graph state := by
  obtain ⟨-, noSupply, noDemand⟩ := alert.idle returned
  have settled (stage : Nat) (present : stage ∈ graph.connections.stages)
      (quiet : stage ∉ state.requests) : state.Settled graph stage := by
    simpa [noSupply, noDemand, quiet] using alert.settled stage present
  refine ⟨⟨noSupply, noDemand⟩, ?_, ?_, ?_, ?_⟩
  · intro stage present quiet kind
    have done := settled stage present quiet
    simp only [State.Settled, kind] at done
    exact fun work => done.elim work.1 work.2
  · intro stage present quiet kind
    have done := settled stage present quiet
    simp only [State.Settled, kind] at done
    exact ⟨fun work => done.1.elim work.1 work.2, done.2⟩
  · intro stage present quiet kind
    have done := settled stage present quiet
    simpa only [State.Settled, kind] using done
  · intro stage present quiet inputs kind
    have done := settled stage present quiet
    simpa only [State.Settled, kind] using done

end MojoMedia.Framework.Engine
