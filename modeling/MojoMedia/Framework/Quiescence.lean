import MojoMedia.Framework.Wakeups

set_option autoImplicit false

namespace MojoMedia.Framework.Engine

namespace State

variable {graph : PreparedGraph} {state next : State}

theorem output_mate {stage : Nat} (present : stage ∈ graph.connections.stages) (index : Nat)
    (less : index < (graph.connections.kind stage).outputCount) :
    ∃ input, graph.connections.outputMate ⟨stage, index⟩ = some input :=
  Option.isSome_iff_exists.mp (graph.connected.2 ⟨stage, index⟩ ⟨present, less⟩)

theorem input_mate {stage : Nat} (present : stage ∈ graph.connections.stages) (index : Nat)
    (less : index < (graph.connections.kind stage).inputCount) :
    ∃ output, graph.connections.inputMate ⟨stage, index⟩ = some output :=
  Option.isSome_iff_exists.mp (graph.connected.1 ⟨stage, index⟩ ⟨present, less⟩)

theorem input_of_mate {output : OutputRef} {input : InputRef}
    (mates : graph.connections.outputMate output = some input) :
    input.stage ∈ graph.connections.stages ∧
      input.index < (graph.connections.kind input.stage).inputCount :=
  (graph.mated.valid output input mates).2

theorem private_setPackets (stage : Nat) (packets : List Packet) :
    Private graph stage state (state.setPackets stage packets) :=
  ⟨rfl, rfl, fun other different => by simp [State.setPackets, different], fun _ _ => rfl,
    fun _ _ _ sink => sink, rfl, rfl, rfl, rfl, rfl, rfl, rfl, rfl⟩

theorem private_setDownstreamDemand (stage : Nat) (demand : Demand) :
    Private graph stage state (state.setDownstreamDemand stage demand) :=
  ⟨rfl, rfl, fun _ _ => rfl, fun _ _ => rfl, fun _ _ _ sink => sink, rfl, rfl, rfl, rfl, rfl, rfl,
    rfl, rfl⟩

theorem private_setMultistreamSource (stage other : Nat) (source : MultistreamSourceStage) :
    Private graph stage state (state.setMultistreamSource other source) :=
  ⟨rfl, rfl, fun _ _ => rfl, fun _ _ => rfl, fun _ _ _ sink => sink, rfl, rfl, rfl, rfl, rfl, rfl,
    rfl, rfl⟩

theorem private_setActiveMultistreamSource (stage other : Nat)
    (source : ActiveMultistreamSourceStage) :
    Private graph stage state (state.setActiveMultistreamSource other source) :=
  ⟨rfl, rfl, fun _ _ => rfl, fun _ _ => rfl, fun _ _ _ sink => sink, rfl, rfl, rfl, rfl, rfl, rfl,
    rfl, rfl⟩

theorem private_setInputPacketIsNew (stage other : Nat) (isNew : Bool) :
    Private graph stage state (state.setInputPacketIsNew other isNew) :=
  ⟨rfl, rfl, fun _ _ => rfl, fun _ _ => rfl, fun _ _ _ sink => sink, rfl, rfl, rfl, rfl, rfl, rfl,
    rfl, rfl⟩

theorem own_of_source {stage : Nat} (noInputs : (graph.connections.kind stage).inputCount = 0)
    (output : OutputRef) (input : InputRef)
    (mates : graph.connections.outputMate output = some input) (here : input.stage = stage) :
    False := by
  have less := (input_of_mate mates).2
  rw [here, noInputs] at less
  cases less

def ServesQueue (graph : PreparedGraph) (state : State) (stage : Nat) : Prop :=
  ∀ packet following rest, state.packets stage = packet :: following :: rest →
    state.outputDemand graph ⟨stage, 0⟩ ≠ .negative → Served graph state ⟨stage, 0⟩ packet

theorem Alert.updateActiveSource {stage : Nat} (alert : Alert graph (some stage) state)
    (kind : graph.connections.kind stage = .activeSource) (serves : ServesQueue graph state stage) :
    let after := state.updateActiveSource graph stage
    Alert graph (some stage) after ∧ (stage ∈ graph.connections.stages →
      after.Settled graph stage ∨ after.packetsProduced = true) := by
  have signalling := alert.private
    (private_setDownstreamDemand stage (state.outputDemand graph ⟨stage, 0⟩))
  simp only [State.updateActiveSource]
  split
  next empty =>
    refine ⟨signalling, fun _ => .inl ?_⟩
    simp only [Settled, kind]
    exact .inl empty
  next packet packets queued =>
    split
    next negative =>
      refine ⟨signalling, fun _ => .inl ?_⟩
      simp only [Settled, kind]
      exact .inr negative
    next wanted =>
      refine ⟨?_, ?_⟩
      · have supplied := @Alert.supplyPacket graph _ ⟨stage, 0⟩ signalling packet wanted
        exact supplied.private (private_setPackets stage packets)
      · intro present
        by_cases more : packets = []
        · refine .inl ?_
          simp only [Settled, kind]
          exact .inl (by simp [State.setPackets, more])
        · obtain ⟨following, rest, rfl⟩ := List.exists_cons_of_ne_nil more
          have served : Served graph (state.setDownstreamDemand stage
              (state.outputDemand graph ⟨stage, 0⟩)) ⟨stage, 0⟩ packet :=
            serves packet following rest queued wanted
          obtain ⟨input, mates⟩ := output_mate present 0
            (by simp [kind, StageKind.outputCount])
          exact .inr (supplyPacket_served served mates).1

theorem Alert.supplyCached {stage : Nat} (alert : Alert graph (some stage) state) (outputs : Nat) :
    Alert graph (some stage) (state.supplyCached graph stage outputs) := by
  simp only [State.supplyCached]
  split
  next packet cached =>
    split
    next wanted =>
      have supplied := @Alert.supplyPacket graph state
        ⟨stage, (state.multistreamSource stage).cachedPacketOutputIndex⟩ alert packet wanted.2
      exact supplied.private (private_setMultistreamSource _ _ _)
    next => exact alert
  next => exact alert

theorem Alert.updateMultistreamSource {stage outputs : Nat} {pulled : List (Nat × Packet)}
    (alert : Alert graph (some stage) state)
    (updated : updateMultistreamSource graph stage outputs pulled state = some next) :
    Alert graph (some stage) next := by
  apply updateMultistreamSource_keeps (Alert graph (some stage)) _ _ alert updated
  · exact fun _ alert => alert.supplyCached outputs
  · exact fun _ _ _ _ alert => alert.private (private_setMultistreamSource _ _ _)

theorem Alert.updateActiveMultistreamSource {stage : Nat} (alert : Alert graph (some stage) state)
    (outputs : Nat) :
    Alert graph (some stage) (state.updateActiveMultistreamSource graph stage outputs) := by
  simp only [State.updateActiveMultistreamSource]
  split
  next outputIndex packet supplied =>
    have wanted := toSupply_demand supplied
    have after := @Alert.supplyPacket graph state ⟨stage, outputIndex⟩ alert packet wanted
    exact after.private (private_setActiveMultistreamSource _ _ _)
  next => exact alert.private (private_setActiveMultistreamSource _ _ _)

theorem Alert.transformPacket {stage : Nat} (alert : Alert graph (some stage) state)
    (answers : Answers) (wanted : state.outputDemand graph ⟨stage, 0⟩ ≠ .negative) :
    Alert graph (some stage) (state.transformPacket graph stage answers) := by
  have taken : Alert graph (some stage)
      (if answers.done then state.takePacket ⟨stage, 0⟩ else state) := by
    split
    · exact @Alert.takePacket graph state ⟨stage, 0⟩ alert
    · exact alert
  have called := taken.private (private_setInputPacketIsNew stage stage answers.done)
  simp only [State.transformPacket]
  split
  next output produced =>
    apply @Alert.supplyPacket graph _ ⟨stage, 0⟩ called output
    have free := mateHolds_of_demand wanted
    intro negative
    apply wanted
    rw [← negative]
    apply Eq.symm
    apply outputDemand_congr
    · split <;> rfl
    · split
      · exact (mateHolds_takePacket _ free).trans free.symm
      · rfl
  next => exact called

theorem transformPacket_done {stage : Nat} (answers : Answers)
    (kind : graph.connections.kind stage = .transform)
    (present : stage ∈ graph.connections.stages)
    (progress : answers.done = true ∨ answers.output.isSome) :
    (state.transformPacket graph stage answers).packetFromUpstream ⟨stage, 0⟩ = none ∨
      (state.transformPacket graph stage answers).outputDemand graph ⟨stage, 0⟩ = .negative := by
  simp only [State.transformPacket]
  split
  next output produced =>
    obtain ⟨input, mates⟩ := output_mate present 0
      (by simp [kind, StageKind.outputCount])
    refine .inr (outputDemand_of_held mates ?_)
    rw [(supplyPacket_served _ mates).2]
    · simp
    · intro allocatePayloadBuffer copies
      rw [graph.transforms ⟨stage, 0⟩ kind] at copies
      cases copies
  next absent =>
    have done : answers.done = true := by simpa [absent] using progress
    refine .inl ?_
    simp [done, setInputPacketIsNew, State.takePacket]

theorem setDemand_pushes {input : InputRef} {output : OutputRef} {demand : Demand} {busy : Option Nat}
    (alert : Alert graph busy state) (mates : graph.connections.inputMate input = some output)
    (changed : state.demand output ≠ demand) :
    output.stage ∈ (state.setDemand graph input demand).demandBacklog := by
  simp only [State.setDemand, mates, changed, if_false]
  rw [pushToDemandBacklog_eq]
  by_cases flagged : state.inDemandBacklog output.stage = true
  · simpa [setOutputDemand, flagged] using alert.demandFlag _ flagged
  · simp [setOutputDemand, flagged]

theorem settled_transform {stage : Nat} {output : OutputRef} (alert : Alert graph (some stage) state)
    (kind : graph.connections.kind stage = .transform)
    (mates : graph.connections.inputMate ⟨stage, 0⟩ = some output)
    (ready : state.packetFromUpstream ⟨stage, 0⟩ = none ∨
      state.outputDemand graph ⟨stage, 0⟩ = .negative) :
    let after := state.setDemand graph ⟨stage, 0⟩ (state.outputDemand graph ⟨stage, 0⟩)
    after.Settled graph stage ∨ stage ∈ after.demandBacklog := by
  intro after
  have signals : after.signalled graph ⟨stage, 0⟩ = state.outputDemand graph ⟨stage, 0⟩ :=
    signalled_setDemand _ mates
  have slots : after.packetFromUpstream = state.packetFromUpstream := setDemand_slots _ _
  by_cases self : output = ⟨stage, 0⟩
  · by_cases changed : state.demand output = state.outputDemand graph ⟨stage, 0⟩
    · have same : after = state := by
        simp only [after, State.setDemand, mates, changed, if_true]
      refine .inl ?_
      rw [same] at signals ⊢
      simp only [Settled, kind]
      exact ⟨ready, signals⟩
    · have pushed := setDemand_pushes alert mates changed
      rw [self] at pushed
      exact .inr pushed
  · have demand : after.outputDemand graph ⟨stage, 0⟩ = state.outputDemand graph ⟨stage, 0⟩ := by
      apply outputDemand_congr
      · simp only [after, setDemand_demand _ mates]
        exact Function.update_of_ne (Ne.symm self) _ _
      · exact mateHolds_congr slots _
    refine .inl ?_
    simp only [Settled, kind]
    rw [signals, demand, slots]
    exact ⟨ready, rfl⟩

theorem Alert.updateTransform {stage : Nat} {answers : Answers}
    (alert : Alert graph (some stage) state) (kind : graph.connections.kind stage = .transform)
    (progress : answers.done = true ∨ answers.output.isSome) :
    let after := state.updateTransform graph stage answers
    Alert graph (some stage) after ∧
      (∀ output input, graph.connections.outputMate output = some input → input.stage = stage →
        after.packetFromUpstream input ≠ none → after.demand output = .negative) ∧
      (stage ∈ graph.connections.stages →
        after.Settled graph stage ∨ stage ∈ after.demandBacklog) := by
  intro after
  obtain ⟨transformed, isTransformed, alertThen, ready⟩ : ∃ transformed,
      after = transformed.setDemand graph ⟨stage, 0⟩ (transformed.outputDemand graph ⟨stage, 0⟩) ∧
      Alert graph (some stage) transformed ∧ (stage ∈ graph.connections.stages →
        transformed.packetFromUpstream ⟨stage, 0⟩ = none ∨
          transformed.outputDemand graph ⟨stage, 0⟩ = .negative) := by
    refine ⟨_, rfl, ?_, ?_⟩
    · split
      next called => exact alert.transformPacket answers called.2
      next => exact alert
    · intro present
      split
      next => exact transformPacket_done answers kind present progress
      next notCalled =>
        by_cases held : state.packetFromUpstream ⟨stage, 0⟩ = none
        · exact .inl held
        · refine .inr ?_
          by_contra wanted
          exact notCalled ⟨Option.isSome_iff_ne_none.mpr held, wanted⟩
  rw [isTransformed]
  refine ⟨?_, ?_, ?_⟩
  · apply @Alert.setDemand graph transformed ⟨stage, 0⟩ alertThen
    rintro ⟨inputs, multistream⟩
    rw [kind] at multistream
    cases multistream
  · intro output input mates here held
    obtain ⟨present, less⟩ := input_of_mate mates
    rw [here, kind] at less
    obtain rfl : input = ⟨stage, 0⟩ := by
      obtain ⟨inputStage, index⟩ := input
      simp only [StageKind.inputCount, Nat.lt_one_iff] at less
      rw [← here, ← less]
    rw [setDemand_slots] at held
    rw [setDemand_demand _ ((graph.mated.symmetric _ _).mp mates), Function.update_self]
    exact (ready present).resolve_left held
  · intro present
    obtain ⟨output, mates⟩ := input_mate present 0 (by simp [kind, StageKind.inputCount])
    exact settled_transform alertThen kind mates (ready present)

theorem private_setSinkDemand {stage : Nat} {input : InputRef} (here : input.stage = stage)
    (demand : Demand)
    (allowed : Multistream graph input.stage →
      input.index ∈ state.pendingInputs input.stage ∨ demand = .negative) :
    Private graph stage state (state.setSinkDemand input demand) := by
  refine ⟨rfl, rfl, fun _ _ => rfl, ?_, ?_, rfl, rfl, rfl, rfl, rfl, rfl, rfl, rfl⟩
  · intro other elsewhere
    have different : other ≠ input := fun same => elsewhere (same ▸ here)
    simp [State.setSinkDemand, different]
  · intro other multistream absent sink
    by_cases same : other = input
    · subst same
      rcases allowed multistream with present | negative
      · exact absurd present absent
      · simp [State.setSinkDemand, negative]
    · simpa [State.setSinkDemand, same] using sink

theorem Alert.supplySink {input : InputRef} (alert : Alert graph (some input.stage) state)
    (answer : Demand)
    (allowed : Multistream graph input.stage → input.index ∈ state.pendingInputs input.stage) :
    Alert graph (some input.stage) (state.supplySink input answer) :=
  alert.takePacket.private
    (private_setSinkDemand rfl answer fun multistream => .inl (allowed multistream))

theorem Alert.updateActiveSink {stage : Nat} {answers : Answers}
    (alert : Alert graph (some stage) state) (kind : graph.connections.kind stage = .activeSink) :
    let after := state.updateActiveSink graph stage answers
    Alert graph (some stage) after ∧ after.packetFromUpstream ⟨stage, 0⟩ = none ∧
      (stage ∈ graph.connections.stages → after.Settled graph stage) := by
  intro after
  have single : ¬ Multistream graph stage := by
    rintro ⟨inputs, multistream⟩
    rw [kind] at multistream
    cases multistream
  obtain ⟨supplied, isSupplied, alertThen, empty⟩ : ∃ supplied,
      after = supplied.setDemand graph ⟨stage, 0⟩ (supplied.sinkDemand ⟨stage, 0⟩) ∧
      Alert graph (some stage) supplied ∧ supplied.packetFromUpstream ⟨stage, 0⟩ = none := by
    refine ⟨_, rfl, ?_, ?_⟩
    · split
      · exact @Alert.supplySink graph state ⟨stage, 0⟩ alert _ fun multistream =>
          absurd multistream single
      · exact alert
    · split
      · simp [State.supplySink, State.setSinkDemand, State.takePacket]
      next absent => simpa using absent
  rw [isSupplied]
  refine ⟨?_, ?_, ?_⟩
  · exact @Alert.setDemand graph supplied ⟨stage, 0⟩ alertThen _ fun multistream =>
      absurd multistream single
  · rw [setDemand_slots, empty]
  · intro present
    obtain ⟨output, mates⟩ := input_mate present 0 (by simp [kind, StageKind.inputCount])
    simp only [Settled, kind]
    rw [setDemand_slots, setDemand_sinks, signalled_setDemand _ mates]
    exact ⟨empty, rfl⟩

structure Handled (graph : PreparedGraph) (stage : Nat) (kept : List Nat) (state : State)
    (index : Nat) : Prop where
  slot : state.packetFromUpstream ⟨stage, index⟩ = none
  signal : (graph.connections.inputMate ⟨stage, index⟩).isSome →
    state.signalled graph ⟨stage, index⟩ = state.sinkDemand ⟨stage, index⟩
  pending : index ∈ kept ∨ state.sinkDemand ⟨stage, index⟩ = .negative

def handlePending (graph : PreparedGraph) (stage index : Nat) (answer : Demand) (state : State) :
    State :=
  if (state.packetFromUpstream ⟨stage, index⟩).isSome then
    (state.supplySink ⟨stage, index⟩ answer).setDemand graph ⟨stage, index⟩ answer
  else state.setDemand graph ⟨stage, index⟩ (state.sinkDemand ⟨stage, index⟩)

theorem setDemand_again (input : InputRef) (demand : Demand) :
    (state.setDemand graph input demand).setDemand graph input demand =
      state.setDemand graph input demand := by
  cases mates : graph.connections.inputMate input with
  | none => simp [State.setDemand, mates]
  | some output =>
    have set : (state.setDemand graph input demand).demand output = demand := by
      rw [setDemand_demand demand mates, Function.update_self]
    generalize state.setDemand graph input demand = after at set ⊢
    simp [State.setDemand, mates, set]

theorem updatePending_cons (stage : Nat) (answers : Answers) (index : Nat) (rest : List Nat)
    (count : Nat) (kept : List Nat) (state : State) :
    ∃ laterCount laterKept, (laterKept = kept ++ [index] ∨
        laterKept = kept ∧
          (handlePending graph stage index (answers.demands count) state).sinkDemand
            ⟨stage, index⟩ = .negative) ∧
      updatePending graph stage answers (index :: rest) count kept state =
        updatePending graph stage answers rest laterCount laterKept
          (handlePending graph stage index (answers.demands count) state) := by
  simp only [State.updatePending, handlePending]
  split
  next held =>
    split
    next negative =>
      refine ⟨_, _, .inr ⟨rfl, ?_⟩, rfl⟩
      rw [setDemand_sinks]
      simp [State.supplySink, State.setSinkDemand, negative]
    next =>
      rw [setDemand_again]
      exact ⟨_, _, .inl rfl, rfl⟩
  next => exact ⟨_, _, .inl rfl, rfl⟩

theorem Alert.handlePending {stage index : Nat} (alert : Alert graph (some stage) state)
    (answer : Demand) (pending : index ∈ state.pendingInputs stage) :
    let after := handlePending graph stage index answer state
    Alert graph (some stage) after ∧ after.pendingInputs = state.pendingInputs ∧
      after.packetFromUpstream ⟨stage, index⟩ = none ∧
      ((graph.connections.inputMate ⟨stage, index⟩).isSome →
        after.signalled graph ⟨stage, index⟩ = after.sinkDemand ⟨stage, index⟩) ∧
      ∀ other, other ≠ index →
        after.packetFromUpstream ⟨stage, other⟩ = state.packetFromUpstream ⟨stage, other⟩ ∧
        after.sinkDemand ⟨stage, other⟩ = state.sinkDemand ⟨stage, other⟩ ∧
        after.signalled graph ⟨stage, other⟩ = state.signalled graph ⟨stage, other⟩ := by
  simp only [State.handlePending]
  split
  next held =>
    have supplied := @Alert.supplySink graph state ⟨stage, index⟩ alert answer fun _ => pending
    refine ⟨@Alert.setDemand graph _ ⟨stage, index⟩ supplied _ fun _ => .inl pending, ?_, ?_, ?_, ?_⟩
    · rw [setDemand_pendingInputs]
      rfl
    · rw [setDemand_slots]
      simp [State.supplySink, State.setSinkDemand, State.takePacket]
    · intro connected
      obtain ⟨output, mates⟩ := Option.isSome_iff_exists.mp connected
      rw [signalled_setDemand _ mates, setDemand_sinks]
      simp [State.supplySink, State.setSinkDemand]
    · intro other different
      have elsewhere : (⟨stage, other⟩ : InputRef) ≠ ⟨stage, index⟩ := by simpa using different
      rw [setDemand_slots, setDemand_sinks, signalled_setDemand_other _ elsewhere]
      refine ⟨?_, ?_, rfl⟩
      · simp [State.supplySink, State.setSinkDemand, State.takePacket, different]
      · simp [State.supplySink, State.setSinkDemand, State.takePacket, different]
  next absent =>
    refine ⟨@Alert.setDemand graph state ⟨stage, index⟩ alert _ fun _ => .inl pending, ?_, ?_, ?_, ?_⟩
    · rw [setDemand_pendingInputs]
    · rw [setDemand_slots]
      simpa using absent
    · intro connected
      obtain ⟨output, mates⟩ := Option.isSome_iff_exists.mp connected
      rw [signalled_setDemand _ mates, setDemand_sinks]
    · intro other different
      have elsewhere : (⟨stage, other⟩ : InputRef) ≠ ⟨stage, index⟩ := by simpa using different
      rw [setDemand_slots, setDemand_sinks, signalled_setDemand_other _ elsewhere]
      exact ⟨rfl, rfl, rfl⟩

theorem Alert.updatePending {stage : Nat} (answers : Answers) (rest : List Nat) (count : Nat)
    (kept : List Nat) (alert : Alert graph (some stage) state)
    (pending : ∀ index ∈ rest, index ∈ state.pendingInputs stage) :
    let result := updatePending graph stage answers rest count kept state
    Alert graph (some stage) result.1 ∧ result.1.pendingInputs = state.pendingInputs ∧
      (∀ index ∈ kept, index ∈ result.2) ∧
      (∀ index ∈ rest, Handled graph stage result.2 result.1 index) ∧
      ∀ index ∉ rest,
        result.1.packetFromUpstream ⟨stage, index⟩ = state.packetFromUpstream ⟨stage, index⟩ ∧
        result.1.sinkDemand ⟨stage, index⟩ = state.sinkDemand ⟨stage, index⟩ ∧
        result.1.signalled graph ⟨stage, index⟩ = state.signalled graph ⟨stage, index⟩ := by
  induction rest generalizing count kept state with
  | nil => exact ⟨alert, rfl, fun _ member => member, nofun, fun _ _ => ⟨rfl, rfl, rfl⟩⟩
  | cons first rest ih =>
    obtain ⟨laterCount, laterKept, keeps, continues⟩ :=
      @updatePending_cons graph stage answers first rest count kept state
    obtain ⟨handled, sameInputs, slot, signal, others⟩ :=
      alert.handlePending (answers.demands count) (pending first (by simp))
    obtain ⟨done, sameLater, keptLater, handledLater, untouched⟩ :=
      ih laterCount laterKept handled fun index member => by
        rw [sameInputs]
        exact pending index (by simp [member])
    intro result
    simp only [result]
    rw [continues]
    refine ⟨done, sameLater.trans sameInputs, ?_, ?_, ?_⟩
    · intro index member
      apply keptLater
      rcases keeps with rfl | ⟨rfl, -⟩
      · simp [member]
      · exact member
    · intro index member
      by_cases again : index ∈ rest
      · exact handledLater index again
      · obtain rfl := (List.mem_cons.mp member).resolve_right again
        obtain ⟨slotLater, sinkLater, signalLater⟩ := untouched index again
        refine ⟨slotLater.trans slot, ?_, ?_⟩
        · intro connected
          rw [signalLater, sinkLater]
          exact signal connected
        · rcases keeps with rfl | ⟨rfl, negative⟩
          · exact .inl (keptLater index (by simp))
          · exact .inr (sinkLater.trans negative)
    · intro index absent
      obtain ⟨notFirst, notLater⟩ : index ≠ first ∧ index ∉ rest := by simpa using absent
      obtain ⟨slotLater, sinkLater, signalLater⟩ := untouched index notLater
      obtain ⟨slotHere, sinkHere, signalHere⟩ := others index notFirst
      exact ⟨slotLater.trans slotHere, sinkLater.trans sinkHere, signalLater.trans signalHere⟩

theorem Alert.setPendingInputs {stage : Nat} {kept : List Nat}
    (alert : Alert graph (some stage) state)
    (handled : ∀ index, index ∉ kept → Multistream graph stage →
      state.packetFromUpstream ⟨stage, index⟩ = none ∧
        state.sinkDemand ⟨stage, index⟩ = .negative ∧
        state.signalled graph ⟨stage, index⟩ = .negative) :
    Alert graph (some stage) (state.setPendingInputs stage kept) := by
  refine ⟨alert.supplyFlag, alert.demandFlag, alert.waiting, alert.held, ?_, ?_, alert.idle⟩
  · rintro ⟨inputStage, index⟩ multistream absent
    by_cases here : inputStage = stage
    · subst here
      exact handled index (by simpa [State.setPendingInputs] using absent) multistream
    · exact alert.pending ⟨inputStage, index⟩ multistream
        (by simpa [State.setPendingInputs, here] using absent)
  · intro other present notBusy
    rcases alert.settled other present notBusy with settled | listed
    · exact .inl (settled.of_view ⟨rfl, fun _ => rfl, fun _ => rfl, fun _ => rfl, fun _ => rfl⟩)
    · exact .inr listed

theorem Alert.updateActiveMultistreamSink {stage inputs : Nat} {answers : Answers}
    (alert : Alert graph (some stage) state)
    (kind : graph.connections.kind stage = .activeMultistreamSink inputs) :
    let after := state.updateActiveMultistreamSink graph stage answers
    Alert graph (some stage) after ∧
      (∀ index, after.packetFromUpstream ⟨stage, index⟩ = none) ∧
      (stage ∈ graph.connections.stages → after.Settled graph stage) := by
  have multistream : Multistream graph stage := ⟨inputs, kind⟩
  obtain ⟨done, sameInputs, -, handled, -⟩ :=
    alert.updatePending answers (state.pendingInputs stage) 0 [] fun _ member => member
  simp only [State.updateActiveMultistreamSink]
  generalize State.updatePending graph stage answers (state.pendingInputs stage) 0 [] state =
    result at done sameInputs handled
  -- An input that was not pending has no packet and negative demand.
  have rest (index : Nat) (absent : index ∉ state.pendingInputs stage) :
      result.1.packetFromUpstream ⟨stage, index⟩ = none ∧
        result.1.sinkDemand ⟨stage, index⟩ = .negative ∧
        result.1.signalled graph ⟨stage, index⟩ = .negative :=
    done.pending ⟨stage, index⟩ multistream (by rw [sameInputs]; exact absent)
  have empty (index : Nat) : result.1.packetFromUpstream ⟨stage, index⟩ = none := by
    by_cases pending : index ∈ state.pendingInputs stage
    · exact (handled index pending).slot
    · exact (rest index pending).1
  refine ⟨?_, empty, ?_⟩
  · apply done.setPendingInputs
    intro index dropped _
    by_cases pending : index ∈ state.pendingInputs stage
    · have negative := (handled index pending).pending.resolve_left dropped
      refine ⟨empty index, negative, ?_⟩
      cases mates : graph.connections.inputMate ⟨stage, index⟩ with
      | none => simp [signalled, mates]
      | some output => exact ((handled index pending).signal (by simp [mates])).trans negative
    · exact rest index pending
  · intro present
    simp only [Settled, kind]
    intro index less
    refine ⟨empty index, ?_⟩
    obtain ⟨output, mates⟩ :=
      input_mate present index (by simpa [kind, StageKind.inputCount] using less)
    by_cases pending : index ∈ state.pendingInputs stage
    · exact (handled index pending).signal (by simp [mates])
    · obtain ⟨-, sink, signal⟩ := rest index pending
      exact signal.trans sink.symm

-- The transform makes progress, and nothing is queued behind a packet that is lost.
def Orderly (graph : PreparedGraph) (state : State) (stage : Nat) (answers : Answers) : Prop :=
  (answers.done = true ∨ answers.output.isSome) ∧
    (graph.connections.kind stage = .activeSource → ServesQueue graph state stage)

theorem Alert.updateStage {stage : Nat} {answers : Answers}
    (alert : Alert graph (some stage) state.clearProduced)
    (orderly : Orderly graph state stage answers)
    (updated : state.updateStage graph stage answers = some next) : Alert graph none next := by
  simp only [State.updateStage, Option.bind_eq_bind, Option.bind_eq_some_iff,
    Option.some.injEq] at updated
  obtain ⟨after, done, rfl⟩ := updated
  simp only [State.update] at done
  split at done
  next kind =>
    obtain ⟨alertAfter, settled⟩ := alert.updateActiveSource kind (orderly.2 kind)
    rw [Option.some.inj done] at alertAfter settled
    apply alertAfter.finish
    · intro output input mates here
      exact absurd here fun here => own_of_source (by simp [kind, StageKind.inputCount]) output
        input mates here
    · intro present
      exact (settled present).imp_right .inr
  next outputs kind =>
    apply (alert.updateMultistreamSource done).finish
    · intro output input mates here
      exact absurd here fun here => own_of_source (by simp [kind, StageKind.inputCount]) output
        input mates here
    · intro _
      exact .inl (by simp [Settled, kind])
  next outputs kind =>
    rw [← Option.some.inj done]
    apply (alert.updateActiveMultistreamSource outputs).finish
    · intro output input mates here
      exact absurd here fun here => own_of_source (by simp [kind, StageKind.inputCount]) output
        input mates here
    · intro _
      exact .inl (by simp [Settled, kind])
  next kind =>
    obtain ⟨alertAfter, own, settled⟩ := alert.updateTransform kind orderly.1
    rw [Option.some.inj done] at alertAfter own settled
    apply alertAfter.finish
    · intro output input mates here held
      exact .inr (own output input mates here held)
    · intro present
      exact (settled present).imp_right .inl
  next kind =>
    obtain ⟨alertAfter, empty, settled⟩ := @Alert.updateActiveSink graph _ stage answers alert kind
    rw [Option.some.inj done] at alertAfter empty settled
    apply alertAfter.finish
    · intro output input mates here held
      obtain ⟨-, less⟩ := input_of_mate mates
      obtain ⟨inputStage, index⟩ := input
      obtain rfl : inputStage = stage := here
      simp only [kind, StageKind.inputCount, Nat.lt_one_iff] at less
      rw [less] at held
      exact absurd empty held
    · intro present
      exact .inl (settled present)
  next inputs kind =>
    obtain ⟨alertAfter, empty, settled⟩ :=
      @Alert.updateActiveMultistreamSink graph _ stage inputs answers alert kind
    rw [Option.some.inj done] at alertAfter empty settled
    apply alertAfter.finish
    · intro output input mates here held
      obtain ⟨inputStage, index⟩ := input
      obtain rfl : inputStage = stage := here
      exact absurd (empty index) held
    · intro present
      exact .inl (settled present)

structure Callback (graph : PreparedGraph) (stage : Nat) (state next : State) : Prop where
  demand : next.demand = state.demand
  slots : next.packetFromUpstream = state.packetFromUpstream
  packets : ∀ other, other ≠ stage → next.packets other = state.packets other
  sinks : ∀ input, input.stage ≠ stage → next.sinkDemand input = state.sinkDemand input
  pending : ∀ input, Multistream graph input.stage →
    input.index ∉ next.pendingInputs input.stage →
      input.index ∉ state.pendingInputs input.stage ∧
        next.sinkDemand input = state.sinkDemand input
  supplyBacklog : next.supplyBacklog = state.supplyBacklog
  demandBacklog : next.demandBacklog = state.demandBacklog
  inSupplyBacklog : next.inSupplyBacklog = state.inSupplyBacklog
  inDemandBacklog : next.inDemandBacklog = state.inDemandBacklog
  locked : next.locked = state.locked
  requests : ∀ other ∈ state.requests, other ∈ next.requests
  asks : (state.Settled graph stage → next.Settled graph stage) ∨ stage ∈ next.requests

theorem Alert.callback {stage : Nat} (alert : Alert graph none state)
    (called : Callback graph stage state next) : Alert graph none next where
  supplyFlag := by
    rw [called.inSupplyBacklog, called.supplyBacklog]
    exact alert.supplyFlag
  demandFlag := by
    rw [called.inDemandBacklog, called.demandBacklog]
    exact alert.demandFlag
  waiting := by
    rw [called.slots, called.demand, called.demandBacklog]
    intro output input mates held wanted
    rcases alert.waiting output input mates held wanted with listed | ⟨busy, -⟩
    · exact .inl listed
    · cases busy
  held := by
    rw [called.slots, called.demand, called.supplyBacklog]
    exact alert.held
  pending := by
    intro input multistream absent
    obtain ⟨before, sink⟩ := called.pending input multistream absent
    rw [called.slots, sink, signalled_congr called.demand]
    exact alert.pending input multistream before
  settled := by
    intro other present notBusy
    rw [called.supplyBacklog, called.demandBacklog]
    rcases alert.settled other present notBusy with settled | listed | listed | listed
    · by_cases here : other = stage
      · subst here
        rcases called.asks with kept | asked
        · exact .inl (kept settled)
        · exact .inr (.inr (.inr asked))
      · refine .inl (settled.of_view ⟨called.packets other here, ?_, ?_, ?_, ?_⟩)
        · exact fun index => outputDemand_congr (by rw [called.demand])
            (mateHolds_congr called.slots _)
        · exact fun index => by rw [called.slots]
        · exact fun index => signalled_congr called.demand _
        · exact fun index => called.sinks _ here
    · exact .inr (.inl listed)
    · exact .inr (.inr (.inl listed))
    · exact .inr (.inr (.inr (called.requests other listed)))
  idle := by
    rw [called.locked, called.supplyBacklog, called.demandBacklog]
    exact alert.idle

theorem callback_supply {stage : Nat} (packet : Packet)
    (kind : graph.connections.kind stage = .activeSource) :
    Callback graph stage state (state.supply stage packet) := by
  have packets (other : Nat) (different : other ≠ stage) :
      (state.setPackets stage (state.packets stage ++ [packet])).packets other =
        state.packets other := by
    simp [State.setPackets, different]
  simp only [State.supply]
  split
  next empty =>
    exact ⟨rfl, rfl, packets, fun _ _ => rfl, fun _ _ absent => ⟨absent, rfl⟩, rfl, rfl, rfl, rfl,
      rfl, fun other listed => List.mem_append_left _ listed, .inr (by simp [request])⟩
  next queued =>
    refine ⟨rfl, rfl, packets, fun _ _ => rfl, fun _ _ absent => ⟨absent, rfl⟩, rfl, rfl, rfl, rfl,
      rfl, fun _ listed => listed, .inl ?_⟩
    intro settled
    simp only [Settled, kind] at settled ⊢
    exact .inr (settled.resolve_left queued)

theorem callback_answer {stage outputs : Nat} (outputIndex : Nat) (packet : Packet)
    (kind : graph.connections.kind stage = .activeMultistreamSource outputs) :
    Callback graph stage state (state.answer graph stage outputIndex packet) := by
  simp only [State.answer]
  split
  · exact ⟨rfl, rfl, fun _ _ => rfl, fun _ _ => rfl, fun _ _ absent => ⟨absent, rfl⟩, rfl, rfl,
      rfl, rfl, rfl, fun other listed => List.mem_append_left _ listed, .inr (by simp [request])⟩
  · exact ⟨rfl, rfl, fun _ _ => rfl, fun _ _ => rfl, fun _ _ absent => ⟨absent, rfl⟩, rfl, rfl,
      rfl, rfl, rfl, fun _ listed => listed, .inl fun _ => by simp [Settled, kind]⟩

theorem setSinkDemand_other {input other : InputRef} (demand : Demand) (different : other ≠ input) :
    (state.setSinkDemand input demand).sinkDemand other = state.sinkDemand other := by
  simp [State.setSinkDemand, different]

theorem callback_changeDemand {stage : Nat} (demand : Demand)
    (kind : graph.connections.kind stage = .activeSink) :
    Callback graph stage state (state.changeDemand stage demand) := by
  have elsewhere (input : InputRef) (different : input.stage ≠ stage) :
      (state.setSinkDemand ⟨stage, 0⟩ demand).sinkDemand input = state.sinkDemand input :=
    setSinkDemand_other demand fun same => different (same ▸ rfl)
  simp only [State.changeDemand]
  split
  · exact ⟨rfl, rfl, fun _ _ => rfl, fun _ _ => rfl, fun _ _ absent => ⟨absent, rfl⟩, rfl, rfl,
      rfl, rfl, rfl, fun _ listed => listed, .inl id⟩
  · refine ⟨rfl, rfl, fun _ _ => rfl, elsewhere, ?_, rfl, rfl, rfl, rfl, rfl,
      fun other listed => List.mem_append_left _ listed, .inr (by simp [request])⟩
    rintro input ⟨inputs, multistream⟩ absent
    refine ⟨absent, elsewhere input ?_⟩
    rintro rfl
    rw [kind] at multistream
    cases multistream

theorem callback_updateDemand {stage : Nat} (index : Nat) (demand : Demand) :
    Callback graph stage state (state.updateDemand stage index demand) := by
  have elsewhere (input : InputRef) (different : input ≠ ⟨stage, index⟩) :
      (state.updateDemand stage index demand).sinkDemand input = state.sinkDemand input :=
    setSinkDemand_other demand different
  refine ⟨rfl, rfl, fun _ _ => rfl, ?_, ?_, rfl, rfl, rfl, rfl, rfl,
    fun other listed => List.mem_append_left _ listed, .inr (by simp [State.updateDemand, request])⟩
  · intro input different
    exact elsewhere input fun same => different (same ▸ rfl)
  · rintro ⟨inputStage, inputIndex⟩ multistream absent
    simp only [State.updateDemand, State.setPendingInputs, State.setSinkDemand, request] at absent
    by_cases here : inputStage = stage
    · subst here
      rw [Function.update_self] at absent
      simp only [List.mem_append, List.mem_singleton, not_or] at absent
      exact ⟨absent.1, elsewhere _ (by simpa using absent.2)⟩
    · rw [Function.update_of_ne here] at absent
      exact ⟨absent, elsewhere _ (by simp [here])⟩

end State

def updated (state : State) : Event → Option Nat
  | .requestUpdate position _ => state.requests[position]?
  | .update _ => (state.supplyBacklog ++ state.demandBacklog).head?
  | _ => none

def Progress : Event → Prop
  | .requestUpdate _ answers | .update answers => answers.done = true ∨ answers.output.isSome
  | _ => True

def Orderly (graph : PreparedGraph) (state : State) (event : Event) : Prop :=
  Progress event ∧ ∀ stage ∈ updated state event, graph.connections.kind stage = .activeSource →
    State.ServesQueue graph state stage

theorem alert_step {graph : PreparedGraph} {state next : State} {event : Event}
    (alert : State.Alert graph none state) (orderly : Orderly graph state event)
    (taken : step graph state event = some next) : State.Alert graph none next := by
  cases event with
  | supply stage packet =>
    simp only [step, Option.ite_none_right_eq_some, Option.some.injEq] at taken
    obtain ⟨kind, rfl⟩ := taken
    exact alert.callback (State.callback_supply packet kind)
  | answer stage outputIndex packet =>
    simp only [step] at taken
    split at taken
    next outputs kind =>
      simp only [Option.ite_none_right_eq_some, Option.some.injEq] at taken
      obtain ⟨-, rfl⟩ := taken
      exact alert.callback (State.callback_answer outputIndex packet kind)
    next => cases taken
  | demand stage demand =>
    simp only [step, Option.ite_none_right_eq_some, Option.some.injEq] at taken
    obtain ⟨kind, rfl⟩ := taken
    exact alert.callback (State.callback_changeDemand demand kind)
  | updateDemand stage index demand =>
    simp only [step] at taken
    split at taken
    next inputs kind =>
      simp only [Option.ite_none_right_eq_some, Option.some.injEq] at taken
      obtain ⟨-, rfl⟩ := taken
      exact alert.callback (State.callback_updateDemand index demand)
    next => cases taken
  | requestUpdate position answers =>
    simp only [step, Option.ite_none_left_eq_some, Option.bind_eq_bind,
      Option.bind_eq_some_iff] at taken
    obtain ⟨-, stage, requested, done⟩ := taken
    exact (alert.enter requested).updateStage ⟨orderly.1, orderly.2 stage requested⟩ done
  | update answers =>
    simp only [step, Option.ite_none_right_eq_some] at taken
    obtain ⟨-, taken⟩ := taken
    simp only [State.updateNext] at taken
    split at taken
    next stage rest first =>
      have isNext : stage ∈ updated state (.update answers) := by simp [updated, first]
      exact (alert.popSupplyBacklog first).updateStage ⟨orderly.1, orderly.2 stage isNext⟩ taken
    next stage rest empty first =>
      have isNext : stage ∈ updated state (.update answers) := by simp [updated, empty, first]
      exact (alert.popDemandBacklog empty first).updateStage ⟨orderly.1, orderly.2 stage isNext⟩
        taken
    next empty nothing =>
      rw [← Option.some.inj taken]
      exact ⟨alert.supplyFlag, alert.demandFlag, alert.waiting, alert.held, alert.pending,
        fun stage present notBusy => alert.settled stage present notBusy,
        fun _ => ⟨rfl, empty, nothing⟩⟩

-- No stage has enabled work, apart from stages whose own `RequestUpdate` still waits.
structure Quiescent (graph : PreparedGraph) (state : State) : Prop where
  backlogs : state.supplyBacklog = [] ∧ state.demandBacklog = []
  sources : ∀ stage ∈ graph.connections.stages, stage ∉ state.requests →
    graph.connections.kind stage = .activeSource →
      ¬ (state.packets stage ≠ [] ∧ state.outputDemand graph ⟨stage, 0⟩ ≠ .negative)
  transforms : ∀ stage ∈ graph.connections.stages, stage ∉ state.requests →
    graph.connections.kind stage = .transform →
      ¬ (state.packetFromUpstream ⟨stage, 0⟩ ≠ none ∧
        state.outputDemand graph ⟨stage, 0⟩ ≠ .negative) ∧
      state.signalled graph ⟨stage, 0⟩ = state.outputDemand graph ⟨stage, 0⟩
  sinks : ∀ stage ∈ graph.connections.stages, stage ∉ state.requests →
    graph.connections.kind stage = .activeSink →
      state.packetFromUpstream ⟨stage, 0⟩ = none ∧
      state.signalled graph ⟨stage, 0⟩ = state.sinkDemand ⟨stage, 0⟩
  multistreamSinks : ∀ stage ∈ graph.connections.stages, stage ∉ state.requests →
    ∀ inputs, graph.connections.kind stage = .activeMultistreamSink inputs → ∀ index < inputs,
      state.packetFromUpstream ⟨stage, index⟩ = none ∧
      state.signalled graph ⟨stage, index⟩ = state.sinkDemand ⟨stage, index⟩

-- Whenever `RequestUpdate` has returned in an orderly run, the backlogs are empty and no stage
-- has work left.
theorem quiescent_when_unlocked (graph : PreparedGraph) (events : List Event) (state : State)
    (orderly : Runs.Meets (step graph) (Orderly graph) { } events)
    (reached : Runs.run (step graph) { } events = some state) (returned : state.locked = false) :
    Quiescent graph state := by
  have alert : State.Alert graph none state := by
    apply Runs.invariant_of_step (step graph) (Orderly graph) (State.Alert graph none) _ { } state
      events (State.alert_start graph) orderly reached
    intro before event after alert orderly taken
    exact alert_step alert orderly taken
  obtain ⟨-, noSupply, noDemand⟩ := alert.idle returned
  have settled (stage : Nat) (present : stage ∈ graph.connections.stages)
      (quiet : stage ∉ state.requests) : state.Settled graph stage := by
    rcases alert.settled stage present (by simp) with settled | listed | listed | listed
    · exact settled
    · simp [noSupply] at listed
    · simp [noDemand] at listed
    · exact absurd listed quiet
  refine ⟨⟨noSupply, noDemand⟩, ?_, ?_, ?_, ?_⟩
  · intro stage present quiet kind
    have done := settled stage present quiet
    simp only [State.Settled, kind] at done
    tauto
  · intro stage present quiet kind
    have done := settled stage present quiet
    simp only [State.Settled, kind] at done
    exact ⟨by tauto, done.2⟩
  · intro stage present quiet kind
    have done := settled stage present quiet
    simpa only [State.Settled, kind] using done
  · intro stage present quiet inputs kind
    have done := settled stage present quiet
    simpa only [State.Settled, kind] using done

def twoDeliveries : List Event :=
  [ .supply 0 onePacket, .requestUpdate 0 { }, .update { }, .supply 0 onePacket,
    .demand 2 .positive, .requestUpdate 0 { }, .update { }, .update { }, .update
      { output := some onePacket }, .update { demands := fun _ => .positive }, .update { },
    .update { }, .update { output := some onePacket }, .update { demands := fun _ => .positive },
    .update { }, .update { }, .update { } ]

theorem two_deliveries_quiescent :
    ∃ state, Runs.run (step chainGraph) { } twoDeliveries = some state ∧ state.packets 0 = [] ∧
      Quiescent chainGraph state := by
  have outcome : (Runs.run (step chainGraph) { } twoDeliveries).any (fun state =>
      state.packets 0 = [] ∧ state.locked = false) = true := by
    decide +kernel
  obtain ⟨state, reached, found⟩ := (Option.any_eq_true _ _).mp outcome
  obtain ⟨empty, returned⟩ : state.packets 0 = [] ∧ state.locked = false := by simpa using found
  refine ⟨state, reached, empty, quiescent_when_unlocked chainGraph twoDeliveries state ?_ reached
    returned⟩
  apply Runs.meets_of_forall
  intro before event member
  constructor
  · simp only [twoDeliveries, List.mem_cons, List.not_mem_nil, or_false] at member
    rcases member with rfl | rfl | rfl | rfl | rfl | rfl | rfl | rfl | rfl | rfl | rfl | rfl | rfl |
      rfl | rfl | rfl | rfl <;> simp [Progress]
  · intro stage _ _ packet following rest _ _ allocatePayloadBuffer copies
    cases copies

def starvedGraph : PreparedGraph where
  connections := Connections.sourceToSink
  mated := Connections.sourceToSink_mated
  connected := Connections.sourceToSink_connected
  copyAllocator output := if output = ⟨0, 0⟩ then some fun count => count ≠ 0 else none
  transforms output kind := by
    rw [if_neg]
    rintro rfl
    cases kind
  inputs output input mates kind := by
    obtain ⟨rfl, rfl⟩ := Connections.sourceToSink_outputMate mates
    cases kind

def forgotten : List Event :=
  [ .supply 0 onePacket, .requestUpdate 0 { }, .update { }, .supply 0 onePacket,
    .demand 1 .positive, .requestUpdate 0 { }, .update { }, .update { } ]

theorem starved_source_forgotten :
    (∀ input, starvedGraph.connections.ValidInput input →
      starvedGraph.connections.prepared input = true) ∧
    (∀ event ∈ forgotten, Progress event) ∧
    ∃ state, Runs.run (step starvedGraph) { } forgotten = some state ∧ state.locked = false ∧
      state.requests = [] ∧ state.packets 0 = [onePacket] ∧
      state.outputDemand starvedGraph ⟨0, 0⟩ = .positive ∧ ¬ Quiescent starvedGraph state := by
  refine ⟨fun _ _ => rfl, ?_, ?_⟩
  · intro event member
    simp only [forgotten, List.mem_cons, List.not_mem_nil, or_false] at member
    rcases member with rfl | rfl | rfl | rfl | rfl | rfl | rfl | rfl <;> simp [Progress]
  · have outcome : (Runs.run (step starvedGraph) { } forgotten).any (fun state =>
        state.locked = false ∧ state.requests = [] ∧ state.packets 0 = [onePacket] ∧
          state.outputDemand starvedGraph ⟨0, 0⟩ = .positive) = true := by
      decide +kernel
    obtain ⟨state, reached, found⟩ := (Option.any_eq_true _ _).mp outcome
    obtain ⟨returned, requests, queued, wanted⟩ : state.locked = false ∧ state.requests = [] ∧
        state.packets 0 = [onePacket] ∧ state.outputDemand starvedGraph ⟨0, 0⟩ = .positive := by
      simpa using found
    refine ⟨state, reached, returned, requests, queued, wanted, ?_⟩
    intro quiescent
    apply quiescent.sources 0 (by decide) (by simp [requests]) rfl
    exact ⟨by simp [queued], by simp [wanted]⟩

end MojoMedia.Framework.Engine
