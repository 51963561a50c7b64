import MojoMedia.Framework.SlotSafety

set_option autoImplicit false

namespace MojoMedia.Framework.Engine

namespace State

variable {graph : PreparedGraph} {state next : State}

def signalled (graph : PreparedGraph) (state : State) (input : InputRef) : Demand :=
  match graph.connections.inputMate input with
  | some output => state.demand output
  | none => .negative

def Settled (graph : PreparedGraph) (state : State) (stage : Nat) : Prop :=
  match graph.connections.kind stage with
  | .activeSource =>
    state.packets stage = [] ∨ state.outputDemand graph ⟨stage, 0⟩ = .negative
  | .transform =>
    (state.packetFromUpstream ⟨stage, 0⟩ = none ∨
      state.outputDemand graph ⟨stage, 0⟩ = .negative) ∧
      state.signalled graph ⟨stage, 0⟩ = state.outputDemand graph ⟨stage, 0⟩
  | .activeSink =>
    state.packetFromUpstream ⟨stage, 0⟩ = none ∧
      state.signalled graph ⟨stage, 0⟩ = state.sinkDemand ⟨stage, 0⟩
  | .activeMultistreamSink inputs => ∀ index < inputs,
    state.packetFromUpstream ⟨stage, index⟩ = none ∧
      state.signalled graph ⟨stage, index⟩ = state.sinkDemand ⟨stage, index⟩
  | .multistreamSource _ | .activeMultistreamSource _ => True

structure SameView (graph : PreparedGraph) (stage : Nat) (state next : State) : Prop where
  packets : next.packets stage = state.packets stage
  outputs : ∀ index, next.outputDemand graph ⟨stage, index⟩ =
    state.outputDemand graph ⟨stage, index⟩
  inputs : ∀ index, next.packetFromUpstream ⟨stage, index⟩ =
    state.packetFromUpstream ⟨stage, index⟩
  signals : ∀ index, next.signalled graph ⟨stage, index⟩ = state.signalled graph ⟨stage, index⟩
  sinks : ∀ index, next.sinkDemand ⟨stage, index⟩ = state.sinkDemand ⟨stage, index⟩

theorem Settled.of_view {stage : Nat} (settled : state.Settled graph stage)
    (same : SameView graph stage state next) : next.Settled graph stage := by
  simp only [Settled, same.packets, same.outputs, same.inputs, same.signals, same.sinks]
  exact settled

def Multistream (graph : PreparedGraph) (stage : Nat) : Prop :=
  ∃ inputs, graph.connections.kind stage = .activeMultistreamSink inputs

structure Alert (graph : PreparedGraph) (busy : Option Nat) (state : State) : Prop where
  supplyFlag : ∀ stage, state.inSupplyBacklog stage = true → stage ∈ state.supplyBacklog
  demandFlag : ∀ stage, state.inDemandBacklog stage = true → stage ∈ state.demandBacklog
  -- A stage that has supplied a packet looks at its output again later.
  waiting : ∀ output input, graph.connections.outputMate output = some input →
    state.packetFromUpstream input ≠ none → state.demand output ≠ .negative →
      output.stage ∈ state.demandBacklog ∨
        busy = some output.stage ∧ state.packetsProduced = true
  -- A stage that keeps a packet has signalled negative demand.
  held : ∀ output input, graph.connections.outputMate output = some input →
    state.packetFromUpstream input ≠ none → busy ≠ some input.stage →
      input.stage ∈ state.supplyBacklog ∨ state.demand output = .negative
  pending : ∀ input, Multistream graph input.stage →
    input.index ∉ state.pendingInputs input.stage →
      state.packetFromUpstream input = none ∧ state.sinkDemand input = .negative ∧
        state.signalled graph input = .negative
  settled : ∀ stage ∈ graph.connections.stages, busy ≠ some stage →
    state.Settled graph stage ∨ stage ∈ state.supplyBacklog ∨ stage ∈ state.demandBacklog ∨
      stage ∈ state.requests
  idle : state.locked = false →
    busy = none ∧ state.supplyBacklog = [] ∧ state.demandBacklog = []

theorem alert_start (graph : PreparedGraph) : Alert graph none { } := by
  have signals (input : InputRef) : ({ } : State).signalled graph input = .negative := by
    simp only [signalled]
    split <;> rfl
  refine ⟨by simp, by simp, by simp, by simp, ?_, ?_, ?_⟩
  · intro input _ _
    exact ⟨rfl, rfl, signals input⟩
  · intro stage _ _
    refine .inl ?_
    unfold Settled
    split
    · exact .inl rfl
    · refine ⟨.inl rfl, ?_⟩
      rw [signals]
      rfl
    · exact ⟨rfl, signals _⟩
    · intro index _
      exact ⟨rfl, signals _⟩
    · trivial
    · trivial
  · intro _
    exact ⟨rfl, rfl, rfl⟩

structure Private (graph : PreparedGraph) (stage : Nat) (state next : State) : Prop where
  demand : next.demand = state.demand
  slots : next.packetFromUpstream = state.packetFromUpstream
  packets : ∀ other, other ≠ stage → next.packets other = state.packets other
  sinks : ∀ input, input.stage ≠ stage → next.sinkDemand input = state.sinkDemand input
  unpending : ∀ input, Multistream graph input.stage →
    input.index ∉ state.pendingInputs input.stage →
    state.sinkDemand input = .negative → next.sinkDemand input = .negative
  pendingInputs : next.pendingInputs = state.pendingInputs
  supplyBacklog : next.supplyBacklog = state.supplyBacklog
  demandBacklog : next.demandBacklog = state.demandBacklog
  inSupplyBacklog : next.inSupplyBacklog = state.inSupplyBacklog
  inDemandBacklog : next.inDemandBacklog = state.inDemandBacklog
  packetsProduced : next.packetsProduced = state.packetsProduced
  requests : next.requests = state.requests
  locked : next.locked = state.locked

theorem outputDemand_congr {output : OutputRef} (demand : next.demand output = state.demand output)
    (holds : next.mateHolds graph output = state.mateHolds graph output) :
    next.outputDemand graph output = state.outputDemand graph output := by
  simp [outputDemand, demand, holds]

theorem mateHolds_congr (slots : next.packetFromUpstream = state.packetFromUpstream)
    (output : OutputRef) : next.mateHolds graph output = state.mateHolds graph output := by
  simp only [mateHolds, slots]

theorem signalled_congr (demand : next.demand = state.demand) (input : InputRef) :
    next.signalled graph input = state.signalled graph input := by
  simp only [signalled, demand]

theorem Alert.private {stage : Nat} (alert : Alert graph (some stage) state)
    (same : Private graph stage state next) : Alert graph (some stage) next where
  supplyFlag := by
    rw [same.inSupplyBacklog, same.supplyBacklog]
    exact alert.supplyFlag
  demandFlag := by
    rw [same.inDemandBacklog, same.demandBacklog]
    exact alert.demandFlag
  waiting := by
    rw [same.slots, same.demand, same.demandBacklog, same.packetsProduced]
    exact alert.waiting
  held := by
    rw [same.slots, same.demand, same.supplyBacklog]
    exact alert.held
  pending := by
    intro input multistream absent
    rw [same.pendingInputs] at absent
    obtain ⟨slot, sink, signal⟩ := alert.pending input multistream absent
    rw [same.slots, signalled_congr same.demand]
    exact ⟨slot, same.unpending input multistream absent sink, signal⟩
  settled := by
    intro other present notBusy
    rw [same.supplyBacklog, same.demandBacklog, same.requests]
    rcases alert.settled other present notBusy with settled | listed
    · have different : other ≠ stage := fun here => notBusy (here ▸ rfl)
      refine .inl (settled.of_view ⟨same.packets other different, ?_, ?_, ?_, ?_⟩)
      · exact fun index => outputDemand_congr (by rw [same.demand]) (mateHolds_congr same.slots _)
      · exact fun index => by rw [same.slots]
      · exact fun index => signalled_congr same.demand _
      · exact fun index => same.sinks _ different
    · exact .inr listed
  idle := by
    rw [same.locked, same.supplyBacklog, same.demandBacklog]
    exact alert.idle

theorem pushToDemandBacklog_eq (state : State) (stage : Nat) :
    state.pushToDemandBacklog stage = { state with
      demandBacklog :=
        if state.inDemandBacklog stage then state.demandBacklog else stage :: state.demandBacklog
      inDemandBacklog := Function.update state.inDemandBacklog stage true } := by
  simp only [pushToDemandBacklog]
  split
  next flagged =>
    rw [Function.update_eq_self_iff.mpr flagged.symm]
  next => rfl

theorem pushToSupplyBacklog_eq (state : State) (stage : Nat) :
    state.pushToSupplyBacklog stage = { state with
      packetsProduced := true
      supplyBacklog :=
        if state.inSupplyBacklog stage then state.supplyBacklog else state.supplyBacklog ++ [stage]
      inSupplyBacklog := Function.update state.inSupplyBacklog stage true } := by
  simp only [pushToSupplyBacklog]
  split
  next flagged =>
    rw [Function.update_eq_self_iff.mpr flagged.symm]
  next => rfl

structure Pushed (flag : Nat → Bool) (stage : Nat) (backlog pushed : List Nat) : Prop where
  grows : ∀ other ∈ backlog, other ∈ pushed
  member : stage ∈ pushed
  flagged : ∀ other, Function.update flag stage true other = true → other ∈ pushed

theorem pushed_of_flag {flag : Nat → Bool} {backlog longer : List Nat}
    (flagged : ∀ stage, flag stage = true → stage ∈ backlog) (stage : Nat)
    (grows : ∀ other ∈ backlog, other ∈ longer) (member : stage ∈ longer) :
    Pushed flag stage backlog (if flag stage then backlog else longer) := by
  have growsIf (other : Nat) (listed : other ∈ backlog) :
      other ∈ if flag stage then backlog else longer := by
    split
    · exact listed
    · exact grows other listed
  have memberIf : stage ∈ if flag stage then backlog else longer := by
    split
    next already => exact flagged stage already
    next => exact member
  refine ⟨growsIf, memberIf, ?_⟩
  intro other isSet
  by_cases same : other = stage
  · exact same ▸ memberIf
  · exact growsIf other (flagged other (by simpa [same] using isSet))

theorem outputDemand_of_negative {output : OutputRef} (negative : state.demand output = .negative) :
    state.outputDemand graph output = .negative := by
  simp [outputDemand, negative]

theorem outputDemand_of_held {output : OutputRef} {input : InputRef}
    (mates : graph.connections.outputMate output = some input)
    (held : state.packetFromUpstream input ≠ none) :
    state.outputDemand graph output = .negative := by
  have holds : state.mateHolds graph output = true := by
    simp only [mateHolds, mates]
    exact Option.isSome_iff_ne_none.mpr held
  simp [outputDemand, holds]

theorem Alert.takePacket {input : InputRef} (alert : Alert graph (some input.stage) state) :
    Alert graph (some input.stage) (state.takePacket input) where
  supplyFlag := alert.supplyFlag
  demandFlag := alert.demandFlag
  waiting := by
    intro output other mates held
    by_cases same : other = input
    · simp [State.takePacket, same] at held
    · exact alert.waiting output other mates (by simpa [State.takePacket, same] using held)
  held := by
    intro output other mates held
    by_cases same : other = input
    · simp [State.takePacket, same] at held
    · exact alert.held output other mates (by simpa [State.takePacket, same] using held)
  pending := by
    intro other multistream absent
    obtain ⟨slot, sink, signal⟩ := alert.pending other multistream absent
    refine ⟨?_, sink, signal⟩
    by_cases same : other = input
    · simp [State.takePacket, same]
    · simpa [State.takePacket, same] using slot
  settled := by
    intro stage present notBusy
    rcases alert.settled stage present notBusy with settled | listed
    · by_cases woken : stage ∈ state.demandBacklog
      · exact .inr (.inr (.inl woken))
      · refine .inl (settled.of_view ⟨rfl, ?_, ?_, fun _ => rfl, fun _ => rfl⟩)
        · intro index
          cases mates : graph.connections.outputMate ⟨stage, index⟩ with
          | none => simp [outputDemand, mateHolds, mates, State.takePacket]
          | some other =>
            by_cases same : other = input
            · -- The upstream stage would be on the backlog if this made a difference.
              subst same
              by_cases free : state.packetFromUpstream other = none
              · simp [outputDemand, mateHolds, mates, State.takePacket, free]
              · by_cases negative : state.demand ⟨stage, index⟩ = .negative
                · rw [outputDemand_of_negative negative, outputDemand_of_negative]
                  exact negative
                · rcases alert.waiting _ _ mates free negative with listed | ⟨busy, -⟩
                  · exact absurd listed woken
                  · exact absurd busy notBusy
            · simp [outputDemand, mateHolds, mates, State.takePacket, same]
        · intro index
          have other : (⟨stage, index⟩ : InputRef) ≠ input := by
            rintro rfl
            exact notBusy rfl
          simp [State.takePacket, other]
    · exact .inr listed
  idle := alert.idle

theorem Alert.deliver {output : OutputRef} (alert : Alert graph (some output.stage) state)
    (packet : Packet) (wanted : state.demand output ≠ .negative) :
    Alert graph (some output.stage) (state.deliver graph output packet) := by
  simp only [State.deliver]
  split
  next input mates =>
    rw [pushToSupplyBacklog_eq]
    have pushed := pushed_of_flag alert.supplyFlag input.stage
      (fun _ listed => List.mem_append_left [input.stage] listed)
      (List.mem_append_right _ (List.mem_singleton_self _))
    refine ⟨pushed.flagged, alert.demandFlag, ?_, ?_, ?_, ?_, ?_⟩
    · intro other otherInput otherMates held demand
      by_cases same : otherInput = input
      · have isOutput := graph.mated.output_unique mates (same ▸ otherMates)
        exact .inr ⟨by rw [isOutput], rfl⟩
      · have before : state.packetFromUpstream otherInput ≠ none := by
          simpa [supplyPacketFromOutput, same] using held
        rcases alert.waiting other otherInput otherMates before demand with listed | ⟨busy, -⟩
        · exact .inl listed
        · exact .inr ⟨busy, rfl⟩
    · intro other otherInput otherMates held notBusy
      by_cases same : otherInput = input
      · exact .inl (same ▸ pushed.member)
      · have before : state.packetFromUpstream otherInput ≠ none := by
          simpa [supplyPacketFromOutput, same] using held
        rcases alert.held other otherInput otherMates before notBusy with listed | negative
        · exact .inl (pushed.grows _ listed)
        · exact .inr negative
    · intro other multistream absent
      obtain ⟨slot, sink, signal⟩ := alert.pending other multistream absent
      refine ⟨?_, sink, signal⟩
      by_cases same : other = input
      · -- Only a pending input has asked for a packet.
        subst same
        have back := (graph.mated.symmetric output other).mp mates
        simp only [signalled, back] at signal
        exact absurd signal wanted
      · simpa [supplyPacketFromOutput, same] using slot
    · intro stage present notBusy
      rcases alert.settled stage present notBusy with settled | listed | listed
      · by_cases here : stage = input.stage
        · exact .inr (.inl (here ▸ pushed.member))
        · refine .inl (settled.of_view ⟨rfl, ?_, ?_, fun _ => rfl, fun _ => rfl⟩)
          · intro index
            have different : graph.connections.outputMate ⟨stage, index⟩ ≠ some input := by
              intro also
              have same := graph.mated.output_unique mates also
              exact notBusy (same ▸ rfl)
            cases also : graph.connections.outputMate ⟨stage, index⟩ with
            | none => simp [outputDemand, mateHolds, also, supplyPacketFromOutput]
            | some other =>
              have other : other ≠ input := fun same => different (same ▸ also)
              simp [outputDemand, mateHolds, also, supplyPacketFromOutput, other]
          · intro index
            have other : (⟨stage, index⟩ : InputRef) ≠ input := by
              rintro rfl
              exact here rfl
            simp [supplyPacketFromOutput, other]
      · exact .inr (.inl (pushed.grows _ listed))
      · exact .inr (.inr listed)
    · intro unlocked
      exact absurd (alert.idle unlocked).1 (by simp)
  next => exact alert

theorem Alert.setDemand {input : InputRef} (alert : Alert graph (some input.stage) state)
    (demand : Demand)
    (allowed : Multistream graph input.stage →
      input.index ∈ state.pendingInputs input.stage ∨ demand = .negative) :
    Alert graph (some input.stage) (state.setDemand graph input demand) := by
  simp only [State.setDemand]
  split
  next output mates =>
    have forth := (graph.mated.symmetric output input).mpr mates
    split
    · exact alert
    · rw [pushToDemandBacklog_eq]
      have pushed := pushed_of_flag alert.demandFlag output.stage
        (fun _ listed => List.mem_cons_of_mem output.stage listed) List.mem_cons_self
      refine ⟨alert.supplyFlag, pushed.flagged, ?_, ?_, ?_, ?_, ?_⟩
      · intro other otherInput otherMates held wanted
        by_cases same : other = output
        · exact .inl (same ▸ pushed.member)
        · have before : state.demand other ≠ .negative := by
            simpa [setOutputDemand, same] using wanted
          rcases alert.waiting other otherInput otherMates held before with listed | busy
          · exact .inl (pushed.grows _ listed)
          · exact .inr busy
      · intro other otherInput otherMates held notBusy
        have different : other ≠ output := by
          rintro rfl
          have same := Option.some.inj (otherMates.symm.trans forth)
          exact notBusy (same ▸ rfl)
        rcases alert.held other otherInput otherMates held notBusy with listed | negative
        · exact .inl listed
        · exact .inr (by simpa [setOutputDemand, different] using negative)
      · intro other multistream absent
        obtain ⟨slot, sink, signal⟩ := alert.pending other multistream absent
        refine ⟨slot, sink, ?_⟩
        by_cases same : other = input
        · subst same
          rcases allowed multistream with present | negative
          · exact absurd present absent
          · simp [signalled, mates, setOutputDemand, negative]
        · cases otherMates : graph.connections.inputMate other with
          | none => simp [signalled, otherMates]
          | some otherOutput =>
            have different : otherOutput ≠ output := by
              rintro rfl
              exact same (graph.mated.input_unique mates otherMates)
            simpa [signalled, otherMates, setOutputDemand, different] using signal
      · intro stage present notBusy
        rcases alert.settled stage present notBusy with settled | listed | listed | listed
        · by_cases here : stage = output.stage
          · exact .inr (.inr (.inl (here ▸ pushed.member)))
          · refine .inl (settled.of_view ⟨rfl, ?_, fun _ => rfl, ?_, fun _ => rfl⟩)
            · intro index
              have different : (⟨stage, index⟩ : OutputRef) ≠ output := by
                rintro rfl
                exact here rfl
              apply outputDemand_congr
              · simp [setOutputDemand, different]
              · exact mateHolds_congr rfl _
            · intro index
              cases otherMates : graph.connections.inputMate ⟨stage, index⟩ with
              | none => simp [signalled, otherMates]
              | some otherOutput =>
                have different : otherOutput ≠ output := by
                  rintro rfl
                  have same := graph.mated.input_unique mates otherMates
                  exact notBusy (same ▸ rfl)
                simp [signalled, otherMates, setOutputDemand, different]
        · exact .inr (.inl listed)
        · exact .inr (.inr (.inl (pushed.grows _ listed)))
        · exact .inr (.inr (.inr listed))
      · intro unlocked
        exact absurd (alert.idle unlocked).1 (by simp)
  next => exact alert

theorem setDemand_cases (input : InputRef) (demand : Demand) :
    state.setDemand graph input demand = state ∨
      ∃ output, state.setDemand graph input demand =
        (state.setOutputDemand output demand).pushToDemandBacklog output.stage := by
  simp only [State.setDemand]
  split
  next output _ =>
    split
    · exact .inl rfl
    · exact .inr ⟨output, rfl⟩
  next => exact .inl rfl

theorem setDemand_frame (input : InputRef) (demand : Demand) :
    (state.setDemand graph input demand).packetFromUpstream = state.packetFromUpstream ∧
      (state.setDemand graph input demand).sinkDemand = state.sinkDemand ∧
      (state.setDemand graph input demand).pendingInputs = state.pendingInputs := by
  obtain same | ⟨output, changed⟩ := @setDemand_cases graph state input demand
  · rw [same]
    exact ⟨rfl, rfl, rfl⟩
  · rw [changed, pushToDemandBacklog_eq]
    exact ⟨rfl, rfl, rfl⟩

theorem setDemand_slots (input : InputRef) (demand : Demand) :
    (state.setDemand graph input demand).packetFromUpstream = state.packetFromUpstream :=
  (setDemand_frame input demand).1

theorem setDemand_sinks (input : InputRef) (demand : Demand) :
    (state.setDemand graph input demand).sinkDemand = state.sinkDemand :=
  (setDemand_frame input demand).2.1

theorem setDemand_pendingInputs (input : InputRef) (demand : Demand) :
    (state.setDemand graph input demand).pendingInputs = state.pendingInputs :=
  (setDemand_frame input demand).2.2

theorem setDemand_demand {input : InputRef} {output : OutputRef} (demand : Demand)
    (mates : graph.connections.inputMate input = some output) :
    (state.setDemand graph input demand).demand =
      Function.update state.demand output demand := by
  simp only [State.setDemand, mates]
  split
  next same => rw [Function.update_eq_self_iff.mpr same.symm]
  next =>
    rw [pushToDemandBacklog_eq]
    rfl

theorem signalled_setDemand {input : InputRef} {output : OutputRef} (demand : Demand)
    (mates : graph.connections.inputMate input = some output) :
    (state.setDemand graph input demand).signalled graph input = demand := by
  simp [signalled, mates, setDemand_demand demand mates]

theorem signalled_setDemand_other {input other : InputRef} (demand : Demand)
    (different : other ≠ input) :
    (state.setDemand graph input demand).signalled graph other = state.signalled graph other := by
  cases mates : graph.connections.inputMate input with
  | none => simp [State.setDemand, mates]
  | some output =>
    cases otherMates : graph.connections.inputMate other with
    | none => simp [signalled, otherMates]
    | some otherOutput =>
      have apart : otherOutput ≠ output := by
        rintro rfl
        exact different (graph.mated.input_unique mates otherMates)
      simp [signalled, otherMates, setDemand_demand demand mates, apart]

def Served (graph : PreparedGraph) (state : State) (output : OutputRef) (packet : Packet) : Prop :=
  ∀ allocatePayloadBuffer, graph.copyAllocator output = some allocatePayloadBuffer →
    packet.size ≠ 0 → allocatePayloadBuffer (state.allocations output) = true

theorem supplyPacket_cases (state : State) (output : OutputRef) (packet : Packet) :
    (∃ before, (before = state.noteSupply graph output ∨
        before = (state.noteSupply graph output).countAllocation output) ∧
      state.supplyPacket graph output packet = before.deliver graph output packet) ∨
    state.supplyPacket graph output packet =
        (state.noteSupply graph output).countAllocation output ∧
      ¬ Served graph state output packet := by
  simp only [State.supplyPacket]
  split
  · exact .inl ⟨_, .inl rfl, rfl⟩
  next allocatePayloadBuffer copies =>
    split
    · exact .inl ⟨_, .inl rfl, rfl⟩
    next nonempty =>
      split
      · exact .inl ⟨_, .inr rfl, rfl⟩
      next starved =>
        refine .inr ⟨rfl, ?_⟩
        intro served
        exact starved (served allocatePayloadBuffer copies nonempty)

theorem private_noteSupply (stage : Nat) (output : OutputRef) :
    Private graph stage state (state.noteSupply graph output) :=
  ⟨rfl, rfl, fun _ _ => rfl, fun _ _ => rfl, fun _ _ _ sink => sink, rfl, rfl, rfl, rfl, rfl, rfl,
    rfl, rfl⟩

theorem private_countAllocation (stage : Nat) (output : OutputRef) :
    Private graph stage state (state.countAllocation output) :=
  ⟨rfl, rfl, fun _ _ => rfl, fun _ _ => rfl, fun _ _ _ sink => sink, rfl, rfl, rfl, rfl, rfl, rfl,
    rfl, rfl⟩

theorem Alert.supplyPacket {output : OutputRef} (alert : Alert graph (some output.stage) state)
    (packet : Packet) (wanted : state.outputDemand graph output ≠ .negative) :
    Alert graph (some output.stage) (state.supplyPacket graph output packet) := by
  have noted := alert.private (private_noteSupply output.stage output)
  have demand : state.demand output ≠ .negative := fun negative =>
    wanted (outputDemand_of_negative negative)
  rcases supplyPacket_cases state output packet with ⟨before, rfl | rfl, supplied⟩ | ⟨supplied, -⟩
  · rw [supplied]
    exact noted.deliver packet demand
  · rw [supplied]
    exact (noted.private (private_countAllocation _ _)).deliver packet demand
  · rw [supplied]
    exact noted.private (private_countAllocation _ _)

theorem deliver_eq {output : OutputRef} {input : InputRef} (packet : Packet)
    (mates : graph.connections.outputMate output = some input) :
    (state.deliver graph output packet).packetsProduced = true ∧
      (state.deliver graph output packet).packetFromUpstream =
        Function.update state.packetFromUpstream input (some packet) := by
  simp only [State.deliver, mates]
  rw [pushToSupplyBacklog_eq]
  exact ⟨rfl, rfl⟩

theorem supplyPacket_served {output : OutputRef} {input : InputRef} {packet : Packet}
    (served : Served graph state output packet)
    (mates : graph.connections.outputMate output = some input) :
    (state.supplyPacket graph output packet).packetsProduced = true ∧
      (state.supplyPacket graph output packet).packetFromUpstream =
        Function.update state.packetFromUpstream input (some packet) := by
  rcases supplyPacket_cases state output packet with ⟨before, rfl | rfl, supplied⟩ |
    ⟨-, starved⟩
  · rw [supplied]
    exact deliver_eq packet mates
  · rw [supplied]
    exact deliver_eq packet mates
  · exact absurd served starved

theorem Alert.finish {stage : Nat} (alert : Alert graph (some stage) state)
    (own : ∀ output input, graph.connections.outputMate output = some input →
      input.stage = stage → state.packetFromUpstream input ≠ none →
      stage ∈ state.supplyBacklog ∨ state.demand output = .negative)
    (settled : stage ∈ graph.connections.stages → state.Settled graph stage ∨
      stage ∈ state.demandBacklog ∨ state.packetsProduced = true) :
    Alert graph none
      (if state.packetsProduced then state.pushToDemandBacklog stage else state) := by
  have held (output : OutputRef) (input : InputRef)
      (mates : graph.connections.outputMate output = some input)
      (holds : state.packetFromUpstream input ≠ none) :
      input.stage ∈ state.supplyBacklog ∨ state.demand output = .negative := by
    by_cases here : input.stage = stage
    · rw [here]
      exact own output input mates here holds
    · exact alert.held output input mates holds (by simpa using Ne.symm here)
  split
  next produced =>
    rw [pushToDemandBacklog_eq]
    have pushed := pushed_of_flag alert.demandFlag stage
      (fun _ listed => List.mem_cons_of_mem stage listed) List.mem_cons_self
    refine ⟨alert.supplyFlag, pushed.flagged, ?_, ?_, alert.pending, ?_, ?_⟩
    · intro output input mates holds wanted
      refine .inl ?_
      rcases alert.waiting output input mates holds wanted with listed | ⟨busy, -⟩
      · exact pushed.grows _ listed
      · rw [← Option.some.inj busy]
        exact pushed.member
    · intro output input mates holds _
      exact held output input mates holds
    · intro other present _
      by_cases here : other = stage
      · exact .inr (.inr (.inl (here ▸ pushed.member)))
      · rcases alert.settled other present (by simpa using Ne.symm here) with
          settled | listed | listed | listed
        · exact .inl (settled.of_view ⟨rfl, fun _ => rfl, fun _ => rfl, fun _ => rfl, fun _ => rfl⟩)
        · exact .inr (.inl listed)
        · exact .inr (.inr (.inl (pushed.grows _ listed)))
        · exact .inr (.inr (.inr listed))
    · intro unlocked
      exact absurd (alert.idle unlocked).1 (by simp)
  next quiet =>
    refine ⟨alert.supplyFlag, alert.demandFlag, ?_, ?_, alert.pending, ?_, ?_⟩
    · intro output input mates holds wanted
      rcases alert.waiting output input mates holds wanted with listed | ⟨-, produced⟩
      · exact .inl listed
      · exact absurd produced quiet
    · intro output input mates holds _
      exact held output input mates holds
    · intro other present _
      by_cases here : other = stage
      · subst here
        rcases settled present with done | listed | produced
        · exact .inl done
        · exact .inr (.inr (.inl listed))
        · exact absurd produced quiet
      · exact alert.settled other present (by simpa using Ne.symm here)
    · intro unlocked
      exact absurd (alert.idle unlocked).1 (by simp)

theorem Alert.popSupplyBacklog {stage : Nat} {rest : List Nat} (alert : Alert graph none state)
    (first : state.supplyBacklog = stage :: rest) :
    Alert graph (some stage) (state.popSupplyBacklog stage rest).clearProduced := by
  have remains {other : Nat} (listed : other ∈ state.supplyBacklog) (different : other ≠ stage) :
      other ∈ rest := by
    rw [first] at listed
    exact (List.mem_cons.mp listed).resolve_left different
  refine ⟨?_, alert.demandFlag, ?_, ?_, alert.pending, ?_, ?_⟩
  · intro other flagged
    by_cases here : other = stage
    · simp [State.popSupplyBacklog, clearProduced, here] at flagged
    · have before : state.inSupplyBacklog other = true := by
        simpa [State.popSupplyBacklog, clearProduced, here] using flagged
      exact remains (alert.supplyFlag other before) here
  · intro output input mates holds wanted
    rcases alert.waiting output input mates holds wanted with listed | ⟨busy, -⟩
    · exact .inl listed
    · cases busy
  · intro output input mates holds notBusy
    rcases alert.held output input mates holds (by simp) with listed | negative
    · exact .inl (remains listed fun here => notBusy (here ▸ rfl))
    · exact .inr negative
  · intro other present notBusy
    rcases alert.settled other present (by simp) with settled | listed | listed
    · exact .inl (settled.of_view ⟨rfl, fun _ => rfl, fun _ => rfl, fun _ => rfl, fun _ => rfl⟩)
    · exact .inr (.inl (remains listed fun here => notBusy (here ▸ rfl)))
    · exact .inr (.inr listed)
  · intro unlocked
    have empty := (alert.idle unlocked).2.1
    rw [first] at empty
    cases empty

theorem Alert.popDemandBacklog {stage : Nat} {rest : List Nat} (alert : Alert graph none state)
    (empty : state.supplyBacklog = []) (first : state.demandBacklog = stage :: rest) :
    Alert graph (some stage) (state.popDemandBacklog stage rest).clearProduced := by
  have remains {other : Nat} (listed : other ∈ state.demandBacklog) (different : other ≠ stage) :
      other ∈ rest := by
    rw [first] at listed
    exact (List.mem_cons.mp listed).resolve_left different
  refine ⟨alert.supplyFlag, ?_, ?_, ?_, alert.pending, ?_, ?_⟩
  · intro other flagged
    by_cases here : other = stage
    · simp [State.popDemandBacklog, clearProduced, here] at flagged
    · have before : state.inDemandBacklog other = true := by
        simpa [State.popDemandBacklog, clearProduced, here] using flagged
      exact remains (alert.demandFlag other before) here
  · intro output input mates holds wanted
    -- All stages that were supplied have been updated, and none of them keeps its packet while
    -- its demand is not negative.
    rcases alert.held output input mates holds (by simp) with listed | negative
    · rw [empty] at listed
      cases listed
    · exact absurd negative wanted
  · intro output input mates holds notBusy
    exact alert.held output input mates holds (by simp)
  · intro other present notBusy
    rcases alert.settled other present (by simp) with settled | listed | listed | listed
    · exact .inl (settled.of_view ⟨rfl, fun _ => rfl, fun _ => rfl, fun _ => rfl, fun _ => rfl⟩)
    · exact .inr (.inl listed)
    · exact .inr (.inr (.inl (remains listed fun here => notBusy (here ▸ rfl))))
    · exact .inr (.inr (.inr listed))
  · intro unlocked
    have nothing := (alert.idle unlocked).2.2
    rw [first] at nothing
    cases nothing

theorem Alert.enter {position stage : Nat} (alert : Alert graph none state)
    (request : state.requests[position]? = some stage) :
    Alert graph (some stage) (state.enter position).clearProduced := by
  refine ⟨alert.supplyFlag, alert.demandFlag, ?_, ?_, alert.pending, ?_, nofun⟩
  · intro output input mates holds wanted
    rcases alert.waiting output input mates holds wanted with listed | ⟨busy, -⟩
    · exact .inl listed
    · cases busy
  · intro output input mates holds _
    exact alert.held output input mates holds (by simp)
  · intro other present notBusy
    rcases alert.settled other present (by simp) with settled | listed | listed | listed
    · exact .inl (settled.of_view ⟨rfl, fun _ => rfl, fun _ => rfl, fun _ => rfl, fun _ => rfl⟩)
    · exact .inr (.inl listed)
    · exact .inr (.inr (.inl listed))
    · refine .inr (.inr (.inr ?_))
      obtain ⟨index, found⟩ := List.mem_iff_getElem?.mp listed
      apply List.mem_eraseIdx_iff_getElem?.mpr
      refine ⟨index, ?_, found⟩
      rintro rfl
      exact notBusy (request.symm.trans found)

end State

end MojoMedia.Framework.Engine
