import MojoMedia.Framework.Engine

set_option autoImplicit false

namespace MojoMedia.Framework.Engine

namespace State

variable {graph : PreparedGraph} {state : State}

structure Safe (state : State) : Prop where
  calls : state.suppliedWhileHeld = false
  slots : state.overwritten = false

theorem Safe.of_eq {next : State} (safe : state.Safe)
    (calls : next.suppliedWhileHeld = state.suppliedWhileHeld)
    (slots : next.overwritten = state.overwritten) : next.Safe :=
  ⟨calls.trans safe.calls, slots.trans safe.slots⟩

theorem Safe.pushToSupplyBacklog (safe : state.Safe) (stage : Nat) :
    (state.pushToSupplyBacklog stage).Safe := by
  simp only [State.pushToSupplyBacklog]
  split <;> exact safe.of_eq rfl rfl

theorem Safe.pushToDemandBacklog (safe : state.Safe) (stage : Nat) :
    (state.pushToDemandBacklog stage).Safe := by
  simp only [State.pushToDemandBacklog]
  split <;> exact safe.of_eq rfl rfl

theorem Safe.setDemand (safe : state.Safe) (input : InputRef) (demand : Demand) :
    (state.setDemand graph input demand).Safe := by
  simp only [State.setDemand]
  split
  · split
    · exact safe
    · apply Safe.pushToDemandBacklog
      exact safe.of_eq rfl rfl
  · exact safe

theorem mateHolds_of_demand {output : OutputRef}
    (wanted : state.outputDemand graph output ≠ .negative) :
    state.mateHolds graph output = false := by
  by_contra holds
  simp [outputDemand, holds] at wanted

theorem slot_of_mateHolds {output : OutputRef} {input : InputRef}
    (free : state.mateHolds graph output = false)
    (mates : graph.connections.outputMate output = some input) :
    state.packetFromUpstream input = none := by
  simpa [mateHolds, mates] using free

theorem Safe.deliver (safe : state.Safe) {output : OutputRef} (packet : Packet)
    (free : state.mateHolds graph output = false) : (state.deliver graph output packet).Safe := by
  simp only [State.deliver]
  split
  next input mates =>
    apply Safe.pushToSupplyBacklog
    refine ⟨safe.calls, ?_⟩
    simp [supplyPacketFromOutput, safe.slots, slot_of_mateHolds free mates]
  next => exact safe

theorem Safe.supplyPacket (safe : state.Safe) {output : OutputRef} (packet : Packet)
    (free : state.mateHolds graph output = false) :
    (state.supplyPacket graph output packet).Safe := by
  have noted : (state.noteSupply graph output).Safe :=
    ⟨by simp [noteSupply, safe.calls, free], safe.slots⟩
  simp only [State.supplyPacket]
  split
  · exact noted.deliver packet free
  · split
    · exact noted.deliver packet free
    · split
      · apply Safe.deliver
        · exact noted.of_eq rfl rfl
        · exact free
      · exact noted.of_eq rfl rfl

theorem Safe.updateActiveSource (safe : state.Safe) (stage : Nat) :
    (state.updateActiveSource graph stage).Safe := by
  simp only [State.updateActiveSource]
  split
  · exact safe.of_eq rfl rfl
  · split
    · exact safe.of_eq rfl rfl
    · next wanted =>
      have signalled : (state.setDownstreamDemand stage
          (state.outputDemand graph ⟨stage, 0⟩)).Safe := safe.of_eq rfl rfl
      exact (signalled.supplyPacket _ (mateHolds_of_demand wanted)).of_eq rfl rfl

theorem Safe.supplyCached (safe : state.Safe) (stage outputs : Nat) :
    (state.supplyCached graph stage outputs).Safe := by
  simp only [State.supplyCached]
  split
  · split
    · next wanted =>
      exact (safe.supplyPacket _ (mateHolds_of_demand wanted.2)).of_eq rfl rfl
    · exact safe
  · exact safe

theorem updateMultistreamSource_keeps {next : State} {stage outputs : Nat}
    {pulled : List (Nat × Packet)} (kept : State → Prop)
    (supplies : ∀ state, kept state → kept (state.supplyCached graph stage outputs))
    (caches : ∀ state outputIndex packet, outputIndex < outputs → kept state →
      kept (state.cachePulled stage outputIndex packet)) (start : kept state)
    (updated : updateMultistreamSource graph stage outputs pulled state = some next) :
    kept next := by
  induction pulled generalizing state with
  | nil =>
    simp only [State.updateMultistreamSource, Option.ite_none_right_eq_some,
      Option.some.injEq] at updated
    exact updated.2 ▸ supplies state start
  | cons first rest ih =>
    obtain ⟨outputIndex, packet⟩ := first
    rw [State.updateMultistreamSource] at updated
    split at updated
    · exact Option.some.inj updated ▸ supplies state start
    · simp only [Option.ite_none_right_eq_some] at updated
      exact ih (caches _ outputIndex packet updated.1 (supplies state start)) updated.2

theorem Safe.updateMultistreamSource {next : State} {stage outputs : Nat}
    {pulled : List (Nat × Packet)} (safe : state.Safe)
    (updated : updateMultistreamSource graph stage outputs pulled state = some next) :
    next.Safe := by
  apply updateMultistreamSource_keeps State.Safe _ _ safe updated
  · exact fun _ safe => safe.supplyCached stage outputs
  · exact fun _ _ _ _ safe => safe.of_eq rfl rfl

theorem toSupply_demand {source : ActiveMultistreamSourceStage} {demand : Nat → Demand}
    {outputIndex : Nat} {packet : Packet}
    (supplied : source.toSupply demand = some (outputIndex, packet)) :
    demand outputIndex ≠ .negative := by
  simp only [ActiveMultistreamSourceStage.toSupply] at supplied
  split at supplied
  · simp only [Option.ite_none_right_eq_some, Option.some.injEq, Prod.mk.injEq] at supplied
    exact supplied.2.1 ▸ supplied.1
  · cases supplied

theorem Safe.updateActiveMultistreamSource (safe : state.Safe) (stage outputs : Nat) :
    (state.updateActiveMultistreamSource graph stage outputs).Safe := by
  simp only [State.updateActiveMultistreamSource]
  split
  · next outputIndex packet supplied =>
    have wanted := mateHolds_of_demand (toSupply_demand supplied)
    exact (safe.supplyPacket packet wanted).of_eq rfl rfl
  · exact safe.of_eq rfl rfl

theorem mateHolds_takePacket {output : OutputRef} (input : InputRef)
    (free : state.mateHolds graph output = false) :
    (state.takePacket input).mateHolds graph output = false := by
  cases mates : graph.connections.outputMate output with
  | none => simp [mateHolds, mates]
  | some other =>
    have empty := slot_of_mateHolds free mates
    by_cases same : other = input
    · simp [mateHolds, mates, takePacket, same]
    · simp [mateHolds, mates, takePacket, same, empty]

theorem Safe.transformPacket (safe : state.Safe) {stage : Nat} (answers : Answers)
    (wanted : state.outputDemand graph ⟨stage, 0⟩ ≠ .negative) :
    (state.transformPacket graph stage answers).Safe := by
  have free := mateHolds_of_demand wanted
  have called : ((if answers.done then state.takePacket ⟨stage, 0⟩ else state).setInputPacketIsNew
      stage answers.done).Safe := by
    split
    · exact safe.of_eq rfl rfl
    · exact safe.of_eq rfl rfl
  simp only [State.transformPacket]
  split
  · apply called.supplyPacket
    split
    · exact mateHolds_takePacket ⟨stage, 0⟩ free
    · exact free
  · exact called

theorem Safe.updateTransform (safe : state.Safe) (stage : Nat) (answers : Answers) :
    (state.updateTransform graph stage answers).Safe := by
  apply Safe.setDemand
  split
  · next ready => exact safe.transformPacket answers ready.2
  · exact safe

theorem Safe.supplySink (safe : state.Safe) (input : InputRef) (answer : Demand) :
    (state.supplySink input answer).Safe := safe.of_eq rfl rfl

theorem Safe.updateActiveSink (safe : state.Safe) (stage : Nat) (answers : Answers) :
    (state.updateActiveSink graph stage answers).Safe := by
  apply Safe.setDemand
  split
  · exact safe.supplySink _ _
  · exact safe

theorem Safe.updatePending (stage : Nat) (answers : Answers) (pending : List Nat) (count : Nat)
    (kept : List Nat) (safe : state.Safe) :
    (updatePending graph stage answers pending count kept state).1.Safe := by
  induction pending generalizing count kept state with
  | nil => exact safe
  | cons index rest ih =>
    simp only [State.updatePending]
    split
    · have supplied := safe.supplySink ⟨stage, index⟩ (answers.demands count)
      split
      · exact ih _ _ (supplied.setDemand _ _)
      · exact ih _ _ ((supplied.setDemand _ _).setDemand _ _)
    · exact ih _ _ (safe.setDemand _ _)

theorem Safe.updateStage {next : State} {stage : Nat} {answers : Answers} (safe : state.Safe)
    (updated : state.updateStage graph stage answers = some next) : next.Safe := by
  simp only [State.updateStage, Option.bind_eq_bind, Option.bind_eq_some_iff,
    Option.some.injEq] at updated
  obtain ⟨after, done, rfl⟩ := updated
  have start : state.clearProduced.Safe := safe.of_eq rfl rfl
  have safeAfter : after.Safe := by
    simp only [State.update] at done
    split at done
    · exact Option.some.inj done ▸ start.updateActiveSource stage
    · exact start.updateMultistreamSource done
    · exact Option.some.inj done ▸ start.updateActiveMultistreamSource stage _
    · exact Option.some.inj done ▸ start.updateTransform stage answers
    · exact Option.some.inj done ▸ start.updateActiveSink stage answers
    · rw [← Option.some.inj done]
      exact (start.updatePending stage answers _ 0 []).of_eq rfl rfl
  split
  · exact safeAfter.pushToDemandBacklog stage
  · exact safeAfter

end State

theorem safe_step {graph : PreparedGraph} {state next : State} {event : Event} (safe : state.Safe)
    (taken : step graph state event = some next) : next.Safe := by
  cases event with
  | supply stage packet =>
    simp only [step, Option.ite_none_right_eq_some, Option.some.injEq] at taken
    rw [← taken.2, State.supply]
    split <;> exact safe.of_eq rfl rfl
  | answer stage outputIndex packet =>
    simp only [step] at taken
    split at taken
    · simp only [Option.ite_none_right_eq_some, Option.some.injEq] at taken
      rw [← taken.2, State.answer]
      split <;> exact safe.of_eq rfl rfl
    · cases taken
  | demand stage demand =>
    simp only [step, Option.ite_none_right_eq_some, Option.some.injEq] at taken
    rw [← taken.2, State.changeDemand]
    split
    · exact safe
    · exact safe.of_eq rfl rfl
  | updateDemand stage index demand =>
    simp only [step] at taken
    split at taken
    · simp only [Option.ite_none_right_eq_some, Option.some.injEq] at taken
      exact taken.2 ▸ safe.of_eq rfl rfl
    · cases taken
  | requestUpdate position answers =>
    simp only [step, Option.ite_none_left_eq_some, Option.bind_eq_bind,
      Option.bind_eq_some_iff] at taken
    obtain ⟨-, stage, -, updated⟩ := taken
    apply State.Safe.updateStage _ updated
    exact safe.of_eq rfl rfl
  | update answers =>
    simp only [step, Option.ite_none_right_eq_some] at taken
    replace taken := taken.2
    simp only [State.updateNext] at taken
    split at taken
    · apply State.Safe.updateStage _ taken
      exact safe.of_eq rfl rfl
    · apply State.Safe.updateStage _ taken
      exact safe.of_eq rfl rfl
    · exact Option.some.inj taken ▸ safe.of_eq rfl rfl

-- In every run on every graph, `SupplyPacket` is only called while the mate holds no packet, and
-- no packet is put in the place of another.
theorem supplied_to_empty_inputs (graph : PreparedGraph) (events : List Event) (state : State)
    (reached : Runs.run (step graph) { } events = some state) :
    state.suppliedWhileHeld = false ∧ state.overwritten = false := by
  have safe : state.Safe := by
    apply Runs.invariant_of_run (step graph) State.Safe _ { } state events ⟨rfl, rfl⟩ reached
    intro before event after safe taken
    exact safe_step safe taken
  exact ⟨safe.calls, safe.slots⟩

def chainGraph : PreparedGraph where
  connections := Connections.chain
  mated := Connections.chain_mated
  connected := Connections.chain_connected
  copyAllocator _ := none
  transforms _ _ := rfl
  inputs _ _ _ _ := rfl

def onePacket : Packet := ⟨0, false, [1]⟩

def oneDelivery : List Event :=
  [ .demand 2 .positive, .requestUpdate 0 { }, .update { }, .update { }, .update { },
    .supply 0 onePacket, .requestUpdate 0 { }, .update { output := some onePacket } ]

theorem one_delivery_safe :
    ∃ state, Runs.run (step chainGraph) { } oneDelivery = some state ∧
      state.packetFromUpstream ⟨2, 0⟩ = some onePacket ∧ state.suppliedWhileHeld = false ∧
      state.overwritten = false := by
  have outcome : (Runs.run (step chainGraph) { } oneDelivery).any (fun state =>
      state.packetFromUpstream ⟨2, 0⟩ = some onePacket) = true := by
    decide +kernel
  obtain ⟨state, reached, held⟩ := (Option.any_eq_true _ _).mp outcome
  exact ⟨state, reached, by simpa using held,
    supplied_to_empty_inputs chainGraph oneDelivery state reached⟩

end MojoMedia.Framework.Engine
