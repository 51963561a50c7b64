import Mathlib.Data.List.Nodup
import MojoMedia.Framework.Quiescence
import MojoMedia.Shared.Runs

set_option autoImplicit false

namespace MojoMedia.Framework.Engine

namespace State

-- What the loop does with a packet, and the output that the source named for it. A packet is
-- dropped when it has to be copied and there is no buffer.
inductive Turn where
  | pulled (outputIndex : Nat) (packet : Packet)
  | placed (outputIndex : Nat) (packet : Packet)
  | dropped (outputIndex : Nat) (packet : Packet)
  deriving Repr, DecidableEq

def Turn.pull : Turn → Option (Nat × Packet)
  | .pulled outputIndex packet => some (outputIndex, packet)
  | .placed _ _ | .dropped _ _ => none

def Turn.place : Turn → Option (Nat × Packet)
  | .placed outputIndex packet => some (outputIndex, packet)
  | .pulled _ _ | .dropped _ _ => none

def Turn.drop : Turn → Option (Nat × Packet)
  | .dropped outputIndex packet => some (outputIndex, packet)
  | .pulled _ _ | .placed _ _ => none

def Turn.leave : Turn → Option (Nat × Packet)
  | .placed outputIndex packet | .dropped outputIndex packet => some (outputIndex, packet)
  | .pulled _ _ => none

variable (graph : PreparedGraph)

def starves (state : State) (output : OutputRef) (packet : Packet) : Bool :=
  match graph.copyAllocator output with
  | none => false
  | some allocatePayloadBuffer =>
    packet.size ≠ 0 && !allocatePayloadBuffer (state.allocations output)

def supplyTurns (state : State) (stage outputs : Nat) : List Turn :=
  let source := state.multistreamSource stage
  let demand := fun index => state.outputDemand graph ⟨stage, index⟩
  match source.cachedPacket with
  | some packet =>
    if hasPositiveDemand demand outputs ∧ demand source.cachedPacketOutputIndex ≠ .negative then
      if state.starves graph ⟨stage, source.cachedPacketOutputIndex⟩ packet then
        [.dropped source.cachedPacketOutputIndex packet]
      else [.placed source.cachedPacketOutputIndex packet]
    else []
  | none => []

def turns (stage outputs : Nat) : List (Nat × Packet) → State → List Turn
  | pulled, state =>
    let supplied := state.supplyCached graph stage outputs
    let source := supplied.multistreamSource stage
    state.supplyTurns graph stage outputs ++
      if source.cachedPacket.isSome ∨ source.endedStreams = outputs then []
      else
        match pulled with
        | [] => []
        | (outputIndex, packet) :: rest =>
          if outputIndex < outputs then
            .pulled outputIndex packet ::
              turns stage outputs rest (supplied.cachePulled stage outputIndex packet)
          else []

def cached (state : State) (stage : Nat) : List (Nat × Packet) :=
  (state.multistreamSource stage).cachedPacket.toList.map
    ((state.multistreamSource stage).cachedPacketOutputIndex, ·)

variable {graph} {state next : State} {stage outputs : Nat}

theorem starves_eq_true {output : OutputRef} {packet : Packet} :
    state.starves graph output packet = true ↔
      ∃ allocatePayloadBuffer, graph.copyAllocator output = some allocatePayloadBuffer ∧
        packet.size ≠ 0 ∧ allocatePayloadBuffer (state.allocations output) = false := by
  rw [starves]
  split
  next none => simp [none]
  next allocatePayloadBuffer copies => simp [copies]

theorem served_of_not_starves {output : OutputRef} {packet : Packet}
    (fed : state.starves graph output packet = false) : Served graph state output packet := by
  intro allocatePayloadBuffer copies nonempty
  simpa [starves, copies, nonempty] using fed

theorem supplyPacket_starved {output : OutputRef} {packet : Packet}
    (starved : state.starves graph output packet = true) :
    (state.supplyPacket graph output packet).packetFromUpstream = state.packetFromUpstream := by
  obtain ⟨allocatePayloadBuffer, copies, nonempty, noBuffer⟩ := starves_eq_true.mp starved
  simp only [supplyPacket, copies, if_neg nonempty, noBuffer]
  rfl

structure Supplied (graph : PreparedGraph) (stage : Nat) (state supplied : State)
    (outputIndex : Nat) (packet : Packet) : Prop where
  before : state.cached stage = [(outputIndex, packet)]
  free : state.mateHolds graph ⟨stage, outputIndex⟩ = false
  source : supplied.multistreamSource stage =
    { state.multistreamSource stage with cachedPacket := none }

theorem supplyCached_cases (graph : PreparedGraph) (state : State) (stage outputs : Nat) :
    (state.supplyTurns graph stage outputs = [] ∧
        state.supplyCached graph stage outputs = state) ∨
      ∃ outputIndex packet,
        Supplied graph stage state (state.supplyCached graph stage outputs) outputIndex packet ∧
        ((state.supplyTurns graph stage outputs = [.placed outputIndex packet] ∧
            ∀ input, graph.connections.outputMate ⟨stage, outputIndex⟩ = some input →
              (state.supplyCached graph stage outputs).packetFromUpstream =
                Function.update state.packetFromUpstream input (some packet)) ∨
          state.supplyTurns graph stage outputs = [.dropped outputIndex packet] ∧
            state.starves graph ⟨stage, outputIndex⟩ packet = true ∧
            (state.supplyCached graph stage outputs).packetFromUpstream =
              state.packetFromUpstream) := by
  cases isCached : (state.multistreamSource stage).cachedPacket with
  | none => exact .inl ⟨by simp only [supplyTurns, isCached], by simp only [supplyCached, isCached]⟩
  | some packet =>
    by_cases wanted : hasPositiveDemand (fun index => state.outputDemand graph ⟨stage, index⟩)
          outputs ∧ state.outputDemand graph
            ⟨stage, (state.multistreamSource stage).cachedPacketOutputIndex⟩ ≠ .negative
    · simp only [supplyTurns, supplyCached, isCached, if_pos wanted]
      refine .inr ⟨(state.multistreamSource stage).cachedPacketOutputIndex, packet,
        ⟨?_, ?_, ?_⟩, ?_⟩
      · simp [cached, isCached]
      · exact mateHolds_of_demand wanted.2
      · simp [setMultistreamSource]
      · split
        next starved => exact .inr ⟨rfl, starved, supplyPacket_starved starved⟩
        next fed =>
          have served := served_of_not_starves (by simpa using fed)
          exact .inl ⟨rfl, fun input mates => (supplyPacket_served served mates).2⟩
    · exact .inl ⟨by simp only [supplyTurns, isCached, if_neg wanted],
        by simp only [supplyCached, isCached, if_neg wanted]⟩

theorem cached_cachePulled (state : State) (stage outputIndex : Nat) (packet : Packet) :
    (state.cachePulled stage outputIndex packet).cached stage = [(outputIndex, packet)] := by
  simp [cached, cachePulled, setMultistreamSource]

theorem supplyCached_leave (graph : PreparedGraph) (state : State) (stage outputs : Nat) :
    state.cached stage = (state.supplyTurns graph stage outputs).filterMap Turn.leave ++
      (state.supplyCached graph stage outputs).cached stage := by
  rcases supplyCached_cases graph state stage outputs with ⟨quiet, same⟩ |
    ⟨outputIndex, packet, supplied, ⟨placed, -⟩ | ⟨dropped, -, -⟩⟩
  · simp [quiet, same]
  · rw [supplied.before, placed]
    simp [Turn.leave, cached, supplied.source]
  · rw [supplied.before, dropped]
    simp [Turn.leave, cached, supplied.source]

theorem supplyTurns_pull (graph : PreparedGraph) (state : State) (stage outputs : Nat) :
    (state.supplyTurns graph stage outputs).filterMap Turn.pull = [] := by
  rcases supplyCached_cases graph state stage outputs with ⟨quiet, -⟩ |
    ⟨outputIndex, packet, -, ⟨placed, -⟩ | ⟨dropped, -⟩⟩
  · simp [quiet]
  · simp [placed, Turn.pull]
  · simp [dropped, Turn.pull]

-- By induction over what is pulled: the packets that leave the cache are those that were there and
-- those that are pulled, in this order.
theorem turns_conserve (pulled : List (Nat × Packet))
    (updated : updateMultistreamSource graph stage outputs pulled state = some next) :
    state.cached stage ++ (turns graph stage outputs pulled state).filterMap Turn.pull =
      (turns graph stage outputs pulled state).filterMap Turn.leave ++ next.cached stage := by
  induction pulled generalizing state with
  | nil =>
    simp only [updateMultistreamSource, Option.ite_none_right_eq_some] at updated
    obtain ⟨done, same⟩ := updated
    obtain rfl := Option.some.inj same
    rw [turns, if_pos done, List.append_nil, supplyTurns_pull, List.append_nil]
    exact supplyCached_leave graph state stage outputs
  | cons entry rest ih =>
    obtain ⟨outputIndex, packet⟩ := entry
    rw [updateMultistreamSource] at updated
    rw [turns]
    have leaves := supplyCached_leave graph state stage outputs
    split at updated
    next done =>
      obtain rfl := Option.some.inj updated
      rw [if_pos done, List.append_nil, supplyTurns_pull, List.append_nil]
      exact leaves
    next more =>
      simp only [Option.ite_none_right_eq_some] at updated
      obtain ⟨named, updated⟩ := updated
      have later := ih updated
      have empty : (state.supplyCached graph stage outputs).cached stage = [] := by
        simp only [not_or, Option.not_isSome_iff_eq_none] at more
        simp [cached, more.1]
      rw [empty, List.append_nil] at leaves
      rw [cached_cachePulled] at later
      rw [if_neg more]
      simp only [if_pos named, List.filterMap_append, supplyTurns_pull, List.nil_append,
        List.filterMap_cons, Turn.pull, Turn.leave, leaves, List.append_assoc]
      rw [← later]
      rfl

theorem unfinished_conserve (pulled : List (Nat × Packet))
    (named : ∀ entry ∈ pulled, entry.1 < outputs)
    (unfinished : updateMultistreamSource graph stage outputs pulled state = none) :
    state.cached stage ++ pulled =
      (turns graph stage outputs pulled state).filterMap Turn.leave := by
  induction pulled generalizing state with
  | nil =>
    simp only [updateMultistreamSource, ite_eq_right_iff, reduceCtorEq, imp_false] at unfinished
    have leaves := supplyCached_leave graph state stage outputs
    have empty : (state.supplyCached graph stage outputs).cached stage = [] := by
      simp only [not_or, Option.not_isSome_iff_eq_none] at unfinished
      simp [cached, unfinished.1]
    rw [empty, List.append_nil] at leaves
    rw [turns, if_neg unfinished, List.append_nil, List.append_nil]
    exact leaves
  | cons entry rest ih =>
    obtain ⟨outputIndex, packet⟩ := entry
    rw [updateMultistreamSource] at unfinished
    rw [turns]
    split at unfinished
    next => cases unfinished
    next more =>
      have here : outputIndex < outputs := named (outputIndex, packet) (by simp)
      simp only [if_pos here] at unfinished
      have later := ih (fun other member => named other (by simp [member])) unfinished
      have leaves := supplyCached_leave graph state stage outputs
      have empty : (state.supplyCached graph stage outputs).cached stage = [] := by
        simp only [not_or, Option.not_isSome_iff_eq_none] at more
        simp [cached, more.1]
      rw [empty, List.append_nil] at leaves
      rw [cached_cachePulled] at later
      rw [if_neg more]
      simp only [if_pos here, List.filterMap_append, List.filterMap_cons, Turn.leave, leaves,
        ← later]
      rfl

structure Named (graph : PreparedGraph) (stage outputs : Nat) (state : State) : Prop where
  mates : ∀ outputIndex < outputs,
    ∃ input, graph.connections.outputMate ⟨stage, outputIndex⟩ = some input
  cached : ∀ entry ∈ state.cached stage, entry.1 < outputs

theorem Named.supplied_mate {supplied : State} {outputIndex : Nat} {packet : Packet}
    (named : Named graph stage outputs state)
    (sent : Supplied graph stage state supplied outputIndex packet) :
    outputIndex < outputs ∧
      ∃ input, graph.connections.outputMate ⟨stage, outputIndex⟩ = some input ∧
        state.packetFromUpstream input = none := by
  have less : outputIndex < outputs := named.cached (outputIndex, packet) (by simp [sent.before])
  obtain ⟨input, mates⟩ := named.mates outputIndex less
  exact ⟨less, input, mates, slot_of_mateHolds sent.free mates⟩

theorem Named.supplyCached_held (named : Named graph stage outputs state) {input : InputRef}
    {packet : Packet} (held : state.packetFromUpstream input = some packet) :
    (state.supplyCached graph stage outputs).packetFromUpstream input = some packet := by
  rcases supplyCached_cases graph state stage outputs with ⟨-, same⟩ |
    ⟨outputIndex, other, sent, ⟨-, slots⟩ | ⟨-, -, slots⟩⟩
  · rw [same]
    exact held
  · obtain ⟨-, mate, mates, free⟩ := named.supplied_mate sent
    have apart : input ≠ mate := by
      rintro rfl
      cases held.symm.trans free
    rw [slots mate mates, Function.update_of_ne apart]
    exact held
  · rw [slots]
    exact held

theorem Named.cachePulled (named : Named graph stage outputs state) {outputIndex : Nat}
    (less : outputIndex < outputs) (packet : Packet) :
    Named graph stage outputs (state.cachePulled stage outputIndex packet) := by
  refine ⟨named.mates, ?_⟩
  rw [cached_cachePulled]
  simpa using less

theorem Named.supplyCached (named : Named graph stage outputs state) :
    Named graph stage outputs (state.supplyCached graph stage outputs) := by
  refine ⟨named.mates, fun entry member => named.cached entry ?_⟩
  rw [supplyCached_leave graph state stage outputs]
  exact List.mem_append_right _ member

theorem Named.supplyTurns_placed (named : Named graph stage outputs state) {entry : Nat × Packet}
    (placed : entry ∈ (state.supplyTurns graph stage outputs).filterMap Turn.place) :
    ∃ input, graph.connections.outputMate ⟨stage, entry.1⟩ = some input ∧
      state.packetFromUpstream input = none ∧
      (state.supplyCached graph stage outputs).packetFromUpstream input = some entry.2 := by
  rcases supplyCached_cases graph state stage outputs with ⟨quiet, -⟩ |
    ⟨outputIndex, packet, sent, ⟨turn, slots⟩ | ⟨turn, -, -⟩⟩
  · simp [quiet] at placed
  · obtain rfl : entry = (outputIndex, packet) := by simpa [turn, Turn.place] using placed
    obtain ⟨-, mate, mates, free⟩ := named.supplied_mate sent
    refine ⟨mate, mates, free, ?_⟩
    rw [slots mate mates, Function.update_self]
  · simp [turn, Turn.place] at placed

theorem Named.held (pulled : List (Nat × Packet)) (named : Named graph stage outputs state)
    (updated : updateMultistreamSource graph stage outputs pulled state = some next)
    {input : InputRef} {packet : Packet} (held : state.packetFromUpstream input = some packet) :
    next.packetFromUpstream input = some packet := by
  have both := updateMultistreamSource_keeps
    (fun state => Named graph stage outputs state ∧ state.packetFromUpstream input = some packet)
    (fun _ start => ⟨start.1.supplyCached, start.1.supplyCached_held start.2⟩)
    (fun _ _ other less start => ⟨start.1.cachePulled less other, start.2⟩) ⟨named, held⟩ updated
  exact both.2

theorem turns_cases (graph : PreparedGraph) (stage outputs : Nat) (pulled : List (Nat × Packet))
    (state : State) :
    turns graph stage outputs pulled state = state.supplyTurns graph stage outputs ∨
      ∃ outputIndex packet rest, pulled = (outputIndex, packet) :: rest ∧ outputIndex < outputs ∧
        turns graph stage outputs pulled state = state.supplyTurns graph stage outputs ++
          .pulled outputIndex packet :: turns graph stage outputs rest
            ((state.supplyCached graph stage outputs).cachePulled stage outputIndex packet) := by
  cases pulled with
  | nil =>
    left
    rw [turns]
    split <;> rw [List.append_nil]
  | cons entry rest =>
    obtain ⟨outputIndex, packet⟩ := entry
    rw [turns]
    split
    next => exact .inl (List.append_nil _)
    next =>
      by_cases less : outputIndex < outputs
      · exact .inr ⟨outputIndex, packet, rest, rfl, less, by simp only [if_pos less]⟩
      · left
        simp only [if_neg less, List.append_nil]

theorem Named.placed_free (pulled : List (Nat × Packet)) (named : Named graph stage outputs state)
    {entry : Nat × Packet}
    (placed : entry ∈ (turns graph stage outputs pulled state).filterMap Turn.place) :
    ∃ input, graph.connections.outputMate ⟨stage, entry.1⟩ = some input ∧
      state.packetFromUpstream input = none := by
  induction pulled generalizing state with
  | nil =>
    rcases turns_cases graph stage outputs [] state with same | ⟨_, _, _, more, -⟩
    · rw [same] at placed
      obtain ⟨input, mates, free, -⟩ := named.supplyTurns_placed placed
      exact ⟨input, mates, free⟩
    · cases more
  | cons first rest ih =>
    rcases turns_cases graph stage outputs (first :: rest) state with same |
      ⟨outputIndex, packet, later, more, less, same⟩
    · rw [same] at placed
      obtain ⟨input, mates, free, -⟩ := named.supplyTurns_placed placed
      exact ⟨input, mates, free⟩
    · obtain ⟨-, rfl⟩ := List.cons.inj more
      rw [same, List.filterMap_append, List.mem_append] at placed
      rcases placed with now | afterwards
      · obtain ⟨input, mates, free, -⟩ := named.supplyTurns_placed now
        exact ⟨input, mates, free⟩
      · obtain ⟨input, mates, free⟩ :=
          ih (named.supplyCached.cachePulled less packet) afterwards
        refine ⟨input, mates, ?_⟩
        by_contra taken
        obtain ⟨other, held⟩ := Option.ne_none_iff_exists'.mp taken
        cases (named.supplyCached_held held).symm.trans free

theorem supplyTurns_nodup (graph : PreparedGraph) (state : State) (stage outputs : Nat) :
    (((state.supplyTurns graph stage outputs).filterMap Turn.place).map Prod.fst).Nodup := by
  rcases supplyCached_cases graph state stage outputs with ⟨quiet, -⟩ |
    ⟨outputIndex, packet, -, ⟨turn, -⟩ | ⟨turn, -⟩⟩
  · simp [quiet]
  · rw [turn]
    exact List.nodup_singleton outputIndex
  · rw [turn]
    exact List.nodup_nil

theorem Named.placed_nodup (pulled : List (Nat × Packet))
    (named : Named graph stage outputs state) :
    (((turns graph stage outputs pulled state).filterMap Turn.place).map Prod.fst).Nodup := by
  induction pulled generalizing state with
  | nil =>
    rcases turns_cases graph stage outputs [] state with same | ⟨_, _, _, more, -⟩
    · rw [same]
      exact supplyTurns_nodup graph state stage outputs
    · cases more
  | cons first rest ih =>
    rcases turns_cases graph stage outputs (first :: rest) state with same |
      ⟨outputIndex, packet, later, more, less, same⟩
    · rw [same]
      exact supplyTurns_nodup graph state stage outputs
    · obtain ⟨-, rfl⟩ := List.cons.inj more
      have further := named.supplyCached.cachePulled less packet
      rw [same, List.filterMap_append, List.map_append]
      refine List.nodup_append.mpr
        ⟨supplyTurns_nodup graph state stage outputs, ih further, ?_⟩
      rintro index now other afterwards rfl
      obtain ⟨entry, placed, rfl⟩ := List.mem_map.mp now
      obtain ⟨again, placedAgain, sameOutput⟩ := List.mem_map.mp afterwards
      obtain ⟨input, mates, -, holds⟩ := named.supplyTurns_placed placed
      obtain ⟨mate, matesAgain, free⟩ := further.placed_free rest placedAgain
      rw [sameOutput, mates] at matesAgain
      obtain rfl := Option.some.inj matesAgain
      cases holds.symm.trans free

theorem Named.placed_held (pulled : List (Nat × Packet)) (named : Named graph stage outputs state)
    (updated : updateMultistreamSource graph stage outputs pulled state = some next)
    {entry : Nat × Packet}
    (placed : entry ∈ (turns graph stage outputs pulled state).filterMap Turn.place) :
    ∃ input, graph.connections.outputMate ⟨stage, entry.1⟩ = some input ∧
      next.packetFromUpstream input = some entry.2 := by
  induction pulled generalizing state with
  | nil =>
    simp only [updateMultistreamSource, Option.ite_none_right_eq_some] at updated
    obtain ⟨done, same⟩ := updated
    obtain rfl := Option.some.inj same
    rw [turns, if_pos done, List.append_nil] at placed
    obtain ⟨input, mates, -, holds⟩ := named.supplyTurns_placed placed
    exact ⟨input, mates, holds⟩
  | cons first rest ih =>
    obtain ⟨outputIndex, packet⟩ := first
    rw [updateMultistreamSource] at updated
    rw [turns] at placed
    split at updated
    next done =>
      obtain rfl := Option.some.inj updated
      rw [if_pos done, List.append_nil] at placed
      obtain ⟨input, mates, -, holds⟩ := named.supplyTurns_placed placed
      exact ⟨input, mates, holds⟩
    next more =>
      simp only [Option.ite_none_right_eq_some] at updated
      obtain ⟨less, updated⟩ := updated
      have further := named.supplyCached.cachePulled less packet
      simp only [if_neg more, if_pos less, List.filterMap_append, List.mem_append] at placed
      rcases placed with now | afterwards
      · obtain ⟨input, mates, -, holds⟩ := named.supplyTurns_placed now
        exact ⟨input, mates, further.held rest updated holds⟩
      · exact ih further updated afterwards

def Starved (graph : PreparedGraph) (stage : Nat) (entry : Nat × Packet) : Prop :=
  ∃ allocatePayloadBuffer count,
    graph.copyAllocator ⟨stage, entry.1⟩ = some allocatePayloadBuffer ∧
      entry.2.size ≠ 0 ∧ allocatePayloadBuffer count = false

theorem supplyTurns_starved {entry : Nat × Packet}
    (dropped : entry ∈ (state.supplyTurns graph stage outputs).filterMap Turn.drop) :
    Starved graph stage entry := by
  rcases supplyCached_cases graph state stage outputs with ⟨quiet, -⟩ |
    ⟨outputIndex, packet, -, ⟨turn, -⟩ | ⟨turn, starved, -⟩⟩
  · simp [quiet] at dropped
  · simp [turn, Turn.drop] at dropped
  · obtain rfl : entry = (outputIndex, packet) := by simpa [turn, Turn.drop] using dropped
    obtain ⟨allocatePayloadBuffer, copies, nonempty, noBuffer⟩ := starves_eq_true.mp starved
    exact ⟨allocatePayloadBuffer, _, copies, nonempty, noBuffer⟩

theorem turns_starved (pulled : List (Nat × Packet)) {entry : Nat × Packet}
    (dropped : entry ∈ (turns graph stage outputs pulled state).filterMap Turn.drop) :
    Starved graph stage entry := by
  induction pulled generalizing state with
  | nil =>
    rcases turns_cases graph stage outputs [] state with same | ⟨_, _, _, more, -⟩
    · rw [same] at dropped
      exact supplyTurns_starved dropped
    · cases more
  | cons first rest ih =>
    rcases turns_cases graph stage outputs (first :: rest) state with same |
      ⟨outputIndex, packet, later, more, less, same⟩
    · rw [same] at dropped
      exact supplyTurns_starved dropped
    · obtain ⟨-, rfl⟩ := List.cons.inj more
      rw [same, List.filterMap_append, List.mem_append] at dropped
      rcases dropped with now | afterwards
      · exact supplyTurns_starved now
      · exact ih afterwards

theorem leave_length (taken : List Turn) :
    (taken.filterMap Turn.leave).length =
      (taken.filterMap Turn.place).length + (taken.filterMap Turn.drop).length := by
  induction taken with
  | nil => rfl
  | cons turn rest ih =>
    cases turn with
    | pulled outputIndex packet => exact ih
    | placed outputIndex packet =>
      simp only [List.filterMap_cons, Turn.leave, Turn.place, Turn.drop, List.length_cons, ih]
      omega
    | dropped outputIndex packet =>
      simp only [List.filterMap_cons, Turn.leave, Turn.place, Turn.drop, List.length_cons, ih]
      omega

theorem Named.placed_length (pulled : List (Nat × Packet))
    (named : Named graph stage outputs state) (mated : ∀ outputIndex input,
      graph.connections.outputMate ⟨stage, outputIndex⟩ = some input → outputIndex < outputs) :
    ((turns graph stage outputs pulled state).filterMap Turn.place).length ≤ outputs := by
  have inside : (((turns graph stage outputs pulled state).filterMap Turn.place).map
      Prod.fst) ⊆ List.range outputs := by
    intro index member
    obtain ⟨entry, placed, rfl⟩ := List.mem_map.mp member
    obtain ⟨input, mates, -⟩ := named.placed_free pulled placed
    exact List.mem_range.mpr (mated entry.1 input mates)
  have few := List.Nodup.length_le_of_subset (named.placed_nodup pulled) inside
  simpa using few

theorem cached_length (state : State) (stage : Nat) : (state.cached stage).length ≤ 1 := by
  cases isCached : (state.multistreamSource stage).cachedPacket <;> simp [cached, isCached]

def flushMultistreamSource (state : State) (stage index : Nat) : State :=
  (state.setOutputDemand ⟨stage, index⟩ .negative).setMultistreamSource stage
    { cachedPacket := none
      cachedPacketOutputIndex := 0
      endedStreams := 0 }

end State

namespace MultistreamRun

open Engine.State

structure Session where
  state : State
  taken : List Turn := []

inductive Event where
  | update (pulled : List (Nat × Packet))
  | flushOutput (index : Nat)
  | elsewhere (next : State)

def step (graph : PreparedGraph) (stage outputs : Nat) (session : Session) :
    Event → Option Session
  | .update pulled =>
    (updateMultistreamSource graph stage outputs pulled session.state).map fun next =>
      { state := next
        taken := session.taken ++ turns graph stage outputs pulled session.state }
  | .flushOutput index =>
    if index < outputs then some { state := session.state.flushMultistreamSource stage index }
    else none
  | .elsewhere next =>
    if next.multistreamSource stage = session.state.multistreamSource stage then
      some { session with state := next }
    else none

def firstPackets (source : Nat → Nat × Packet) (count : Nat) : List (Nat × Packet) :=
  (List.range count).map source

structure Inv (graph : PreparedGraph) (stage outputs : Nat) (session : Session) : Prop where
  named : Named graph stage outputs session.state
  conserved : session.taken.filterMap Turn.pull =
    session.taken.filterMap Turn.leave ++ session.state.cached stage
  starved : ∀ entry ∈ session.taken.filterMap Turn.drop, Starved graph stage entry

variable {graph : PreparedGraph} {stage outputs : Nat} {session next : Session}

theorem named_after (pulled : List (Nat × Packet)) {state next : State}
    (named : Named graph stage outputs state)
    (updated : updateMultistreamSource graph stage outputs pulled state = some next) :
    Named graph stage outputs next := by
  apply updateMultistreamSource_keeps (Named graph stage outputs) _ _ named updated
  · exact fun _ named => named.supplyCached
  · exact fun _ _ packet less named => named.cachePulled less packet

theorem Inv.step (inv : Inv graph stage outputs session) {event : Event}
    (taken : MultistreamRun.step graph stage outputs session event = some next) :
    Inv graph stage outputs next := by
  cases event with
  | update pulled =>
    obtain ⟨after, updated, rfl⟩ := Option.map_eq_some_iff.mp taken
    refine ⟨named_after pulled inv.named updated, ?_, ?_⟩
    · have conserved := turns_conserve pulled updated
      simp only [List.filterMap_append, inv.conserved, List.append_assoc, conserved]
    · simp only [List.filterMap_append, List.mem_append]
      rintro entry (before | now)
      · exact inv.starved entry before
      · exact turns_starved pulled now
  | flushOutput index =>
    simp only [MultistreamRun.step, Option.ite_none_right_eq_some] at taken
    obtain rfl := Option.some.inj taken.2
    have none : (session.state.flushMultistreamSource stage index).cached stage = [] := by
      simp [cached, flushMultistreamSource, setMultistreamSource]
    refine ⟨⟨inv.named.mates, ?_⟩, ?_, nofun⟩
    · simp [none]
    · simp [none]
  | elsewhere other =>
    simp only [MultistreamRun.step, Option.ite_none_right_eq_some] at taken
    obtain ⟨same, taken⟩ := taken
    obtain rfl := Option.some.inj taken
    have cachedSame : other.cached stage = session.state.cached stage := by
      simp only [cached, same]
    refine ⟨⟨inv.named.mates, ?_⟩, ?_, inv.starved⟩
    · rw [cachedSame]
      exact inv.named.cached
    · rw [cachedSame]
      exact inv.conserved

structure Updates (graph : PreparedGraph) (stage : Nat) (taken : List Turn) (next : State) :
    Prop where
  pulls : (taken.filterMap Turn.pull).length ≤
    (taken.filterMap Turn.place).length + (taken.filterMap Turn.drop).length + 1
  once : ((taken.filterMap Turn.place).map Prod.fst).Nodup
  placed : ∀ entry ∈ taken.filterMap Turn.place, ∃ input,
    graph.connections.outputMate ⟨stage, entry.1⟩ = some input ∧
      next.packetFromUpstream input = some entry.2
  starved : ∀ entry ∈ taken.filterMap Turn.drop, Starved graph stage entry

theorem Inv.updates (inv : Inv graph stage outputs session) {pulled : List (Nat × Packet)}
    {after : State}
    (updated : updateMultistreamSource graph stage outputs pulled session.state = some after) :
    Updates graph stage (turns graph stage outputs pulled session.state) after := by
  refine ⟨?_, inv.named.placed_nodup pulled,
    fun entry placed => inv.named.placed_held pulled updated placed,
    fun entry dropped => turns_starved pulled dropped⟩
  have conserved := congrArg List.length (turns_conserve pulled updated)
  have few := cached_length after stage
  simp only [List.length_append, leave_length] at conserved
  omega

theorem Inv.terminates (inv : Inv graph stage outputs session)
    (mated : ∀ outputIndex input,
      graph.connections.outputMate ⟨stage, outputIndex⟩ = some input → outputIndex < outputs)
    (source : Nat → Nat × Packet) (named : ∀ count, (source count).1 < outputs)
    (starvations : Nat)
    (seldom : ∀ count, ((turns graph stage outputs (firstPackets source count)
      session.state).filterMap Turn.drop).length ≤ starvations) :
    ∃ count ≤ outputs + starvations + 1, ∃ after, updateMultistreamSource graph stage outputs
      (firstPackets source count) session.state = some after := by
  refine ⟨outputs + starvations + 1, Nat.le_refl _, ?_⟩
  cases updated : updateMultistreamSource graph stage outputs
      (firstPackets source (outputs + starvations + 1)) session.state with
  | some after => exact ⟨after, rfl⟩
  | none =>
    have allNamed : ∀ entry ∈ firstPackets source (outputs + starvations + 1),
        entry.1 < outputs := by
      intro entry member
      obtain ⟨count, -, rfl⟩ := List.mem_map.mp member
      exact named count
    have conserved := congrArg List.length (unfinished_conserve _ allNamed updated)
    have placed := inv.named.placed_length
      (firstPackets source (outputs + starvations + 1)) mated
    have dropped := seldom (outputs + starvations + 1)
    simp only [List.length_append, leave_length] at conserved
    have all : (firstPackets source (outputs + starvations + 1)).length =
        outputs + starvations + 1 := by simp [firstPackets]
    omega

-- In every run, every packet pulled since the last flush is cached, or was placed in the mate of
-- the output that the source named, or was dropped for want of a copy. An update ends unless
-- copies fail for ever.
theorem pulled_packets_accounted (graph : PreparedGraph) (stage outputs : Nat)
    (present : stage ∈ graph.connections.stages)
    (kind : graph.connections.kind stage = .multistreamSource outputs) (start : State)
    (fresh : start.multistreamSource stage = { }) (events : List Event) (session : Session)
    (reached : Runs.run (step graph stage outputs) { state := start } events = some session) :
    session.taken.filterMap Turn.pull =
        session.taken.filterMap Turn.leave ++ session.state.cached stage ∧
      (∀ entry ∈ session.taken.filterMap Turn.drop, Starved graph stage entry) ∧
      (∀ pulled after,
        updateMultistreamSource graph stage outputs pulled session.state = some after →
          Updates graph stage (turns graph stage outputs pulled session.state) after) ∧
      ∀ source : Nat → Nat × Packet, (∀ count, (source count).1 < outputs) →
        ∀ starvations, (∀ count, ((turns graph stage outputs (firstPackets source count)
            session.state).filterMap Turn.drop).length ≤ starvations) →
          ∃ count ≤ outputs + starvations + 1, ∃ after,
            updateMultistreamSource graph stage outputs (firstPackets source count)
              session.state = some after := by
  have mated (outputIndex : Nat) (input : InputRef)
      (mates : graph.connections.outputMate ⟨stage, outputIndex⟩ = some input) :
      outputIndex < outputs := by
    have less := (graph.mated.valid _ input mates).1.2
    rw [kind] at less
    exact less
  have begins : Inv graph stage outputs { state := start } := by
    have none : start.cached stage = [] := by simp [cached, fresh]
    refine ⟨⟨fun outputIndex less => output_mate present outputIndex ?_, ?_⟩, ?_, nofun⟩
    · rw [kind]
      exact less
    · simp [none]
    · simp [none]
  have inv : Inv graph stage outputs session :=
    Runs.invariant_of_run (step graph stage outputs) (Inv graph stage outputs)
      (fun _ _ _ before taken => before.step taken) _ session events begins reached
  exact ⟨inv.conserved, inv.starved, fun pulled after updated => inv.updates updated,
    fun source named starvations seldom => inv.terminates mated source named starvations seldom⟩

def streams : Connections where
  stages := [0, 1, 2]
  sources := [0]
  sinks := [1, 2]
  kind stage := if stage = 0 then .multistreamSource 2 else .activeSink
  inputMate input :=
    if input = ⟨1, 0⟩ then some ⟨0, 0⟩ else if input = ⟨2, 0⟩ then some ⟨0, 1⟩ else none
  outputMate output :=
    if output = ⟨0, 0⟩ then some ⟨1, 0⟩ else if output = ⟨0, 1⟩ then some ⟨2, 0⟩ else none

theorem streams_outputMate {output : OutputRef} {input : InputRef}
    (mates : streams.outputMate output = some input) :
    output = ⟨0, 0⟩ ∧ input = ⟨1, 0⟩ ∨ output = ⟨0, 1⟩ ∧ input = ⟨2, 0⟩ := by
  simp only [streams] at mates
  split at mates
  next first => exact .inl ⟨first, (Option.some.inj mates).symm⟩
  next =>
    split at mates
    next second => exact .inr ⟨second, (Option.some.inj mates).symm⟩
    next => cases mates

theorem streams_inputMate {output : OutputRef} {input : InputRef}
    (mates : streams.inputMate input = some output) :
    output = ⟨0, 0⟩ ∧ input = ⟨1, 0⟩ ∨ output = ⟨0, 1⟩ ∧ input = ⟨2, 0⟩ := by
  simp only [streams] at mates
  split at mates
  next first => exact .inl ⟨(Option.some.inj mates).symm, first⟩
  next =>
    split at mates
    next second => exact .inr ⟨(Option.some.inj mates).symm, second⟩
    next => cases mates

theorem streams_mated : streams.Mated := by
  constructor
  · intro output input
    constructor
    · intro mates
      obtain ⟨rfl, rfl⟩ | ⟨rfl, rfl⟩ := streams_outputMate mates <;> rfl
    · intro mates
      obtain ⟨rfl, rfl⟩ | ⟨rfl, rfl⟩ := streams_inputMate mates <;> rfl
  · intro output input mates
    obtain ⟨rfl, rfl⟩ | ⟨rfl, rfl⟩ := streams_outputMate mates <;> decide

theorem streams_connected : streams.FullyConnected := by
  constructor
  · rintro ⟨stage, index⟩ ⟨present, less⟩
    simp only [streams, List.mem_cons, List.not_mem_nil, or_false] at present
    obtain rfl | rfl | rfl := present
    · simp [streams, StageKind.inputCount] at less
    · obtain rfl : index = 0 := by simpa [streams, StageKind.inputCount] using less
      rfl
    · obtain rfl : index = 0 := by simpa [streams, StageKind.inputCount] using less
      rfl
  · rintro ⟨stage, index⟩ ⟨present, less⟩
    simp only [streams, List.mem_cons, List.not_mem_nil, or_false] at present
    obtain rfl | rfl | rfl := present
    · have either : index = 0 ∨ index = 1 := by
        simp only [streams, StageKind.outputCount, if_true] at less
        omega
      rcases either with rfl | rfl <;> rfl
    · simp [streams, StageKind.outputCount] at less
    · simp [streams, StageKind.outputCount] at less

def streamGraph (copyAllocator : Option (Nat → Bool)) : PreparedGraph where
  connections := streams
  mated := streams_mated
  connected := streams_connected
  copyAllocator output := if output = ⟨0, 0⟩ then copyAllocator else none
  transforms output kind := by
    rw [if_neg]
    rintro rfl
    cases kind
  inputs output input mates kind := by
    obtain ⟨rfl, rfl⟩ | ⟨rfl, rfl⟩ := streams_outputMate mates
    · cases kind
    · cases kind

def wanting : State := { demand := fun _ => .positive }

theorem second_packet_cached :
    ∃ session, Runs.run (step (streamGraph (some fun _ => true)) 0 2) { state := wanting }
        [.update [(0, onePacket), (0, onePacket)]] = some session ∧
      session.state.cached 0 = [(0, onePacket)] ∧
      session.taken.filterMap Turn.pull =
        session.taken.filterMap Turn.leave ++ session.state.cached 0 := by
  refine ⟨_, rfl, rfl, ?_⟩
  exact (pulled_packets_accounted (streamGraph (some fun _ => true)) 0 2 (by decide) rfl wanting rfl
    [.update [(0, onePacket), (0, onePacket)]] _ rfl).1

structure Endless (state : State) : Prop where
  demand : state.demand = fun _ => .positive
  slots : state.packetFromUpstream = fun _ => none
  ended : (state.multistreamSource 0).endedStreams = 0
  first : (state.multistreamSource 0).cachedPacketOutputIndex = 0
  cached : (state.multistreamSource 0).cachedPacket = none ∨
    (state.multistreamSource 0).cachedPacket = some onePacket

theorem Endless.supplyCached {state : State} (endless : Endless state) :
    Endless (state.supplyCached (streamGraph (some fun _ => false)) 0 2) ∧
      ((state.supplyCached (streamGraph (some fun _ => false)) 0 2).multistreamSource
        0).cachedPacket = none := by
  have wanted (index : Nat) :
      state.outputDemand (streamGraph (some fun _ => false)) ⟨0, index⟩ = .positive := by
    have free : state.mateHolds (streamGraph (some fun _ => false)) ⟨0, index⟩ = false := by
      simp only [mateHolds, endless.slots]
      split <;> rfl
    simp [outputDemand, endless.demand, free]
  rcases endless.cached with empty | full
  · have same : state.supplyCached (streamGraph (some fun _ => false)) 0 2 = state := by
      simp only [State.supplyCached, empty]
    rw [same]
    exact ⟨endless, empty⟩
  · have positive : hasPositiveDemand (fun _ => .positive) 2 = true := by decide
    have dropped : state.supplyPacket (streamGraph (some fun _ => false)) ⟨0, 0⟩ onePacket =
        (state.noteSupply (streamGraph (some fun _ => false)) ⟨0, 0⟩).countAllocation ⟨0, 0⟩ := rfl
    have sent : state.supplyCached (streamGraph (some fun _ => false)) 0 2 =
        ((state.noteSupply (streamGraph (some fun _ => false)) ⟨0, 0⟩).countAllocation
          ⟨0, 0⟩).setMultistreamSource 0
            { state.multistreamSource 0 with cachedPacket := none } := by
      simp only [State.supplyCached, full, wanted, endless.first, dropped]
      rw [if_pos ⟨positive, by decide⟩]
    rw [sent]
    exact ⟨⟨endless.demand, endless.slots, endless.ended, endless.first, .inl rfl⟩, rfl⟩

theorem Endless.unfinished (count : Nat) {state : State} (endless : Endless state) :
    updateMultistreamSource (streamGraph (some fun _ => false)) 0 2
      (List.replicate count (0, onePacket)) state = none := by
  induction count generalizing state with
  | zero =>
    obtain ⟨still, none⟩ := endless.supplyCached
    simp [updateMultistreamSource, none, still.ended]
  | succ count ih =>
    obtain ⟨still, none⟩ := endless.supplyCached
    rw [List.replicate_succ, updateMultistreamSource, if_neg (by simp [none, still.ended])]
    simp only [if_pos (show 0 < 2 by decide)]
    apply ih
    refine ⟨still.demand, still.slots, ?_, rfl, .inr rfl⟩
    exact still.ended

-- Both packets of the first stream are dropped, and four packets are pulled where two are placed. A
-- stream that goes on for ever is pulled for ever.
theorem starved_copies_lose_packets :
    (∃ next, updateMultistreamSource (streamGraph (some fun _ => false)) 0 2
        [(0, onePacket), (0, onePacket), (1, ⟨0, true, []⟩), (0, ⟨0, true, []⟩)] wanting =
          some next ∧
      next.cached 0 = [] ∧
      (turns (streamGraph (some fun _ => false)) 0 2
        [(0, onePacket), (0, onePacket), (1, ⟨0, true, []⟩), (0, ⟨0, true, []⟩)]
          wanting).filterMap Turn.place = [(1, ⟨0, true, []⟩), (0, ⟨0, true, []⟩)]) ∧
      ∀ count, updateMultistreamSource (streamGraph (some fun _ => false)) 0 2
        (List.replicate count (0, onePacket)) wanting = none := by
  refine ⟨⟨_, rfl, rfl, rfl⟩, fun count => ?_⟩
  exact Endless.unfinished count ⟨rfl, rfl, rfl, rfl, .inl rfl⟩

end MultistreamRun

end MojoMedia.Framework.Engine
