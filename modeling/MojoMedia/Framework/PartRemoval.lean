import Mathlib.Logic.Relation
import MojoMedia.Framework.MateSymmetry

set_option autoImplicit false

-- The loop means to visit the parts at the other ends of the connections, but queues the parts
-- that own the connectors.
namespace MojoMedia.Framework.Connections

variable {graph next : Connections}

theorem disconnectOutput_stages {argument : OutputArgument}
    (done : graph.disconnectOutput argument = some next) : next.stages = graph.stages := by
  simp only [Connections.disconnectOutput, Option.bind_eq_bind, Option.bind_eq_some_iff] at done
  obtain ⟨output, -, done⟩ := done
  split at done
  · cases done
    rfl
  · split at done
    · cases done
    · obtain ⟨again, -, done⟩ := Option.bind_eq_some_iff.mp done
      cases done
      rfl

theorem disconnectInput_stages {argument : InputArgument}
    (done : graph.disconnectInput argument = some next) : next.stages = graph.stages := by
  simp only [Connections.disconnectInput, Option.bind_eq_bind, Option.bind_eq_some_iff] at done
  obtain ⟨input, -, done⟩ := done
  split at done
  · cases done
    rfl
  · split at done
    · cases done
    · obtain ⟨again, -, done⟩ := Option.bind_eq_some_iff.mp done
      cases done
      rfl

theorem stages_of_each {one : Connections → Nat → Option Connections}
    (loop : Connections → List Nat → Option Connections)
    (empty : ∀ graph, loop graph [] = some graph)
    (unfolds : ∀ graph index rest,
      loop graph (index :: rest) = (one graph index).bind fun first => loop first rest)
    (keeps : ∀ graph index first, one graph index = some first → first.stages = graph.stages)
    {indices : List Nat} (done : loop graph indices = some next) :
    next.stages = graph.stages := by
  induction indices generalizing graph with
  | nil =>
    obtain rfl := Option.some.inj ((empty graph).symm.trans done)
    rfl
  | cons index rest ih =>
    rw [unfolds, Option.bind_eq_some_iff] at done
    obtain ⟨first, released, done⟩ := done
    exact (ih done).trans (keeps graph index first released)

theorem disconnectInputs_stages {stage : Nat} {indices : List Nat}
    (done : graph.disconnectInputs stage indices = some next) : next.stages = graph.stages := by
  apply stages_of_each (fun graph => graph.disconnectInputs stage) (fun _ => rfl)
    (fun _ _ _ => rfl) _ done
  intro before index first released
  split at released
  · exact disconnectInput_stages released
  · rw [Option.some.inj released]

theorem disconnectOutputs_stages {stage : Nat} {indices : List Nat}
    (done : graph.disconnectOutputs stage indices = some next) : next.stages = graph.stages := by
  apply stages_of_each (fun graph => graph.disconnectOutputs stage) (fun _ => rfl)
    (fun _ _ _ => rfl) _ done
  intro before index first released
  split at released
  · exact disconnectOutput_stages released
  · rw [Option.some.inj released]

theorem removePart_stages {part : Nat} (removed : graph.removePart part = some next) :
    part ∈ graph.stages ∧ next.stages = graph.stages.filter (· ≠ part) := by
  simp only [Connections.removePart] at removed
  split at removed
  next present =>
    simp only [Option.bind_eq_bind, Option.bind_eq_some_iff] at removed
    obtain ⟨first, inputs, second, outputs, done⟩ := removed
    cases done
    refine ⟨present, ?_⟩
    simp only [Connections.delete, disconnectOutputs_stages outputs, disconnectInputs_stages inputs]
  next => cases removed

def inputParts (graph : Connections) (part : Nat) : List Nat :=
  (List.range (graph.kind part).inputCount).map fun index => (InputRef.mk part index).stage

def outputParts (graph : Connections) (part : Nat) : List Nat :=
  (List.range (graph.kind part).outputCount).map fun index => (OutputRef.mk part index).stage

-- The parts are removed in the order of the second component.
def removeAll (graph : Connections) (toRemove : List Nat) : Option (Connections × List Nat) :=
  match toRemove with
  | [] => some (graph, [])
  | part :: rest =>
    match _removed : graph.removePart part with
    | none => none
    | some next =>
      (next.removeAll (rest ++ graph.inputParts part ++ graph.outputParts part)).map
        fun (last, later) => (last, part :: later)
termination_by graph.stages.length
decreasing_by
  obtain ⟨present, stages⟩ := removePart_stages _removed
  rw [stages]
  exact List.length_filter_lt_length_iff_exists.mpr ⟨part, present, by simp⟩

def removePartsConnectedToPart (graph : Connections) (part : Nat) :
    Option (Connections × List Nat) :=
  graph.removeAll [part]

def removePartsConnectedToOutput (graph : Connections) (argument : OutputArgument) :
    Option (Connections × List Nat) := do
  let output ← graph.readOutput argument
  match graph.outputMate output with
  | none => some (graph, [])
  | some mate =>
    let cut ← graph.disconnectOutput argument
    cut.removePartsConnectedToPart mate.stage

def removePartsConnectedToInput (graph : Connections) (argument : InputArgument) :
    Option (Connections × List Nat) := do
  let input ← graph.readInput argument
  match graph.inputMate input with
  | none => some (graph, [])
  | some mate =>
    let cut ← graph.disconnectInput argument
    cut.removePartsConnectedToPart mate.stage

def Adjacent (graph : Connections) (part other : Nat) : Prop :=
  ∃ output input, graph.outputMate output = some input ∧
    (output.stage = part ∧ input.stage = other ∨ output.stage = other ∧ input.stage = part)

def Connected (graph : Connections) : Nat → Nat → Prop := Relation.ReflTransGen graph.Adjacent

structure Sweeps (graph : Connections) (part : Nat) (next : Connections) (removed : List Nat) :
    Prop where
  exactly : ∀ stage, stage ∈ removed ↔ graph.Connected part stage
  once : removed.Nodup
  stages : next.stages = graph.stages.filter (· ∉ removed)
  sources : next.sources = graph.sources.filter (· ∉ removed)
  sinks : next.sinks = graph.sinks.filter (· ∉ removed)
  kind : next.kind = graph.kind
  inputMate : ∀ input, input.stage ∉ removed → next.inputMate input = graph.inputMate input
  outputMate : ∀ output, output.stage ∉ removed → next.outputMate output = graph.outputMate output
  prepared : ∀ input, input.stage ∉ removed → next.prepared input = graph.prepared input

def SweepsPart (graph : Connections) (part : Nat) : Prop :=
  ∃ next removed, graph.removePartsConnectedToPart part = some (next, removed) ∧
    graph.Sweeps part next removed

def SweepsOutput (graph : Connections) (argument : OutputArgument) (output : OutputRef) : Prop :=
  ∃ next removed, graph.removePartsConnectedToOutput argument = some (next, removed) ∧
    match graph.outputMate output with
    | none => next = graph ∧ removed = []
    | some input => (graph.unlink output input).Sweeps input.stage next removed

def SweepsInput (graph : Connections) (argument : InputArgument) (input : InputRef) : Prop :=
  ∃ next removed, graph.removePartsConnectedToInput argument = some (next, removed) ∧
    match graph.inputMate input with
    | none => next = graph ∧ removed = []
    | some output => (graph.unlink output input).Sweeps output.stage next removed

theorem inputParts_eq (graph : Connections) (part : Nat) :
    graph.inputParts part = List.replicate (graph.kind part).inputCount part := by
  simp [inputParts, List.map_const']

theorem outputParts_eq (graph : Connections) (part : Nat) :
    graph.outputParts part = List.replicate (graph.kind part).outputCount part := by
  simp [outputParts, List.map_const']

theorem removeAll_nil (graph : Connections) : graph.removeAll [] = some (graph, []) := by
  rw [removeAll]

theorem removeAll_absent {part : Nat} (absent : part ∉ graph.stages) (rest : List Nat) :
    graph.removeAll (part :: rest) = none := by
  rw [removeAll]
  split
  next => rfl
  next next removed => exact absurd (removePart_stages removed).1 absent

theorem removePartsConnectedToPart_none {part : Nat}
    (connectors : (graph.kind part).inputCount + (graph.kind part).outputCount ≠ 0) :
    graph.removePartsConnectedToPart part = none := by
  rw [removePartsConnectedToPart, removeAll]
  split
  next => rfl
  next next removed =>
    have gone : part ∉ next.stages := by
      rw [(removePart_stages removed).2]
      simp
    obtain ⟨more, queued⟩ : ∃ more,
        [] ++ graph.inputParts part ++ graph.outputParts part = part :: more := by
      rw [inputParts_eq, outputParts_eq, List.nil_append, List.replicate_append_replicate]
      obtain ⟨count, isCount⟩ := Nat.exists_eq_succ_of_ne_zero connectors
      exact ⟨_, by rw [isCount]; rfl⟩
    rw [queued, removeAll_absent gone]
    rfl

theorem removePartsConnectedToPart_lone {part : Nat} (present : part ∈ graph.stages)
    (inputs : (graph.kind part).inputCount = 0) (outputs : (graph.kind part).outputCount = 0) :
    graph.removePartsConnectedToPart part = some (graph.delete part, [part]) := by
  have done : graph.removePart part = some (graph.delete part) := by
    simp [Connections.removePart, present, inputs, outputs, Connections.disconnectInputs,
      Connections.disconnectOutputs]
  rw [removePartsConnectedToPart, removeAll]
  split
  next failed =>
    rw [done] at failed
    cases failed
  next next removed =>
    obtain rfl : graph.delete part = next := Option.some.inj (done.symm.trans removed)
    simp [inputParts_eq, outputParts_eq, inputs, outputs, removeAll_nil]

theorem Mated.connected_lone (mated : graph.Mated) {part stage : Nat}
    (inputs : (graph.kind part).inputCount = 0) (outputs : (graph.kind part).outputCount = 0) :
    graph.Connected part stage ↔ stage = part := by
  constructor
  · intro connected
    rcases Relation.ReflTransGen.cases_head connected with same | ⟨other, adjacent, -⟩
    · exact same.symm
    · obtain ⟨output, input, mates, ⟨here, -⟩ | ⟨-, here⟩⟩ := adjacent
      · have less := (mated.valid output input mates).1.2
        rw [here, outputs] at less
        cases less
      · have less := (mated.valid output input mates).2.2
        rw [here, inputs] at less
        cases less
  · rintro rfl
    exact .refl

theorem Mated.sweepsPart_iff (mated : graph.Mated) {part : Nat} (present : part ∈ graph.stages) :
    graph.SweepsPart part ↔
      (graph.kind part).inputCount = 0 ∧ (graph.kind part).outputCount = 0 := by
  constructor
  · rintro ⟨next, removed, returns, -⟩
    by_contra connectors
    rw [removePartsConnectedToPart_none (by omega)] at returns
    cases returns
  · rintro ⟨inputs, outputs⟩
    refine ⟨_, _, removePartsConnectedToPart_lone present inputs outputs, ?_⟩
    constructor
    · intro stage
      rw [mated.connected_lone inputs outputs, List.mem_singleton]
    · exact List.pairwise_singleton _ part
    · simp [Connections.delete]
    · simp [Connections.delete]
    · simp [Connections.delete]
    · rfl
    · intro input other
      simp_all [Connections.delete]
    · intro output other
      simp_all [Connections.delete]
    · intro input other
      simp_all [Connections.delete]

theorem Mated.removePartsConnectedToOutput_none (mated : graph.Mated) {argument : OutputArgument}
    {output : OutputRef} {input : InputRef} (read : graph.readOutput argument = some output)
    (mates : graph.outputMate output = some input) :
    graph.removePartsConnectedToOutput argument = none := by
  by_contra returns
  obtain ⟨result, returns⟩ := Option.ne_none_iff_exists'.mp returns
  simp only [removePartsConnectedToOutput, read, Option.bind_eq_bind, Option.bind_some, mates,
    Option.bind_eq_some_iff] at returns
  obtain ⟨cut, disconnected, returns⟩ := returns
  have kept := (mated.disconnectOutput disconnected).2.kind
  have connector := (mated.valid output input mates).2.2
  rw [removePartsConnectedToPart_none (by rw [kept]; omega)] at returns
  cases returns

theorem Mated.sweepsOutput_iff (mated : graph.Mated) {argument : OutputArgument}
    {output : OutputRef} (read : graph.readOutput argument = some output) :
    graph.SweepsOutput argument output ↔ graph.outputMate output = none := by
  cases mates : graph.outputMate output with
  | none =>
    refine iff_of_true ⟨graph, [], ?_, ?_⟩ rfl
    · simp [removePartsConnectedToOutput, read, mates]
    · simp [mates]
  | some input =>
    refine iff_of_false ?_ nofun
    rintro ⟨next, removed, returns, -⟩
    rw [mated.removePartsConnectedToOutput_none read mates] at returns
    cases returns

theorem Mated.sweepsInput_iff (mated : graph.Mated) {argument : InputArgument}
    {input : InputRef} (read : graph.readInput argument = some input) :
    graph.SweepsInput argument input ↔ graph.inputMate input = none := by
  cases mates : graph.inputMate input with
  | none =>
    refine iff_of_true ⟨graph, [], ?_, ?_⟩ rfl
    · simp [removePartsConnectedToInput, read, mates]
    · simp [mates]
  | some output =>
    refine iff_of_false ?_ nofun
    rintro ⟨next, removed, returns, -⟩
    simp only [removePartsConnectedToInput, read, Option.bind_eq_bind, Option.bind_some, mates,
      Option.bind_eq_some_iff] at returns
    obtain ⟨cut, disconnected, returns⟩ := returns
    have kept := (mated.disconnectInput disconnected).2.kind
    have connector := (mated.valid output input ((mated.symmetric _ _).mpr mates)).1.2
    rw [removePartsConnectedToPart_none (by rw [kept]; omega)] at returns
    cases returns

-- The parts connected to a part are removed, each of them once, if the part has no connectors.
-- Those connected to an output or an input are if nothing is.
theorem removes_connected_parts_iff (graph : Connections) (mated : graph.Mated) :
    (∀ part ∈ graph.stages, graph.SweepsPart part ↔
      (graph.kind part).inputCount = 0 ∧ (graph.kind part).outputCount = 0) ∧
    (∀ argument output, graph.readOutput argument = some output →
      (graph.SweepsOutput argument output ↔ graph.outputMate output = none)) ∧
    ∀ argument input, graph.readInput argument = some input →
      (graph.SweepsInput argument input ↔ graph.inputMate input = none) := by
  refine ⟨?_, ?_, ?_⟩
  · intro part present
    exact mated.sweepsPart_iff present
  · intro argument output read
    exact mated.sweepsOutput_iff read
  · intro argument input read
    exact mated.sweepsInput_iff read

def silentSource : Connections where
  stages := [0]
  sources := [0]
  sinks := [0]
  kind _ := .multistreamSource 0

theorem silent_source_removed : silentSource.SweepsPart 0 :=
  ((removes_connected_parts_iff silentSource ⟨by simp [silentSource], by simp [silentSource]⟩).1 0
    (by decide)).mpr ⟨rfl, rfl⟩

theorem chain_not_removed :
    chain.Unprepared ∧ chain.removePartsConnectedToPart 1 = none ∧ ¬ chain.SweepsPart 1 ∧
      ¬ chain.SweepsOutput (.held ⟨0, 0⟩) ⟨0, 0⟩ ∧ ¬ chain.SweepsInput (.held ⟨2, 0⟩) ⟨2, 0⟩ := by
  refine ⟨fun _ => rfl, removePartsConnectedToPart_none (by decide), ?_, ?_, ?_⟩
  · rw [chain_mated.sweepsPart_iff (by decide)]
    decide
  · rw [chain_mated.sweepsOutput_iff rfl]
    nofun
  · rw [chain_mated.sweepsInput_iff rfl]
    nofun

end MojoMedia.Framework.Connections
