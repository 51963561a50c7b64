import Mathlib.Logic.Function.Basic
import MojoMedia.Shared.Runs

set_option autoImplicit false

-- A stage is known by its address. A function that would go on with a reference that is not valid
-- has no result.
namespace MojoMedia.Framework

inductive StageKind where
  | activeSource
  | multistreamSource (streamCount : Nat)
  | activeMultistreamSource (streamCount : Nat)
  | transform
  | activeSink
  | activeMultistreamSink (inputCount : Nat)
  deriving Repr, DecidableEq

def StageKind.inputCount : StageKind → Nat
  | .activeSource | .multistreamSource _ | .activeMultistreamSource _ => 0
  | .transform | .activeSink => 1
  | .activeMultistreamSink inputCount => inputCount

def StageKind.outputCount : StageKind → Nat
  | .activeSource | .transform => 1
  | .multistreamSource streamCount | .activeMultistreamSource streamCount => streamCount
  | .activeSink | .activeMultistreamSink _ => 0

structure InputRef where
  stage : Nat
  index : Nat
  deriving Repr, DecidableEq

structure OutputRef where
  stage : Nat
  index : Nat
  deriving Repr, DecidableEq

-- The stages of a `Graph`, and the mates and the prepared state of their connectors.
structure Connections where
  stages : List Nat := []
  sources : List Nat := []
  sinks : List Nat := []
  kind : Nat → StageKind := fun _ => .transform
  inputMate : InputRef → Option OutputRef := fun _ => none
  outputMate : OutputRef → Option InputRef := fun _ => none
  prepared : InputRef → Bool := fun _ => false

namespace Connections

def ValidInput (graph : Connections) (input : InputRef) : Prop :=
  input.stage ∈ graph.stages ∧ input.index < (graph.kind input.stage).inputCount

def ValidOutput (graph : Connections) (output : OutputRef) : Prop :=
  output.stage ∈ graph.stages ∧ output.index < (graph.kind output.stage).outputCount

instance (graph : Connections) (input : InputRef) : Decidable (graph.ValidInput input) :=
  inferInstanceAs (Decidable (_ ∧ _))

instance (graph : Connections) (output : OutputRef) : Decidable (graph.ValidOutput output) :=
  inferInstanceAs (Decidable (_ ∧ _))

-- `mate()` returns a reference to the mate the connector holds, so a caller may pass it on, and
-- it then changes with the connector.
inductive InputArgument where
  | held (input : InputRef)
  | mateOf (output : OutputRef)
  deriving Repr, DecidableEq

inductive OutputArgument where
  | held (output : OutputRef)
  | mateOf (input : InputRef)
  deriving Repr, DecidableEq

def readInput (graph : Connections) : InputArgument → Option InputRef
  | .held input => if graph.ValidInput input then some input else none
  | .mateOf output =>
    if graph.ValidOutput output then (graph.outputMate output).filter (graph.ValidInput ·) else none

def readOutput (graph : Connections) : OutputArgument → Option OutputRef
  | .held output => if graph.ValidOutput output then some output else none
  | .mateOf input =>
    if graph.ValidInput input then (graph.inputMate input).filter (graph.ValidOutput ·) else none

def setInputMate (graph : Connections) (input : InputRef) (mate : Option OutputRef) :
    Connections :=
  { graph with inputMate := Function.update graph.inputMate input mate }

def setOutputMate (graph : Connections) (output : OutputRef) (mate : Option InputRef) :
    Connections :=
  { graph with outputMate := Function.update graph.outputMate output mate }

def disconnectOutput (graph : Connections) (argument : OutputArgument) : Option Connections := do
  let output ← graph.readOutput argument
  match graph.outputMate output with
  | none => some graph
  | some mate =>
    if ¬ graph.ValidInput mate ∨ graph.prepared mate then none
    else
      let released := graph.setInputMate mate none
      -- What the argument refers to may have been the mate that is now gone.
      let output ← released.readOutput argument
      some (released.setOutputMate output none)

def disconnectInput (graph : Connections) (argument : InputArgument) : Option Connections := do
  let input ← graph.readInput argument
  match graph.inputMate input with
  | none => some graph
  | some mate =>
    if ¬ graph.ValidOutput mate ∨ graph.prepared input then none
    else
      let released := graph.setOutputMate mate none
      let input ← released.readInput argument
      some (released.setInputMate input none)

def connect (graph : Connections) (outputArgument : OutputArgument)
    (inputArgument : InputArgument) : Option Connections := do
  let output ← graph.readOutput outputArgument
  let _ ← graph.readInput inputArgument
  let graph ← (if (graph.outputMate output).isSome then graph.disconnectOutput outputArgument
    else some graph)
  let input ← graph.readInput inputArgument
  let graph ← (if (graph.inputMate input).isSome then graph.disconnectInput inputArgument
    else some graph)
  let output ← graph.readOutput outputArgument
  let input ← graph.readInput inputArgument
  if (graph.outputMate output).isSome ∨ (graph.inputMate input).isSome then none
  else some ((graph.setOutputMate output (some input)).setInputMate input (some output))

def onlyOutput (graph : Connections) (stage : Nat) : Option OutputRef :=
  if stage ∈ graph.stages ∧ (graph.kind stage).outputCount = 1 then some ⟨stage, 0⟩ else none

def onlyInput (graph : Connections) (stage : Nat) : Option InputRef :=
  if stage ∈ graph.stages ∧ (graph.kind stage).inputCount = 1 then some ⟨stage, 0⟩ else none

def connectParts (graph : Connections) (upstream downstream : Nat) : Option Connections := do
  let output ← graph.onlyOutput upstream
  let input ← graph.onlyInput downstream
  graph.connect (.held output) (.held input)

def add (graph : Connections) (stage : Nat) (kind : StageKind) : Option Connections :=
  if stage ∈ graph.stages then none
  else
    some { graph with
      stages := graph.stages ++ [stage]
      sources := if kind.inputCount = 0 then graph.sources ++ [stage] else graph.sources
      sinks := if kind.outputCount = 0 then graph.sinks ++ [stage] else graph.sinks
      kind := Function.update graph.kind stage kind }

def disconnectInputs (graph : Connections) (stage : Nat) : List Nat → Option Connections
  | [] => some graph
  | index :: rest => do
    let graph ← (if (graph.inputMate ⟨stage, index⟩).isSome then
        graph.disconnectInput (.held ⟨stage, index⟩)
      else some graph)
    graph.disconnectInputs stage rest

def disconnectOutputs (graph : Connections) (stage : Nat) : List Nat → Option Connections
  | [] => some graph
  | index :: rest => do
    let graph ← (if (graph.outputMate ⟨stage, index⟩).isSome then
        graph.disconnectOutput (.held ⟨stage, index⟩)
      else some graph)
    graph.disconnectOutputs stage rest

def delete (graph : Connections) (stage : Nat) : Connections :=
  { graph with
    stages := graph.stages.filter (· ≠ stage)
    sources := graph.sources.filter (· ≠ stage)
    sinks := graph.sinks.filter (· ≠ stage)
    inputMate := fun input => if input.stage = stage then none else graph.inputMate input
    outputMate := fun output => if output.stage = stage then none else graph.outputMate output
    prepared := fun input => if input.stage = stage then false else graph.prepared input }

def removePart (graph : Connections) (stage : Nat) : Option Connections :=
  if stage ∈ graph.stages then do
    let graph ← graph.disconnectInputs stage (List.range (graph.kind stage).inputCount)
    let graph ← graph.disconnectOutputs stage (List.range (graph.kind stage).outputCount)
    some (graph.delete stage)
  else none

inductive Call where
  | add (stage : Nat) (kind : StageKind)
  | connect (output : OutputArgument) (input : InputArgument)
  | connectParts (upstream downstream : Nat)
  | disconnectOutput (output : OutputArgument)
  | disconnectInput (input : InputArgument)
  | removePart (stage : Nat)
  deriving Repr, DecidableEq

def step (graph : Connections) : Call → Option Connections
  | .add stage kind => graph.add stage kind
  | .connect output input => graph.connect output input
  | .connectParts upstream downstream => graph.connectParts upstream downstream
  | .disconnectOutput output => graph.disconnectOutput output
  | .disconnectInput input => graph.disconnectInput input
  | .removePart stage => graph.removePart stage

end Connections

end MojoMedia.Framework
