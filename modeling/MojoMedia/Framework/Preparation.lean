import Mathlib.Data.Fintype.EquivFin
import Mathlib.Data.Fintype.Sets
import Mathlib.Logic.Relation
import Mathlib.Order.WellFounded
import MojoMedia.Framework.MateSymmetry

set_option autoImplicit false

namespace MojoMedia.Framework

variable {Allocator : Type}

structure Parts (Allocator : Type) where
  defaultAllocator : Allocator
  sinkAllocator : Nat → Option Allocator
  canAcceptAllocator : Nat → Bool

-- `allocator` is the allocator a transform stage holds or an active source has been given.
structure Preparation (Allocator : Type) where
  graph : Connections
  allocator : Nat → Option Allocator := fun _ => none
  copyAllocator : OutputRef → Option Allocator := fun _ => none
  sourcePrepared : Nat → Bool := fun _ => false

namespace Preparation

def setAllocator (state : Preparation Allocator) (stage : Nat) (allocator : Option Allocator) :
    Preparation Allocator :=
  { state with allocator := Function.update state.allocator stage allocator }

def setCopyAllocator (state : Preparation Allocator) (output : OutputRef)
    (allocator : Option Allocator) : Preparation Allocator :=
  { state with copyAllocator := Function.update state.copyAllocator output allocator }

def setPrepared (state : Preparation Allocator) (input : InputRef) : Preparation Allocator :=
  { state with graph := { state.graph with
      prepared := Function.update state.graph.prepared input true } }

-- Each function returns the inputs of the stage that its callback was called with. A stage that
-- has no such connector has no result.
def prepareStageInput (parts : Parts Allocator) (state : Preparation Allocator) (stage : Nat) :
    Option (Option Allocator) :=
  match state.graph.kind stage with
  | .activeSink => some (parts.sinkAllocator stage)
  | .transform | .activeMultistreamSink _ => some none
  | .activeSource | .multistreamSource _ | .activeMultistreamSource _ => none

def prepareStageOutput (parts : Parts Allocator) (state : Preparation Allocator)
    (output : OutputRef) (allocator : Option Allocator) :
    Option (Preparation Allocator × List Nat) :=
  match state.graph.kind output.stage with
  | .activeSource =>
    let given :=
      if parts.canAcceptAllocator output.stage then
        state.setAllocator output.stage (some (allocator.getD parts.defaultAllocator))
      else if allocator.isSome then state.setCopyAllocator output allocator
      else state
    some ({ given with
      sourcePrepared := Function.update state.sourcePrepared output.stage true }, [])
  | .multistreamSource _ | .activeMultistreamSource _ =>
    some (if allocator.isSome then state.setCopyAllocator output allocator else state, [])
  | .transform =>
    some (state.setAllocator output.stage (some (allocator.getD parts.defaultAllocator)), [0])
  | .activeSink | .activeMultistreamSink _ => none

def unprepareStageOutput (state : Preparation Allocator) (output : OutputRef) :
    Option (Preparation Allocator × List Nat) :=
  match state.graph.kind output.stage with
  | .activeSource => some ((state.setAllocator output.stage none).setCopyAllocator output none, [])
  | .multistreamSource _ | .activeMultistreamSource _ => some (state.setCopyAllocator output none, [])
  | .transform => some (state.setAllocator output.stage none, [0])
  -- The default implementation does nothing.
  | .activeSink | .activeMultistreamSink _ => some (state, [])

abbrev Visitor (Allocator : Type) :=
  Preparation Allocator → InputRef → OutputRef → Option (Preparation Allocator × List Nat)

def visitUpstream (visitor : Visitor Allocator) :
    Nat → Preparation Allocator → List InputRef → Option (Preparation Allocator × List InputRef)
  | _, state, [] => some (state, [])
  | 0, _, _ :: _ => none
  | fuel + 1, state, input :: backlog =>
    if state.graph.ValidInput input then do
      let output ← state.graph.inputMate input
      let visit ← visitor state input output
      let later ← visitUpstream visitor fuel visit.1
        (backlog ++ visit.2.map fun index => ⟨output.stage, index⟩)
      some (later.1, input :: later.2)
    else none

def prepareVisitor (parts : Parts Allocator) : Visitor Allocator := fun state input output =>
  if state.graph.prepared input then none
  else do
    let allocator ← state.prepareStageInput parts input.stage
    (state.setPrepared input).prepareStageOutput parts output allocator

def unprepareVisitor : Visitor Allocator := fun state input output =>
  if state.graph.prepared input then state.unprepareStageOutput output else none

def prepareInput (parts : Parts Allocator) (fuel : Nat) (state : Preparation Allocator)
    (input : InputRef) : Option (Preparation Allocator × List InputRef) :=
  visitUpstream (prepareVisitor parts) fuel state [input]

def unprepareInput (fuel : Nat) (state : Preparation Allocator) (input : InputRef) :
    Option (Preparation Allocator × List InputRef) :=
  visitUpstream unprepareVisitor fuel state [input]

end Preparation

namespace Connections

variable {graph : Connections}

def Feeds (graph : Connections) (upstream downstream : Nat) : Prop :=
  ∃ output input, graph.outputMate output = some input ∧ output.stage = upstream ∧
    input.stage = downstream

def Acyclic (graph : Connections) : Prop :=
  ∀ stage, ¬ Relation.TransGen graph.Feeds stage stage

inductive Upstream (graph : Connections) : InputRef → List (InputRef × OutputRef) → Prop where
  | source {input : InputRef} {output : OutputRef} (valid : graph.ValidInput input)
      (mates : graph.inputMate input = some output)
      (noInputs : (graph.kind output.stage).inputCount = 0)
      (outputs : 0 < (graph.kind output.stage).outputCount) : Upstream graph input [(input, output)]
  | transform {input : InputRef} {output : OutputRef} {path : List (InputRef × OutputRef)}
      (valid : graph.ValidInput input) (mates : graph.inputMate input = some output)
      (through : graph.kind output.stage = .transform)
      (rest : Upstream graph ⟨output.stage, 0⟩ path) : Upstream graph input ((input, output) :: path)

theorem Acyclic.wellFounded (acyclic : graph.Acyclic) (mated : graph.Mated) :
    WellFounded graph.Feeds := by
  let within : { stage // stage ∈ graph.stages } → { stage // stage ∈ graph.stages } → Prop :=
    fun upstream downstream => graph.Feeds upstream downstream
  have forward {upstream downstream : { stage // stage ∈ graph.stages }}
      (path : Relation.TransGen within upstream downstream) :
      Relation.TransGen graph.Feeds upstream downstream := path.lift _ fun _ _ feeds => feeds
  have transitive : IsTrans _ (Relation.TransGen within) := ⟨fun _ _ _ => Relation.TransGen.trans⟩
  have irreflexive : Std.Irrefl (Relation.TransGen within) :=
    ⟨fun stage path => acyclic stage (forward path)⟩
  have wellFounded : WellFounded (Relation.TransGen within) :=
    Finite.wellFounded_of_trans_of_irrefl _
  have present {upstream downstream : Nat} (feeds : graph.Feeds upstream downstream) :
      upstream ∈ graph.stages ∧ downstream ∈ graph.stages := by
    obtain ⟨output, input, mates, rfl, rfl⟩ := feeds
    exact ⟨(mated.valid output input mates).1.1, (mated.valid output input mates).2.1⟩
  have accessible (stage : { stage // stage ∈ graph.stages }) : Acc graph.Feeds stage := by
    induction stage using wellFounded.induction with
    | _ stage ih =>
      apply Acc.intro
      intro upstream feeds
      exact ih ⟨upstream, (present feeds).1⟩ (Relation.TransGen.single feeds)
  constructor
  intro stage
  apply Acc.intro
  intro upstream feeds
  exact accessible ⟨upstream, (present feeds).1⟩

theorem Acyclic.exists_upstream (acyclic : graph.Acyclic) (mated : graph.Mated)
    (connected : graph.FullyConnected) (input : InputRef) (valid : graph.ValidInput input) :
    ∃ path, graph.Upstream input path ∧ (path.map Prod.fst).Nodup ∧
      ∀ other ∈ path.map Prod.fst, Relation.ReflTransGen graph.Feeds other.stage input.stage := by
  suffices every : ∀ stage input, input.stage = stage → graph.ValidInput input →
      ∃ path, graph.Upstream input path ∧ (path.map Prod.fst).Nodup ∧
        ∀ other ∈ path.map Prod.fst,
          Relation.ReflTransGen graph.Feeds other.stage input.stage from
    every input.stage input rfl valid
  intro stage
  induction stage using (acyclic.wellFounded mated).induction with
  | _ stage ih =>
    rintro input rfl valid
    obtain ⟨output, mates⟩ := Option.isSome_iff_exists.mp (connected.1 input valid)
    have forth := (mated.symmetric output input).mpr mates
    have feeds : graph.Feeds output.stage input.stage := ⟨output, input, forth, rfl, rfl⟩
    obtain ⟨present, index⟩ := (mated.valid output input forth).1
    by_cases noInputs : (graph.kind output.stage).inputCount = 0
    · refine ⟨_, .source valid mates noInputs (by omega), by simp, ?_⟩
      intro other member
      simp only [List.map_cons, List.map_nil, List.mem_singleton] at member
      rw [member]
    · have through : graph.kind output.stage = .transform := by
        cases kind : graph.kind output.stage <;>
          simp_all [StageKind.inputCount, StageKind.outputCount]
      have validNext : graph.ValidInput ⟨output.stage, 0⟩ :=
        ⟨present, by simp [through, StageKind.inputCount]⟩
      obtain ⟨path, upstream, distinct, reaches⟩ := ih output.stage feeds _ rfl validNext
      refine ⟨_, .transform valid mates through upstream, ?_, ?_⟩
      · simp only [List.map_cons, List.nodup_cons]
        refine ⟨?_, distinct⟩
        intro again
        -- The input would feed itself.
        exact acyclic input.stage (Relation.TransGen.tail' (reaches input again) feeds)
      · intro other member
        simp only [List.map_cons, List.mem_cons] at member
        rcases member with rfl | later
        · exact Relation.ReflTransGen.refl
        · exact (reaches other later).tail feeds

end Connections

end MojoMedia.Framework
