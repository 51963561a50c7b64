import MojoMedia.Framework.Preparation

set_option autoImplicit false

namespace MojoMedia.Framework

variable {Allocator : Type}

namespace Preparation

open Connections

variable {parts : Parts Allocator} {state next : Preparation Allocator}

def callbacks (kind : StageKind) : List Nat := if kind = .transform then [0] else []

def HoldsAllocator (kind : StageKind) : Prop := kind = .activeSource ∨ kind = .transform

def Reaches (kind : Nat → StageKind) (outputs : List OutputRef) (stage : Nat) : Prop :=
  HoldsAllocator (kind stage) ∧ ∃ output ∈ outputs, output.stage = stage

def ReachesOutput (kind : Nat → StageKind) (outputs : List OutputRef) (output : OutputRef) : Prop :=
  (kind output.stage).inputCount = 0 ∧ output ∈ outputs

theorem reaches_cons {kind : Nat → StageKind} {first : OutputRef} {rest : List OutputRef}
    {stage : Nat} : Reaches kind (first :: rest) stage ↔
      Reaches kind [first] stage ∨ Reaches kind rest stage := by
  simp only [Reaches, List.mem_cons, List.not_mem_nil, or_false, exists_eq_or_imp, exists_eq_left,
    and_or_left]

theorem reachesOutput_cons {kind : Nat → StageKind} {first output : OutputRef}
    {rest : List OutputRef} : ReachesOutput kind (first :: rest) output ↔
      ReachesOutput kind [first] output ∨ ReachesOutput kind rest output := by
  simp only [ReachesOutput, List.mem_cons, List.not_mem_nil, or_false, and_or_left]

theorem reaches_single {kind : Nat → StageKind} {output : OutputRef} {stage : Nat} :
    Reaches kind [output] stage ↔ stage = output.stage ∧ HoldsAllocator (kind stage) := by
  simp only [Reaches, List.mem_singleton, exists_eq_left]
  exact and_comm.trans (and_congr_left' eq_comm)

theorem reachesOutput_single {kind : Nat → StageKind} {output other : OutputRef} :
    ReachesOutput kind [output] other ↔ other = output ∧ (kind other.stage).inputCount = 0 := by
  simp only [ReachesOutput, List.mem_singleton]
  exact and_comm

structure Supplied (kind : Nat → StageKind) (outputs : List OutputRef)
    (before after : Preparation Allocator) : Prop where
  allocator : ∀ stage, after.allocator stage ≠ none →
    before.allocator stage ≠ none ∨ Reaches kind outputs stage
  copyAllocator : ∀ output, after.copyAllocator output ≠ none →
    before.copyAllocator output ≠ none ∨ ReachesOutput kind outputs output

theorem Supplied.cons {kind : Nat → StageKind} {output : OutputRef} {outputs : List OutputRef}
    {after : Preparation Allocator} (first : Supplied kind [output] state next)
    (rest : Supplied kind outputs next after) : Supplied kind (output :: outputs) state after := by
  constructor
  · intro stage holds
    rw [reaches_cons]
    rcases rest.allocator stage holds with between | later
    · exact (first.allocator stage between).imp_right .inl
    · exact .inr (.inr later)
  · intro other holds
    rw [reachesOutput_cons]
    rcases rest.copyAllocator other holds with between | later
    · exact (first.copyAllocator other between).imp_right .inl
    · exact .inr (.inr later)

structure Freed (kind : Nat → StageKind) (outputs : List OutputRef)
    (before after : Preparation Allocator) : Prop where
  allocator : ∀ stage, after.allocator stage ≠ none →
    before.allocator stage ≠ none ∧ ¬ Reaches kind outputs stage
  copyAllocator : ∀ output, after.copyAllocator output ≠ none →
    before.copyAllocator output ≠ none ∧ ¬ ReachesOutput kind outputs output

theorem Freed.cons {kind : Nat → StageKind} {output : OutputRef} {outputs : List OutputRef}
    {after : Preparation Allocator} (first : Freed kind [output] state next)
    (rest : Freed kind outputs next after) : Freed kind (output :: outputs) state after := by
  constructor
  · intro stage holds
    rw [reaches_cons, not_or]
    obtain ⟨between, later⟩ := rest.allocator stage holds
    obtain ⟨before, apart⟩ := first.allocator stage between
    exact ⟨before, apart, later⟩
  · intro other holds
    rw [reachesOutput_cons, not_or]
    obtain ⟨between, later⟩ := rest.copyAllocator other holds
    obtain ⟨before, apart⟩ := first.copyAllocator other between
    exact ⟨before, apart, later⟩

theorem prepareStageOutput_spec {output : OutputRef} (allocator : Option Allocator)
    (outputs : 0 < (state.graph.kind output.stage).outputCount) :
    ∃ next, state.prepareStageOutput parts output allocator =
        some (next, callbacks (state.graph.kind output.stage)) ∧
      next.graph = state.graph ∧ Supplied state.graph.kind [output] state next := by
  cases kind : state.graph.kind output.stage with
  | activeSource =>
    refine ⟨_, by simp only [prepareStageOutput, kind]; rfl, ?_, ⟨?_, ?_⟩⟩
    · split
      · rfl
      · split <;> rfl
    · intro stage changed
      by_cases same : stage = output.stage
      · exact .inr (reaches_single.mpr ⟨same, .inl (same ▸ kind)⟩)
      · refine .inl ?_
        revert changed
        split
        · simp [setAllocator, same]
        · split <;> simp [setCopyAllocator]
    · intro other changed
      by_cases same : other = output
      · exact .inr (reachesOutput_single.mpr ⟨same, by rw [same, kind]; rfl⟩)
      · refine .inl ?_
        revert changed
        split
        · simp [setAllocator]
        · split <;> simp [setCopyAllocator, same]
  | multistreamSource streamCount | activeMultistreamSource streamCount =>
    refine ⟨_, by simp only [prepareStageOutput, kind]; rfl, by split <;> rfl, ⟨?_, ?_⟩⟩
    · intro stage changed
      refine .inl ?_
      revert changed
      split <;> simp [setCopyAllocator]
    · intro other changed
      by_cases same : other = output
      · exact .inr (reachesOutput_single.mpr ⟨same, by rw [same, kind]; rfl⟩)
      · refine .inl ?_
        revert changed
        split <;> simp [setCopyAllocator, same]
  | transform =>
    refine ⟨state.setAllocator output.stage (some (allocator.getD parts.defaultAllocator)),
      by simp only [prepareStageOutput, kind]; rfl, rfl, ⟨?_, ?_⟩⟩
    · intro stage changed
      by_cases same : stage = output.stage
      · exact .inr (reaches_single.mpr ⟨same, .inr (same ▸ kind)⟩)
      · exact .inl (by simpa [setAllocator, same] using changed)
    · intro other changed
      exact .inl changed
  | activeSink => simp [kind, StageKind.outputCount] at outputs
  | activeMultistreamSink inputCount => simp [kind, StageKind.outputCount] at outputs

theorem unprepareStageOutput_spec {output : OutputRef}
    (outputs : 0 < (state.graph.kind output.stage).outputCount) :
    ∃ next, state.unprepareStageOutput output =
        some (next, callbacks (state.graph.kind output.stage)) ∧
      next.graph = state.graph ∧ Freed state.graph.kind [output] state next := by
  cases kind : state.graph.kind output.stage with
  | activeSource =>
    refine ⟨(state.setAllocator output.stage none).setCopyAllocator output none,
      by simp only [unprepareStageOutput, kind]; rfl, rfl, ⟨?_, ?_⟩⟩
    · intro stage changed
      by_cases same : stage = output.stage
      · simp [setAllocator, setCopyAllocator, same] at changed
      · exact ⟨by simpa [setAllocator, setCopyAllocator, same] using changed,
          by simp [reaches_single, same]⟩
    · intro other changed
      by_cases same : other = output
      · simp [setAllocator, setCopyAllocator, same] at changed
      · exact ⟨by simpa [setAllocator, setCopyAllocator, same] using changed,
          by simp [reachesOutput_single, same]⟩
  | multistreamSource streamCount | activeMultistreamSource streamCount =>
    refine ⟨state.setCopyAllocator output none,
      by simp only [unprepareStageOutput, kind]; rfl, rfl, ⟨?_, ?_⟩⟩
    · intro stage changed
      refine ⟨changed, fun reached => ?_⟩
      obtain ⟨rfl, holds⟩ := reaches_single.mp reached
      simp [HoldsAllocator, kind] at holds
    · intro other changed
      by_cases same : other = output
      · simp [setCopyAllocator, same] at changed
      · exact ⟨by simpa [setCopyAllocator, same] using changed,
          by simp [reachesOutput_single, same]⟩
  | transform =>
    refine ⟨state.setAllocator output.stage none,
      by simp only [unprepareStageOutput, kind]; rfl, rfl, ⟨?_, ?_⟩⟩
    · intro stage changed
      by_cases same : stage = output.stage
      · simp [setAllocator, same] at changed
      · exact ⟨by simpa [setAllocator, same] using changed, by simp [reaches_single, same]⟩
    · intro other changed
      refine ⟨changed, fun reached => ?_⟩
      obtain ⟨rfl, noInputs⟩ := reachesOutput_single.mp reached
      simp [kind, StageKind.inputCount] at noInputs
  | activeSink => simp [kind, StageKind.outputCount] at outputs
  | activeMultistreamSink inputCount => simp [kind, StageKind.outputCount] at outputs

structure SameShape (graph other : Connections) : Prop where
  stages : other.stages = graph.stages
  kind : other.kind = graph.kind
  inputMate : other.inputMate = graph.inputMate

theorem SameShape.refl (graph : Connections) : SameShape graph graph := ⟨rfl, rfl, rfl⟩

theorem SameShape.trans {graph other last : Connections} (first : SameShape graph other)
    (second : SameShape other last) : SameShape graph last :=
  ⟨second.stages.trans first.stages, second.kind.trans first.kind,
    second.inputMate.trans first.inputMate⟩

theorem SameShape.validInput {graph other : Connections} (same : SameShape graph other)
    {input : InputRef} (valid : graph.ValidInput input) : other.ValidInput input := by
  rw [Connections.ValidInput, same.stages, same.kind]
  exact valid

theorem sameShape_setPrepared (input : InputRef) :
    SameShape state.graph (state.setPrepared input).graph := ⟨rfl, rfl, rfl⟩

theorem prepareVisitor_spec {input : InputRef} {output : OutputRef}
    (valid : state.graph.ValidInput input) (unprepared : state.graph.prepared input = false)
    (outputs : 0 < (state.graph.kind output.stage).outputCount) :
    ∃ next, prepareVisitor parts state input output =
        some (next, callbacks (state.graph.kind output.stage)) ∧
      next.graph = (state.setPrepared input).graph ∧
      Supplied state.graph.kind [output] state next := by
  have inputs : 0 < (state.graph.kind input.stage).inputCount := Nat.lt_of_le_of_lt
    (Nat.zero_le _) valid.2
  obtain ⟨allocator, asked⟩ : ∃ allocator,
      state.prepareStageInput parts input.stage = some allocator := by
    cases kind : state.graph.kind input.stage <;>
      simp_all [prepareStageInput, StageKind.inputCount]
  obtain ⟨next, done, shape, supplied⟩ :=
    @prepareStageOutput_spec Allocator parts (state.setPrepared input) output allocator outputs
  refine ⟨next, ?_, shape, supplied.allocator, supplied.copyAllocator⟩
  simp only [prepareVisitor, unprepared, asked, Bool.false_eq_true, if_false,
    Option.bind_eq_bind, Option.bind_some]
  exact done

theorem visit_source {visitor : Visitor Allocator} {input : InputRef} {output : OutputRef}
    (fuel : Nat) (valid : state.graph.ValidInput input)
    (mates : state.graph.inputMate input = some output)
    (visited : visitor state input output = some (next, [])) :
    visitUpstream visitor (fuel + 1) state [input] = some (next, [input]) := by
  simp [visitUpstream, valid, mates, visited]

theorem visit_transform {visitor : Visitor Allocator} {input : InputRef} {output : OutputRef}
    {fuel : Nat} {after : Preparation Allocator} {inputs : List InputRef}
    (valid : state.graph.ValidInput input) (mates : state.graph.inputMate input = some output)
    (visited : visitor state input output = some (next, [0]))
    (later : visitUpstream visitor fuel next [⟨output.stage, 0⟩] = some (after, inputs)) :
    visitUpstream visitor (fuel + 1) state [input] = some (after, input :: inputs) := by
  simp [visitUpstream, valid, mates, visited, later]

theorem callbacks_source {kind : StageKind} (noInputs : kind.inputCount = 0) :
    callbacks kind = [] := by
  cases kind <;> simp_all [callbacks, StageKind.inputCount]

theorem prepared_setPrepared (input other : InputRef) :
    (state.setPrepared input).graph.prepared other = true ↔
      other = input ∨ state.graph.prepared other = true := by
  by_cases here : other = input
  · simp [setPrepared, here]
  · simp [setPrepared, here]

theorem prepareInput_path {graph : Connections} {input : InputRef}
    {path : List (InputRef × OutputRef)} {fuel : Nat} (upstream : graph.Upstream input path)
    (same : SameShape graph state.graph) (distinct : (path.map Prod.fst).Nodup)
    (unprepared : ∀ other ∈ path.map Prod.fst, state.graph.prepared other = false)
    (enough : path.length ≤ fuel) :
    ∃ after, state.prepareInput parts fuel input = some (after, path.map Prod.fst) ∧
      SameShape graph after.graph ∧
      (∀ other, after.graph.prepared other = true ↔
        other ∈ path.map Prod.fst ∨ state.graph.prepared other = true) ∧
      Supplied graph.kind (path.map Prod.snd) state after := by
  induction upstream generalizing state fuel with
  | @source input output valid mates noInputs outputs =>
    obtain ⟨fuel, rfl⟩ : ∃ more, fuel = more + 1 := ⟨fuel - 1, by simp at enough; omega⟩
    obtain ⟨next, visited, shape, supplied⟩ :=
      @prepareVisitor_spec Allocator parts state input output (same.validInput valid)
        (unprepared input (by simp)) (same.kind ▸ outputs)
    rw [same.kind, callbacks_source noInputs] at visited
    refine ⟨next, visit_source fuel (same.validInput valid) (same.inputMate ▸ mates) visited,
      ?_, ?_, same.kind ▸ supplied⟩
    · rw [shape]
      exact same.trans (sameShape_setPrepared input)
    · intro other
      rw [shape, prepared_setPrepared]
      simp only [List.map_cons, List.map_nil, List.mem_singleton]
  | @transform input output path valid mates through rest ih =>
    obtain ⟨fuel, rfl⟩ : ∃ more, fuel = more + 1 := ⟨fuel - 1, by simp at enough; omega⟩
    simp only [List.map_cons, List.nodup_cons, List.mem_cons] at distinct unprepared
    have outputs : 0 < (state.graph.kind output.stage).outputCount := by
      rw [same.kind, through]
      decide
    obtain ⟨next, visited, shape, supplied⟩ :=
      @prepareVisitor_spec Allocator parts state input output (same.validInput valid)
        (unprepared input (.inl rfl)) outputs
    have visited : prepareVisitor parts state input output = some (next, [0]) := by
      rw [visited, same.kind, through]
      rfl
    have sameNext : SameShape graph next.graph := by
      rw [shape]
      exact same.trans (sameShape_setPrepared input)
    have unpreparedNext (other : InputRef) (member : other ∈ path.map Prod.fst) :
        next.graph.prepared other = false := by
      have different : other ≠ input := fun here => distinct.1 (here ▸ member)
      rw [shape, Bool.eq_false_iff, Ne, prepared_setPrepared, unprepared other (.inr member)]
      simp [different]
    obtain ⟨after, later, sameAfter, marked, suppliedLater⟩ :=
      ih sameNext distinct.2 unpreparedNext (Nat.le_of_succ_le_succ enough)
    refine ⟨after, visit_transform (same.validInput valid) (same.inputMate ▸ mates) visited later,
      sameAfter, ?_, (same.kind ▸ supplied).cons suppliedLater⟩
    intro other
    rw [marked, shape, prepared_setPrepared, List.map_cons, List.mem_cons]
    exact or_left_comm.trans (or_assoc.symm)

theorem unprepareInput_path {graph : Connections} {input : InputRef}
    {path : List (InputRef × OutputRef)} {fuel : Nat} (upstream : graph.Upstream input path)
    (same : SameShape graph state.graph)
    (prepared : ∀ other ∈ path.map Prod.fst, state.graph.prepared other = true)
    (enough : path.length ≤ fuel) :
    ∃ after, state.unprepareInput fuel input = some (after, path.map Prod.fst) ∧
      after.graph = state.graph ∧ Freed graph.kind (path.map Prod.snd) state after := by
  induction upstream generalizing state fuel with
  | @source input output valid mates noInputs outputs =>
    obtain ⟨fuel, rfl⟩ : ∃ more, fuel = more + 1 := ⟨fuel - 1, by simp at enough; omega⟩
    have isPrepared := prepared input (by simp)
    obtain ⟨next, done, shape, freed⟩ :=
      @unprepareStageOutput_spec Allocator state output (same.kind ▸ outputs)
    rw [same.kind, callbacks_source noInputs] at done
    refine ⟨next, visit_source fuel (same.validInput valid) (same.inputMate ▸ mates) ?_, shape,
      same.kind ▸ freed⟩
    simp [unprepareVisitor, isPrepared, done]
  | @transform input output path valid mates through rest ih =>
    obtain ⟨fuel, rfl⟩ : ∃ more, fuel = more + 1 := ⟨fuel - 1, by simp at enough; omega⟩
    simp only [List.map_cons, List.mem_cons] at prepared
    have isPrepared := prepared input (.inl rfl)
    have outputs : 0 < (state.graph.kind output.stage).outputCount := by
      rw [same.kind, through]
      decide
    obtain ⟨next, done, shape, freed⟩ := @unprepareStageOutput_spec Allocator state output outputs
    have visited : unprepareVisitor state input output = some (next, [0]) := by
      simp only [unprepareVisitor, isPrepared, if_true, done, same.kind, through]
      rfl
    have preparedNext (other : InputRef) (member : other ∈ path.map Prod.fst) :
        next.graph.prepared other = true := by
      rw [shape]
      exact prepared other (.inr member)
    obtain ⟨after, later, shapeAfter, freedLater⟩ :=
      ih (shape.symm ▸ same) preparedNext (Nat.le_of_succ_le_succ enough)
    exact ⟨after, visit_transform (same.validInput valid) (same.inputMate ▸ mates) visited later,
      shapeAfter.trans shape, (same.kind ▸ freed).cons freedLater⟩

theorem Upstream.connected {graph : Connections} {input : InputRef}
    {path : List (InputRef × OutputRef)} (upstream : graph.Upstream input path) :
    input ∈ path.map Prod.fst ∧ ∀ other ∈ path.map Prod.fst,
      graph.ValidInput other ∧ (graph.inputMate other).isSome := by
  induction upstream with
  | source valid mates noInputs outputs =>
    refine ⟨by simp, ?_⟩
    intro other member
    simp only [List.map_cons, List.map_nil, List.mem_singleton] at member
    rw [member]
    exact ⟨valid, by simp [mates]⟩
  | transform valid mates through rest ih =>
    refine ⟨by simp, ?_⟩
    intro other member
    simp only [List.map_cons, List.mem_cons] at member
    rcases member with rfl | later
    · exact ⟨valid, by simp [mates]⟩
    · exact ih.2 other later

theorem disconnectInput_prepared {graph : Connections} {input : InputRef}
    (valid : graph.ValidInput input) (connected : (graph.inputMate input).isSome)
    (prepared : graph.prepared input = true) : graph.disconnectInput (.held input) = none := by
  obtain ⟨output, mates⟩ := Option.isSome_iff_exists.mp connected
  simp [Connections.disconnectInput, Connections.readInput, valid, mates, prepared]

structure Undone (before after : Preparation Allocator) (visited again : List InputRef) :
    Prop where
  once : again.Nodup
  visits : ∀ input, input ∈ again ↔ input ∈ visited
  unprepared : ∀ input ∈ visited, after.graph.prepared input = false
  allocators : ∀ input ∈ visited, ∀ output, before.graph.inputMate input = some output →
    after.allocator output.stage = before.allocator output.stage ∧
      after.copyAllocator output = before.copyAllocator output

-- In every acyclic connected graph `UnprepareInput` visits what `PrepareInput` visited and takes
-- the allocators away, but every visited input stays prepared, and cannot be disconnected.
theorem unprepare_leaves_prepared (parts : Parts Allocator) (state : Preparation Allocator)
    (input : InputRef) (mated : state.graph.Mated) (acyclic : state.graph.Acyclic)
    (connected : state.graph.FullyConnected) (valid : state.graph.ValidInput input)
    (unprepared : ∀ other, Relation.ReflTransGen state.graph.Feeds other.stage input.stage →
      state.graph.prepared other = false) :
    ∃ enough, ∀ fuel ≥ enough, ∃ prepared after visited,
      state.prepareInput parts fuel input = some (prepared, visited) ∧
      prepared.unprepareInput fuel input = some (after, visited) ∧
      visited.Nodup ∧ input ∈ visited ∧
      (∀ other ∈ visited, after.graph.prepared other = true ∧
        after.graph.disconnectInput (.held other) = none) ∧
      ((∀ stage, state.allocator stage = none) → (∀ output, state.copyAllocator output = none) →
        (∀ stage, after.allocator stage = none) ∧ ∀ output, after.copyAllocator output = none) ∧
      ¬ Undone state after visited visited := by
  obtain ⟨path, upstream, distinct, reaches⟩ :=
    acyclic.exists_upstream mated connected input valid
  refine ⟨path.length, ?_⟩
  intro fuel enough
  obtain ⟨prepared, preparing, same, marked, supplied⟩ :=
    @prepareInput_path Allocator parts state _ _ _ _ upstream (SameShape.refl _) distinct
      (fun other member => unprepared other (reaches other member)) enough
  obtain ⟨after, unpreparing, shape, freed⟩ :=
    unprepareInput_path upstream same (fun other member => (marked other).mpr (.inl member)) enough
  obtain ⟨first, onPath⟩ := Upstream.connected upstream
  have stays (other : InputRef) (member : other ∈ path.map Prod.fst) :
      after.graph.prepared other = true := by
    rw [shape]
    exact (marked other).mpr (.inl member)
  refine ⟨prepared, after, path.map Prod.fst, preparing, unpreparing, distinct, first, ?_, ?_, ?_⟩
  · intro other member
    refine ⟨stays other member, ?_⟩
    apply disconnectInput_prepared _ _ (stays other member)
    · rw [shape]
      exact same.validInput (onPath other member).1
    · rw [shape, same.inputMate]
      exact (onPath other member).2
  · intro fresh copyFresh
    constructor
    · intro stage
      by_contra held
      obtain ⟨between, apart⟩ := freed.allocator stage held
      rcases supplied.allocator stage between with before | reached
      · exact before (fresh stage)
      · exact apart reached
    · intro output
      by_contra held
      obtain ⟨between, apart⟩ := freed.copyAllocator output held
      rcases supplied.copyAllocator output between with before | reached
      · exact before (copyFresh output)
      · exact apart reached
  · intro undone
    have cleared := undone.unprepared input first
    rw [stays input first] at cleared
    cases cleared

def plainParts : Parts Nat := ⟨0, fun _ => some 7, fun _ => false⟩

theorem chain_acyclic : chain.Acyclic := by
  have increasing {upstream downstream : Nat}
      (path : Relation.TransGen chain.Feeds upstream downstream) : upstream < downstream := by
    induction path with
    | single feeds =>
      obtain ⟨output, input, mates, rfl, rfl⟩ := feeds
      obtain ⟨rfl, rfl⟩ | ⟨rfl, rfl⟩ := chain_outputMate mates <;> decide
    | tail _ feeds ih =>
      obtain ⟨output, input, mates, rfl, rfl⟩ := feeds
      apply Nat.lt_trans ih
      obtain ⟨rfl, rfl⟩ | ⟨rfl, rfl⟩ := chain_outputMate mates <;> decide
  intro stage path
  exact Nat.lt_irrefl stage (increasing path)

theorem chain_stays_prepared :
    ∃ fuel prepared after visited,
      ({ graph := chain } : Preparation Nat).prepareInput plainParts fuel ⟨2, 0⟩ =
        some (prepared, visited) ∧
      prepared.unprepareInput fuel ⟨2, 0⟩ = some (after, visited) ∧
      after.graph.disconnectInput (.held ⟨2, 0⟩) = none := by
  obtain ⟨fuel, runs⟩ := unprepare_leaves_prepared plainParts { graph := chain } ⟨2, 0⟩ chain_mated
    chain_acyclic chain_connected (by decide) (fun _ _ => rfl)
  obtain ⟨prepared, after, visited, preparing, unpreparing, -, first, stays, -⟩ :=
    runs fuel (Nat.le_refl _)
  exact ⟨fuel, prepared, after, visited, preparing, unpreparing, (stays _ first).2⟩

theorem chain_not_undone :
    ∃ prepared after,
      ({ graph := chain } : Preparation Nat).prepareInput plainParts 2 ⟨2, 0⟩ =
        some (prepared, [⟨2, 0⟩, ⟨1, 0⟩]) ∧
      prepared.unprepareInput 2 ⟨2, 0⟩ = some (after, [⟨2, 0⟩, ⟨1, 0⟩]) ∧
      after.graph.prepared ⟨2, 0⟩ = true ∧ after.graph.prepared ⟨1, 0⟩ = true ∧
      ¬ Undone { graph := chain } after [⟨2, 0⟩, ⟨1, 0⟩] [⟨2, 0⟩, ⟨1, 0⟩] := by
  refine ⟨_, _, rfl, rfl, rfl, rfl, ?_⟩
  intro undone
  have cleared := undone.unprepared ⟨2, 0⟩ (by simp)
  cases cleared

end Preparation

end MojoMedia.Framework
