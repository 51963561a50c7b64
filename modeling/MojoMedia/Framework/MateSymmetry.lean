import MojoMedia.Framework.Connections

set_option autoImplicit false

namespace MojoMedia.Framework.Connections

variable {graph next : Connections}

structure Mated (graph : Connections) : Prop where
  symmetric : ∀ output input, graph.outputMate output = some input ↔
    graph.inputMate input = some output
  valid : ∀ output input, graph.outputMate output = some input →
    graph.ValidOutput output ∧ graph.ValidInput input

theorem Mated.output_unique (mated : graph.Mated) {output other : OutputRef} {input : InputRef}
    (mates : graph.outputMate output = some input) (also : graph.outputMate other = some input) :
    other = output := by
  have back := (mated.symmetric output input).mp mates
  have otherBack := (mated.symmetric other input).mp also
  exact Option.some.inj (otherBack.symm.trans back)

theorem Mated.input_unique (mated : graph.Mated) {input other : InputRef} {output : OutputRef}
    (mates : graph.inputMate input = some output) (also : graph.inputMate other = some output) :
    other = input := by
  have forth := (mated.symmetric output input).mpr mates
  have otherForth := (mated.symmetric output other).mpr also
  exact Option.some.inj (otherForth.symm.trans forth)

def unlink (graph : Connections) (output : OutputRef) (input : InputRef) : Connections :=
  (graph.setInputMate input none).setOutputMate output none

def link (graph : Connections) (output : OutputRef) (input : InputRef) : Connections :=
  (graph.setOutputMate output (some input)).setInputMate input (some output)

@[simp] theorem unlink_inputMate (output : OutputRef) (input : InputRef) :
    (graph.unlink output input).inputMate input = none := by
  simp [unlink, setOutputMate, setInputMate]

@[simp] theorem unlink_outputMate (output : OutputRef) (input : InputRef) :
    (graph.unlink output input).outputMate output = none := by
  simp [unlink, setOutputMate, setInputMate]

theorem Mated.unlink (mated : graph.Mated) {output : OutputRef} {input : InputRef}
    (mates : graph.outputMate output = some input) : (graph.unlink output input).Mated := by
  have back := (mated.symmetric output input).mp mates
  constructor
  · intro other otherInput
    have pair := mated.symmetric other otherInput
    simp only [Connections.unlink, setOutputMate, setInputMate, Function.update_apply]
    by_cases sameOutput : other = output
    · subst sameOutput
      by_cases sameInput : otherInput = input
      · simp [sameInput]
      · have : graph.inputMate otherInput ≠ some other := by
          intro also
          rw [← pair, mates] at also
          exact sameInput (Option.some.inj also).symm
        simp [sameInput, this]
    · by_cases sameInput : otherInput = input
      · subst sameInput
        have : graph.outputMate other ≠ some otherInput := by
          intro also
          rw [pair, back] at also
          exact sameOutput (Option.some.inj also).symm
        simp [sameOutput, this]
      · simpa [sameOutput, sameInput] using pair
  · intro other otherInput
    simp only [Connections.unlink, setOutputMate, setInputMate, Function.update_apply]
    by_cases sameOutput : other = output
    · simp [sameOutput]
    · simp only [sameOutput, if_false]
      exact mated.valid other otherInput

theorem Mated.link (mated : graph.Mated) {output : OutputRef} {input : InputRef}
    (validOutput : graph.ValidOutput output) (validInput : graph.ValidInput input)
    (freeOutput : graph.outputMate output = none) (freeInput : graph.inputMate input = none) :
    (graph.link output input).Mated := by
  constructor
  · intro other otherInput
    have pair := mated.symmetric other otherInput
    simp only [Connections.link, setOutputMate, setInputMate, Function.update_apply]
    by_cases sameOutput : other = output
    · subst sameOutput
      by_cases sameInput : otherInput = input
      · simp [sameInput]
      · have : graph.inputMate otherInput ≠ some other := by
          rw [Ne, ← pair, freeOutput]
          simp
        simp [sameInput, Ne.symm sameInput, this]
    · by_cases sameInput : otherInput = input
      · subst sameInput
        have : graph.outputMate other ≠ some otherInput := by
          rw [Ne, pair, freeInput]
          simp
        simp [sameOutput, Ne.symm sameOutput, this]
      · simpa [sameOutput, sameInput] using pair
  · intro other otherInput
    simp only [Connections.link, setOutputMate, setInputMate, Function.update_apply]
    by_cases sameOutput : other = output
    · simp only [sameOutput, if_true, Option.some.injEq]
      rintro rfl
      exact ⟨validOutput, validInput⟩
    · simp only [sameOutput, if_false]
      exact mated.valid other otherInput

structure Fewer (graph next : Connections) : Prop where
  stages : next.stages = graph.stages
  kind : next.kind = graph.kind
  prepared : next.prepared = graph.prepared
  inputMate : ∀ input, graph.inputMate input = none → next.inputMate input = none
  outputMate : ∀ output, graph.outputMate output = none → next.outputMate output = none

theorem Fewer.refl (graph : Connections) : Fewer graph graph :=
  ⟨rfl, rfl, rfl, fun _ free => free, fun _ free => free⟩

theorem Fewer.trans {last : Connections} (first : Fewer graph next) (second : Fewer next last) :
    Fewer graph last where
  stages := second.stages.trans first.stages
  kind := second.kind.trans first.kind
  prepared := second.prepared.trans first.prepared
  inputMate := fun input free => second.inputMate input (first.inputMate input free)
  outputMate := fun output free => second.outputMate output (first.outputMate output free)

theorem fewer_unlink (output : OutputRef) (input : InputRef) :
    Fewer graph (graph.unlink output input) := by
  refine ⟨rfl, rfl, rfl, ?_, ?_⟩
  · intro other free
    simp [unlink, setOutputMate, setInputMate, Function.update_apply, free]
  · intro other free
    simp [unlink, setOutputMate, setInputMate, Function.update_apply, free]

theorem readOutput_valid {argument : OutputArgument} {output : OutputRef}
    (read : graph.readOutput argument = some output) : graph.ValidOutput output := by
  cases argument with
  | held other =>
    simp only [readOutput, Option.ite_none_right_eq_some, Option.some.injEq] at read
    exact read.2 ▸ read.1
  | mateOf input =>
    simp only [readOutput, Option.ite_none_right_eq_some, Option.filter_eq_some_iff,
      decide_eq_true_eq] at read
    exact read.2.2

theorem readInput_valid {argument : InputArgument} {input : InputRef}
    (read : graph.readInput argument = some input) : graph.ValidInput input := by
  cases argument with
  | held other =>
    simp only [readInput, Option.ite_none_right_eq_some, Option.some.injEq] at read
    exact read.2 ▸ read.1
  | mateOf output =>
    simp only [readInput, Option.ite_none_right_eq_some, Option.filter_eq_some_iff,
      decide_eq_true_eq] at read
    exact read.2.2

theorem Mated.disconnectOutput_cases (mated : graph.Mated) {argument : OutputArgument}
    (done : graph.disconnectOutput argument = some next) :
    ∃ output, graph.readOutput argument = some output ∧
      (graph.outputMate output = none ∧ next = graph ∨
        ∃ input, graph.outputMate output = some input ∧ next = graph.unlink output input) := by
  simp only [disconnectOutput, Option.bind_eq_bind, Option.bind_eq_some_iff] at done
  obtain ⟨output, read, done⟩ := done
  refine ⟨output, read, ?_⟩
  cases mates : graph.outputMate output with
  | none =>
    simp only [mates, Option.some.injEq] at done
    exact .inl ⟨rfl, done.symm⟩
  | some input =>
    refine .inr ⟨input, rfl, ?_⟩
    simp only [mates, Option.ite_none_left_eq_some, Option.bind_eq_some_iff,
      Option.some.injEq] at done
    obtain ⟨-, again, readAgain, rfl⟩ := done
    cases argument with
    | held other =>
      simp only [readOutput, Option.ite_none_right_eq_some, Option.some.injEq] at read readAgain
      rw [← readAgain.2, read.2]
      rfl
    | mateOf other =>
      -- The argument is the mate that has just been taken from the input.
      simp only [readOutput, Option.ite_none_right_eq_some, Option.filter_eq_some_iff] at read
      have same : other = input := by
        have back := (mated.symmetric output other).mpr read.2.1
        exact Option.some.inj (back.symm.trans mates)
      simp [readOutput, setInputMate, same] at readAgain

theorem Mated.disconnectInput_cases (mated : graph.Mated) {argument : InputArgument}
    (done : graph.disconnectInput argument = some next) :
    ∃ input, graph.readInput argument = some input ∧
      (graph.inputMate input = none ∧ next = graph ∨
        ∃ output, graph.outputMate output = some input ∧ next = graph.unlink output input) := by
  simp only [disconnectInput, Option.bind_eq_bind, Option.bind_eq_some_iff] at done
  obtain ⟨input, read, done⟩ := done
  refine ⟨input, read, ?_⟩
  cases mates : graph.inputMate input with
  | none =>
    simp only [mates, Option.some.injEq] at done
    exact .inl ⟨rfl, done.symm⟩
  | some output =>
    refine .inr ⟨output, (mated.symmetric output input).mpr mates, ?_⟩
    simp only [mates, Option.ite_none_left_eq_some, Option.bind_eq_some_iff,
      Option.some.injEq] at done
    obtain ⟨-, again, readAgain, rfl⟩ := done
    cases argument with
    | held other =>
      simp only [readInput, Option.ite_none_right_eq_some, Option.some.injEq] at read readAgain
      rw [← readAgain.2, read.2]
      rfl
    | mateOf other =>
      simp only [readInput, Option.ite_none_right_eq_some, Option.filter_eq_some_iff] at read
      have same : other = output := by
        have back := (mated.symmetric other input).mp read.2.1
        exact Option.some.inj (back.symm.trans mates)
      simp [readInput, setOutputMate, same] at readAgain

theorem Mated.disconnectOutput (mated : graph.Mated) {argument : OutputArgument}
    (done : graph.disconnectOutput argument = some next) : next.Mated ∧ Fewer graph next := by
  obtain ⟨output, -, ⟨-, rfl⟩ | ⟨input, mates, rfl⟩⟩ := mated.disconnectOutput_cases done
  · exact ⟨mated, Fewer.refl _⟩
  · exact ⟨mated.unlink mates, fewer_unlink output input⟩

theorem Mated.disconnectInput (mated : graph.Mated) {argument : InputArgument}
    (done : graph.disconnectInput argument = some next) : next.Mated ∧ Fewer graph next := by
  obtain ⟨input, -, ⟨-, rfl⟩ | ⟨output, mates, rfl⟩⟩ := mated.disconnectInput_cases done
  · exact ⟨mated, Fewer.refl _⟩
  · exact ⟨mated.unlink mates, fewer_unlink output input⟩

theorem Mated.connect (mated : graph.Mated) {outputArgument : OutputArgument}
    {inputArgument : InputArgument} (done : graph.connect outputArgument inputArgument = some next) :
    next.Mated := by
  simp only [Connections.connect, Option.bind_eq_bind, Option.bind_eq_some_iff] at done
  obtain ⟨output, -, input, -, first, disconnected, input, -, second, separated, output,
    readOutput, input, readInput, done⟩ := done
  have matedFirst : first.Mated := by
    split at disconnected
    · exact (mated.disconnectOutput disconnected).1
    · exact Option.some.inj disconnected ▸ mated
  have matedSecond : second.Mated := by
    split at separated
    · exact (matedFirst.disconnectInput separated).1
    · exact Option.some.inj separated ▸ matedFirst
  simp only [Option.ite_none_left_eq_some, not_or, Option.not_isSome_iff_eq_none,
    Option.some.injEq] at done
  obtain ⟨⟨freeOutput, freeInput⟩, rfl⟩ := done
  exact matedSecond.link (readOutput_valid readOutput) (readInput_valid readInput) freeOutput
    freeInput

theorem Mated.connectParts (mated : graph.Mated) {upstream downstream : Nat}
    (done : graph.connectParts upstream downstream = some next) : next.Mated := by
  simp only [Connections.connectParts, Option.bind_eq_bind, Option.bind_eq_some_iff] at done
  obtain ⟨output, -, input, -, done⟩ := done
  exact mated.connect done

theorem Mated.add (mated : graph.Mated) {stage : Nat} {kind : StageKind}
    (done : graph.add stage kind = some next) : next.Mated := by
  simp only [Connections.add, Option.ite_none_left_eq_some, Option.some.injEq] at done
  obtain ⟨fresh, rfl⟩ := done
  refine ⟨mated.symmetric, ?_⟩
  intro output input mates
  obtain ⟨⟨outputStage, outputIndex⟩, inputStage, inputIndex⟩ := mated.valid output input mates
  have keptOutput : output.stage ≠ stage := fun same => fresh (same ▸ outputStage)
  have keptInput : input.stage ≠ stage := fun same => fresh (same ▸ inputStage)
  simp [ValidOutput, ValidInput, keptOutput, keptInput, outputStage,
    inputStage, outputIndex, inputIndex]

theorem Mated.freeEach (Free : Connections → Nat → Prop)
    {one : Connections → Nat → Option Connections}
    (loop : Connections → List Nat → Option Connections)
    (empty : ∀ graph, loop graph [] = some graph)
    (unfolds : ∀ graph index rest,
      loop graph (index :: rest) = (one graph index).bind fun first => loop first rest)
    (frees : ∀ graph index first, graph.Mated → one graph index = some first →
      first.Mated ∧ Fewer graph first ∧ Free first index)
    (stays : ∀ graph first index, Fewer graph first → Free graph index → Free first index)
    {indices : List Nat} (mated : graph.Mated) (done : loop graph indices = some next) :
    next.Mated ∧ Fewer graph next ∧ ∀ index ∈ indices, Free next index := by
  induction indices generalizing graph with
  | nil =>
    obtain rfl := Option.some.inj ((empty graph).symm.trans done)
    exact ⟨mated, Fewer.refl _, by simp⟩
  | cons index rest ih =>
    rw [unfolds, Option.bind_eq_some_iff] at done
    obtain ⟨first, freed, done⟩ := done
    obtain ⟨matedFirst, fewerFirst, here⟩ := frees graph index first mated freed
    obtain ⟨matedNext, fewer, later⟩ := ih matedFirst done
    refine ⟨matedNext, fewerFirst.trans fewer, ?_⟩
    intro other member
    rcases List.mem_cons.mp member with rfl | behind
    · exact stays first next _ fewer here
    · exact later other behind

theorem Mated.freeInput {input : InputRef} (mated : graph.Mated)
    (freed : (if (graph.inputMate input).isSome then graph.disconnectInput (.held input)
      else some graph) = some next) :
    next.Mated ∧ Fewer graph next ∧ next.inputMate input = none := by
  split at freed
  next =>
    obtain ⟨matedNext, fewer⟩ := mated.disconnectInput freed
    refine ⟨matedNext, fewer, ?_⟩
    obtain ⟨held, read, ⟨free, rfl⟩ | ⟨output, mates, rfl⟩⟩ := mated.disconnectInput_cases freed
    · simp only [readInput, Option.ite_none_right_eq_some, Option.some.injEq] at read
      rw [read.2, free]
    · simp only [readInput, Option.ite_none_right_eq_some, Option.some.injEq] at read
      rw [read.2]
      simp
  next free =>
    rw [← Option.some.inj freed]
    exact ⟨mated, Fewer.refl _, by simpa using free⟩

theorem Mated.freeOutput {output : OutputRef} (mated : graph.Mated)
    (freed : (if (graph.outputMate output).isSome then graph.disconnectOutput (.held output)
      else some graph) = some next) :
    next.Mated ∧ Fewer graph next ∧ next.outputMate output = none := by
  split at freed
  next =>
    obtain ⟨matedNext, fewer⟩ := mated.disconnectOutput freed
    refine ⟨matedNext, fewer, ?_⟩
    obtain ⟨held, read, ⟨free, rfl⟩ | ⟨input, mates, rfl⟩⟩ := mated.disconnectOutput_cases freed
    · simp only [readOutput, Option.ite_none_right_eq_some, Option.some.injEq] at read
      rw [read.2, free]
    · simp only [readOutput, Option.ite_none_right_eq_some, Option.some.injEq] at read
      rw [read.2]
      simp
  next free =>
    rw [← Option.some.inj freed]
    exact ⟨mated, Fewer.refl _, by simpa using free⟩

theorem Mated.disconnectInputs {stage : Nat} {indices : List Nat} (mated : graph.Mated)
    (done : graph.disconnectInputs stage indices = some next) :
    next.Mated ∧ Fewer graph next ∧ ∀ index ∈ indices, next.inputMate ⟨stage, index⟩ = none :=
  mated.freeEach (fun graph index => graph.inputMate ⟨stage, index⟩ = none)
    (fun graph => graph.disconnectInputs stage) (fun _ => rfl) (fun _ _ _ => rfl)
    (fun _ _ _ mated freed => mated.freeInput freed)
    (fun _ _ index fewer free => fewer.inputMate ⟨stage, index⟩ free) done

theorem Mated.disconnectOutputs {stage : Nat} {indices : List Nat} (mated : graph.Mated)
    (done : graph.disconnectOutputs stage indices = some next) :
    next.Mated ∧ Fewer graph next ∧ ∀ index ∈ indices, next.outputMate ⟨stage, index⟩ = none :=
  mated.freeEach (fun graph index => graph.outputMate ⟨stage, index⟩ = none)
    (fun graph => graph.disconnectOutputs stage) (fun _ => rfl) (fun _ _ _ => rfl)
    (fun _ _ _ mated freed => mated.freeOutput freed)
    (fun _ _ index fewer free => fewer.outputMate ⟨stage, index⟩ free) done

theorem Mated.delete (mated : graph.Mated) {stage : Nat}
    (inputs : ∀ index < (graph.kind stage).inputCount, graph.inputMate ⟨stage, index⟩ = none)
    (outputs : ∀ index < (graph.kind stage).outputCount,
      graph.outputMate ⟨stage, index⟩ = none) : (graph.delete stage).Mated := by
  have apart {output : OutputRef} {input : InputRef} (mates : graph.outputMate output = some input) :
      output.stage ≠ stage ∧ input.stage ≠ stage := by
    obtain ⟨validOutput, validInput⟩ := mated.valid output input mates
    constructor
    · rintro rfl
      rw [outputs output.index validOutput.2] at mates
      cases mates
    · rintro rfl
      have back := (mated.symmetric output input).mp mates
      rw [inputs input.index validInput.2] at back
      cases back
  constructor
  · intro output input
    simp only [Connections.delete, Option.ite_none_left_eq_some, mated.symmetric]
    constructor
    · rintro ⟨-, back⟩
      exact ⟨(apart ((mated.symmetric output input).mpr back)).2, back⟩
    · rintro ⟨-, back⟩
      exact ⟨(apart ((mated.symmetric output input).mpr back)).1, back⟩
  · intro output input mates
    simp only [Connections.delete, Option.ite_none_left_eq_some] at mates
    obtain ⟨outputKept, inputKept⟩ := apart mates.2
    obtain ⟨validOutput, validInput⟩ := mated.valid output input mates.2
    simp only [ValidOutput, ValidInput, Connections.delete, List.mem_filter]
    exact ⟨⟨⟨validOutput.1, by simpa using outputKept⟩, validOutput.2⟩,
      ⟨validInput.1, by simpa using inputKept⟩, validInput.2⟩

theorem Mated.removePart (mated : graph.Mated) {stage : Nat}
    (done : graph.removePart stage = some next) : next.Mated := by
  simp only [Connections.removePart, Option.ite_none_right_eq_some, Option.bind_eq_bind,
    Option.bind_eq_some_iff, Option.some.injEq] at done
  obtain ⟨-, first, inputsDone, second, outputsDone, rfl⟩ := done
  obtain ⟨matedFirst, fewerFirst, inputs⟩ := mated.disconnectInputs inputsDone
  obtain ⟨matedSecond, fewerSecond, outputs⟩ := matedFirst.disconnectOutputs outputsDone
  apply matedSecond.delete
  · intro index less
    rw [fewerSecond.kind, fewerFirst.kind] at less
    exact fewerSecond.inputMate _ (inputs index (List.mem_range.mpr less))
  · intro index less
    rw [fewerSecond.kind] at less
    exact outputs index (List.mem_range.mpr less)

theorem Mated.step (mated : graph.Mated) {call : Call} (taken : graph.step call = some next) :
    next.Mated := by
  cases call with
  | add stage kind => exact mated.add taken
  | connect output input => exact mated.connect taken
  | connectParts upstream downstream => exact mated.connectParts taken
  | disconnectOutput output => exact (mated.disconnectOutput taken).1
  | disconnectInput input => exact (mated.disconnectInput taken).1
  | removePart stage => exact mated.removePart taken

def Unprepared (graph : Connections) : Prop := ∀ input, graph.prepared input = false

def Allowed (graph : Connections) : Call → Prop
  | .add stage _ => stage ∉ graph.stages
  | .connect output input =>
    ∃ outputRef inputRef, output = .held outputRef ∧ input = .held inputRef ∧
      graph.ValidOutput outputRef ∧ graph.ValidInput inputRef
  | .connectParts upstream downstream =>
    upstream ∈ graph.stages ∧ (graph.kind upstream).outputCount = 1 ∧
      downstream ∈ graph.stages ∧ (graph.kind downstream).inputCount = 1
  | .disconnectOutput output => ∃ outputRef, output = .held outputRef ∧ graph.ValidOutput outputRef
  | .disconnectInput input => ∃ inputRef, input = .held inputRef ∧ graph.ValidInput inputRef
  | .removePart stage => stage ∈ graph.stages

theorem Mated.disconnectOutput_returns (mated : graph.Mated) (unprepared : graph.Unprepared)
    {output : OutputRef} (valid : graph.ValidOutput output) :
    ∃ next, graph.disconnectOutput (.held output) = some next ∧
      next.outputMate output = none := by
  have read : graph.readOutput (.held output) = some output := if_pos valid
  cases mates : graph.outputMate output with
  | none => exact ⟨graph, by simp [Connections.disconnectOutput, read, mates], mates⟩
  | some input =>
    have validInput := (mated.valid output input mates).2
    have readAgain : (graph.setInputMate input none).readOutput (.held output) = some output :=
      if_pos valid
    refine ⟨graph.unlink output input, ?_, unlink_outputMate output input⟩
    simp [Connections.disconnectOutput, read, mates, validInput, unprepared input, readAgain,
      Connections.unlink]

theorem Mated.disconnectInput_returns (mated : graph.Mated) (unprepared : graph.Unprepared)
    {input : InputRef} (valid : graph.ValidInput input) :
    ∃ next, graph.disconnectInput (.held input) = some next ∧ next.inputMate input = none := by
  have read : graph.readInput (.held input) = some input := if_pos valid
  cases mates : graph.inputMate input with
  | none => exact ⟨graph, by simp [Connections.disconnectInput, read, mates], mates⟩
  | some output =>
    have validOutput := (mated.valid output input ((mated.symmetric output input).mpr mates)).1
    have readAgain : (graph.setOutputMate output none).readInput (.held input) = some input :=
      if_pos valid
    refine ⟨graph.unlink output input, ?_, unlink_inputMate output input⟩
    simp only [Connections.disconnectInput, read, mates, Option.bind_eq_bind, Option.bind_some,
      validOutput, unprepared input, readAgain, not_true_eq_false, Bool.false_eq_true, or_self,
      if_false]
    rfl

theorem Fewer.validInput (fewer : Fewer graph next) {input : InputRef}
    (valid : graph.ValidInput input) : next.ValidInput input := by
  rw [ValidInput, fewer.stages, fewer.kind]
  exact valid

theorem Fewer.validOutput (fewer : Fewer graph next) {output : OutputRef}
    (valid : graph.ValidOutput output) : next.ValidOutput output := by
  rw [ValidOutput, fewer.stages, fewer.kind]
  exact valid

theorem Fewer.unprepared (fewer : Fewer graph next) (unprepared : graph.Unprepared) :
    next.Unprepared := by
  rw [Unprepared, fewer.prepared]
  exact unprepared

theorem Mated.releaseOutput (mated : graph.Mated) (unprepared : graph.Unprepared)
    {output : OutputRef} (valid : graph.ValidOutput output) :
    ∃ next, (if (graph.outputMate output).isSome then graph.disconnectOutput (.held output)
        else some graph) = some next ∧
      next.Mated ∧ Fewer graph next ∧ next.outputMate output = none := by
  obtain ⟨next, done, free⟩ := mated.disconnectOutput_returns unprepared valid
  by_cases connected : (graph.outputMate output).isSome
  · rw [if_pos connected]
    obtain ⟨matedNext, fewer⟩ := mated.disconnectOutput done
    exact ⟨next, done, matedNext, fewer, free⟩
  · rw [if_neg connected]
    exact ⟨graph, rfl, mated, Fewer.refl _, by simpa using connected⟩

theorem Mated.releaseInput (mated : graph.Mated) (unprepared : graph.Unprepared)
    {input : InputRef} (valid : graph.ValidInput input) :
    ∃ next, (if (graph.inputMate input).isSome then graph.disconnectInput (.held input)
        else some graph) = some next ∧
      next.Mated ∧ Fewer graph next ∧ next.inputMate input = none := by
  obtain ⟨next, done, free⟩ := mated.disconnectInput_returns unprepared valid
  by_cases connected : (graph.inputMate input).isSome
  · rw [if_pos connected]
    obtain ⟨matedNext, fewer⟩ := mated.disconnectInput done
    exact ⟨next, done, matedNext, fewer, free⟩
  · rw [if_neg connected]
    exact ⟨graph, rfl, mated, Fewer.refl _, by simpa using connected⟩

theorem Mated.connect_returns (mated : graph.Mated) (unprepared : graph.Unprepared)
    {output : OutputRef} {input : InputRef} (validOutput : graph.ValidOutput output)
    (validInput : graph.ValidInput input) :
    ∃ next, graph.connect (.held output) (.held input) = some next ∧ next.Unprepared := by
  obtain ⟨first, released, matedFirst, fewerFirst, freeOutput⟩ :=
    mated.releaseOutput unprepared validOutput
  obtain ⟨second, separated, -, fewerSecond, freeInput⟩ :=
    matedFirst.releaseInput (fewerFirst.unprepared unprepared) (fewerFirst.validInput validInput)
  have readOutput : graph.readOutput (.held output) = some output := if_pos validOutput
  have readInput : graph.readInput (.held input) = some input := if_pos validInput
  have readFirst : first.readInput (.held input) = some input :=
    if_pos (fewerFirst.validInput validInput)
  have readSecond : second.readInput (.held input) = some input :=
    if_pos (fewerSecond.validInput (fewerFirst.validInput validInput))
  have outputSecond : second.readOutput (.held output) = some output :=
    if_pos (fewerSecond.validOutput (fewerFirst.validOutput validOutput))
  refine ⟨second.link output input, ?_,
    fewerSecond.unprepared (fewerFirst.unprepared unprepared)⟩
  simp [Connections.connect, readOutput, readInput, released, readFirst, separated, readSecond,
    outputSecond, fewerSecond.outputMate output freeOutput, freeInput, Connections.link]

theorem Mated.disconnectInputs_returns (mated : graph.Mated) (unprepared : graph.Unprepared)
    {stage : Nat} (indices : List Nat)
    (valid : ∀ index ∈ indices, graph.ValidInput ⟨stage, index⟩) :
    ∃ next, graph.disconnectInputs stage indices = some next := by
  induction indices generalizing graph with
  | nil => exact ⟨graph, rfl⟩
  | cons index rest ih =>
    obtain ⟨first, released, matedFirst, fewer, -⟩ :=
      mated.releaseInput unprepared (valid index (by simp))
    obtain ⟨next, done⟩ := ih matedFirst (fewer.unprepared unprepared)
      fun index later => fewer.validInput (valid index (by simp [later]))
    exact ⟨next, by simp [Connections.disconnectInputs, released, done]⟩

theorem Mated.disconnectOutputs_returns (mated : graph.Mated) (unprepared : graph.Unprepared)
    {stage : Nat} (indices : List Nat)
    (valid : ∀ index ∈ indices, graph.ValidOutput ⟨stage, index⟩) :
    ∃ next, graph.disconnectOutputs stage indices = some next := by
  induction indices generalizing graph with
  | nil => exact ⟨graph, rfl⟩
  | cons index rest ih =>
    obtain ⟨first, released, matedFirst, fewer, -⟩ :=
      mated.releaseOutput unprepared (valid index (by simp))
    obtain ⟨next, done⟩ := ih matedFirst (fewer.unprepared unprepared)
      fun index later => fewer.validOutput (valid index (by simp [later]))
    exact ⟨next, by simp [Connections.disconnectOutputs, released, done]⟩

theorem Mated.removePart_returns (mated : graph.Mated) (unprepared : graph.Unprepared)
    {stage : Nat} (present : stage ∈ graph.stages) :
    ∃ next, graph.removePart stage = some next ∧ next.Unprepared := by
  obtain ⟨first, inputsDone⟩ := mated.disconnectInputs_returns unprepared
    (List.range (graph.kind stage).inputCount)
    fun index member => ⟨present, List.mem_range.mp member⟩
  obtain ⟨matedFirst, fewerFirst, -⟩ := mated.disconnectInputs inputsDone
  obtain ⟨second, outputsDone⟩ := matedFirst.disconnectOutputs_returns
    (fewerFirst.unprepared unprepared) (List.range (first.kind stage).outputCount)
    fun index member => ⟨fewerFirst.stages ▸ present, List.mem_range.mp member⟩
  obtain ⟨-, fewerSecond, -⟩ := matedFirst.disconnectOutputs outputsDone
  refine ⟨second.delete stage, ?_, ?_⟩
  · simp [Connections.removePart, present, inputsDone, outputsDone]
  · intro input
    have kept := fewerSecond.unprepared (fewerFirst.unprepared unprepared) input
    simp [Connections.delete, kept]

theorem Mated.step_returns (mated : graph.Mated) (unprepared : graph.Unprepared) {call : Call}
    (allowed : graph.Allowed call) :
    ∃ next, graph.step call = some next ∧ next.Mated ∧ next.Unprepared := by
  suffices returns : ∃ next, graph.step call = some next ∧ next.Unprepared by
    obtain ⟨next, taken, kept⟩ := returns
    exact ⟨next, taken, mated.step taken, kept⟩
  cases call with
  | add stage kind => exact ⟨_, if_neg allowed, unprepared⟩
  | connect output input =>
    obtain ⟨outputRef, inputRef, rfl, rfl, validOutput, validInput⟩ := allowed
    exact mated.connect_returns unprepared validOutput validInput
  | connectParts upstream downstream =>
    obtain ⟨up, oneOutput, down, oneInput⟩ := allowed
    have validOutput : graph.ValidOutput ⟨upstream, 0⟩ := ⟨up, by simp [oneOutput]⟩
    have validInput : graph.ValidInput ⟨downstream, 0⟩ := ⟨down, by simp [oneInput]⟩
    obtain ⟨next, done, kept⟩ := mated.connect_returns unprepared validOutput validInput
    refine ⟨next, ?_, kept⟩
    simpa [Connections.step, Connections.connectParts, onlyOutput, onlyInput, up, oneOutput, down,
      oneInput] using done
  | disconnectOutput output =>
    obtain ⟨outputRef, rfl, valid⟩ := allowed
    obtain ⟨next, done, -⟩ := mated.disconnectOutput_returns unprepared valid
    exact ⟨next, done, (mated.disconnectOutput done).2.unprepared unprepared⟩
  | disconnectInput input =>
    obtain ⟨inputRef, rfl, valid⟩ := allowed
    obtain ⟨next, done, -⟩ := mated.disconnectInput_returns unprepared valid
    exact ⟨next, done, (mated.disconnectInput done).2.unprepared unprepared⟩
  | removePart stage => exact mated.removePart_returns unprepared allowed

theorem mated_empty : ({ } : Connections).Mated := ⟨by simp, by simp⟩

-- After any sequence of calls the mates of outputs and inputs are inverse to each other, no two
-- outputs share a mate and every mate belongs to a stage of the graph. A sequence of calls on
-- current references runs to its end.
theorem mates_symmetric (calls : List Call) :
    (∀ graph, Runs.run step { } calls = some graph →
      (∀ output input, graph.outputMate output = some input ↔
        graph.inputMate input = some output) ∧
      (∀ output other input, graph.outputMate output = some input →
        graph.outputMate other = some input → output = other) ∧
      (∀ output input, graph.outputMate output = some input → input.stage ∈ graph.stages) ∧
      ∀ output input, graph.inputMate input = some output → output.stage ∈ graph.stages) ∧
    (Runs.Meets step Allowed { } calls → ∃ graph, Runs.run step { } calls = some graph) := by
  constructor
  · intro graph reached
    have mated : graph.Mated := by
      apply Runs.invariant_of_run step Mated _ { } graph calls mated_empty reached
      intro before call after mated taken
      exact mated.step taken
    refine ⟨mated.symmetric, ?_, ?_, ?_⟩
    · intro output other input mates otherMates
      exact mated.output_unique otherMates mates
    · intro output input mates
      exact (mated.valid output input mates).2.1
    · intro output input mates
      exact (mated.valid output input ((mated.symmetric output input).mpr mates)).1.1
  · intro allowed
    obtain ⟨graph, reached, -⟩ := Runs.run_of_step step Allowed
      (fun graph => graph.Mated ∧ graph.Unprepared)
      (fun graph call kept allowed => by
        obtain ⟨next, taken, mated, unprepared⟩ := kept.1.step_returns kept.2 allowed
        exact ⟨next, taken, mated, unprepared⟩)
      { } calls ⟨mated_empty, fun _ => rfl⟩ allowed
    exact ⟨graph, reached⟩

def reconnect : List Call :=
  [ .add 0 .activeSource, .add 1 .activeSource, .add 2 .transform, .add 3 .activeSink,
    .connectParts 0 3, .connectParts 1 2, .connect (.held ⟨1, 0⟩) (.held ⟨3, 0⟩), .removePart 0 ]

theorem reconnect_symmetric :
    ∃ graph, Runs.run step { } reconnect = some graph ∧
      graph.outputMate ⟨1, 0⟩ = some ⟨3, 0⟩ ∧ graph.inputMate ⟨3, 0⟩ = some ⟨1, 0⟩ := by
  have outcome : (Runs.run step { } reconnect).any (fun graph =>
      graph.outputMate ⟨1, 0⟩ = some ⟨3, 0⟩) = true := by
    decide +kernel
  obtain ⟨graph, reached, mates⟩ := (Option.any_eq_true _ _).mp outcome
  have mates : graph.outputMate ⟨1, 0⟩ = some ⟨3, 0⟩ := by simpa using mates
  exact ⟨graph, reached, mates, (((mates_symmetric reconnect).1 graph reached).1 _ _).mp mates⟩

def FullyConnected (graph : Connections) : Prop :=
  (∀ input, graph.ValidInput input → (graph.inputMate input).isSome) ∧
    ∀ output, graph.ValidOutput output → (graph.outputMate output).isSome

def chain : Connections where
  stages := [0, 1, 2]
  sources := [0]
  sinks := [2]
  kind stage := if stage = 0 then .activeSource else if stage = 1 then .transform else .activeSink
  inputMate input :=
    if input = ⟨1, 0⟩ then some ⟨0, 0⟩ else if input = ⟨2, 0⟩ then some ⟨1, 0⟩ else none
  outputMate output :=
    if output = ⟨0, 0⟩ then some ⟨1, 0⟩ else if output = ⟨1, 0⟩ then some ⟨2, 0⟩ else none

theorem chain_outputMate {output : OutputRef} {input : InputRef}
    (mates : chain.outputMate output = some input) :
    output = ⟨0, 0⟩ ∧ input = ⟨1, 0⟩ ∨ output = ⟨1, 0⟩ ∧ input = ⟨2, 0⟩ := by
  simp only [chain] at mates
  split at mates
  next first => exact .inl ⟨first, (Option.some.inj mates).symm⟩
  next =>
    split at mates
    next second => exact .inr ⟨second, (Option.some.inj mates).symm⟩
    next => cases mates

theorem chain_inputMate {output : OutputRef} {input : InputRef}
    (mates : chain.inputMate input = some output) :
    output = ⟨0, 0⟩ ∧ input = ⟨1, 0⟩ ∨ output = ⟨1, 0⟩ ∧ input = ⟨2, 0⟩ := by
  simp only [chain] at mates
  split at mates
  next first => exact .inl ⟨(Option.some.inj mates).symm, first⟩
  next =>
    split at mates
    next second => exact .inr ⟨(Option.some.inj mates).symm, second⟩
    next => cases mates

theorem chain_mated : chain.Mated := by
  constructor
  · intro output input
    constructor
    · intro mates
      obtain ⟨rfl, rfl⟩ | ⟨rfl, rfl⟩ := chain_outputMate mates <;> rfl
    · intro mates
      obtain ⟨rfl, rfl⟩ | ⟨rfl, rfl⟩ := chain_inputMate mates <;> rfl
  · intro output input mates
    obtain ⟨rfl, rfl⟩ | ⟨rfl, rfl⟩ := chain_outputMate mates <;> decide

theorem chain_connected : chain.FullyConnected := by
  constructor
  · rintro ⟨stage, index⟩ ⟨present, less⟩
    simp only [chain, List.mem_cons, List.not_mem_nil, or_false] at present
    obtain rfl | rfl | rfl := present
    · simp [chain, StageKind.inputCount] at less
    · obtain rfl : index = 0 := by simpa [chain, StageKind.inputCount] using less
      rfl
    · obtain rfl : index = 0 := by simpa [chain, StageKind.inputCount] using less
      rfl
  · rintro ⟨stage, index⟩ ⟨present, less⟩
    simp only [chain, List.mem_cons, List.not_mem_nil, or_false] at present
    obtain rfl | rfl | rfl := present
    · obtain rfl : index = 0 := by simpa [chain, StageKind.outputCount] using less
      rfl
    · obtain rfl : index = 0 := by simpa [chain, StageKind.outputCount] using less
      rfl
    · simp [chain, StageKind.outputCount] at less

def sourceToSink : Connections where
  stages := [0, 1]
  sources := [0]
  sinks := [1]
  kind stage := if stage = 0 then .activeSource else .activeSink
  inputMate input := if input = ⟨1, 0⟩ then some ⟨0, 0⟩ else none
  outputMate output := if output = ⟨0, 0⟩ then some ⟨1, 0⟩ else none
  prepared _ := true

theorem sourceToSink_outputMate {output : OutputRef} {input : InputRef}
    (mates : sourceToSink.outputMate output = some input) :
    output = ⟨0, 0⟩ ∧ input = ⟨1, 0⟩ := by
  simp only [sourceToSink, Option.ite_none_right_eq_some, Option.some.injEq] at mates
  exact ⟨mates.1, mates.2.symm⟩

theorem sourceToSink_mated : sourceToSink.Mated := by
  constructor
  · intro output input
    constructor
    · intro mates
      obtain ⟨rfl, rfl⟩ := sourceToSink_outputMate mates
      rfl
    · intro mates
      simp only [sourceToSink, Option.ite_none_right_eq_some, Option.some.injEq] at mates
      obtain ⟨rfl, rfl⟩ := mates
      rfl
  · intro output input mates
    obtain ⟨rfl, rfl⟩ := sourceToSink_outputMate mates
    decide

theorem sourceToSink_connected : sourceToSink.FullyConnected := by
  constructor
  · rintro ⟨stage, index⟩ ⟨present, less⟩
    simp only [sourceToSink, List.mem_cons, List.not_mem_nil, or_false] at present
    obtain rfl | rfl := present
    · simp [sourceToSink, StageKind.inputCount] at less
    · obtain rfl : index = 0 := by simpa [sourceToSink, StageKind.inputCount] using less
      rfl
  · rintro ⟨stage, index⟩ ⟨present, less⟩
    simp only [sourceToSink, List.mem_cons, List.not_mem_nil, or_false] at present
    obtain rfl | rfl := present
    · obtain rfl : index = 0 := by simpa [sourceToSink, StageKind.outputCount] using less
      rfl
    · simp [sourceToSink, StageKind.outputCount] at less

end MojoMedia.Framework.Connections
