import MojoMedia.Framework.ConversionPipeline
import MojoMedia.Framework.PartRemoval

set_option autoImplicit false

namespace MojoMedia.ConversionPipeline

open StreamType Framework

structure Pipeline where
  graph : Connections
  output : OutputRef

structure Conversion where
  result : Bool
  graph : Connections
  output : OutputRef
  outType : Option StreamType

inductive GraphOutcome where
  | unfinished
  | undefined
  | returned (conversion : Conversion)

def AddResult.parts : AddResult → List PipelinePart
  | .failed parts | .progressed parts _ | .finished parts _ => parts

section Building

variable (newStage : Connections → Nat) (avcodecOpen2 : AvCodecContext → Option AvCodecContext)
  (outTypeSets : List StreamTypeSet)

def addTransform (pipeline : Pipeline) : Option Pipeline := do
  let stage := newStage pipeline.graph
  let added ← pipeline.graph.add stage .transform
  let input ← added.onlyInput stage
  let connected ← added.connect (.held pipeline.output) (.held input)
  let output ← connected.onlyOutput stage
  some ⟨connected, output⟩

def addParts : List PipelinePart → Pipeline → Option Pipeline
  | [], pipeline => some pipeline
  | _ :: rest, pipeline => (addTransform newStage pipeline).bind (addParts rest)

def buildOnGraph (output : OutputRef) :
    Nat → StreamType → Pipeline → Except ConversionFailure GraphOutcome
  | 0, _, _ => .ok .unfinished
  | turns + 1, typeToConvert, pipeline => do
    let result ← addTransforms avcodecOpen2 outTypeSets typeToConvert []
    match addParts newStage result.parts pipeline with
    | none => return .undefined
    | some extended =>
      match result with
      | .failed _ =>
        match extended.graph.removePartsConnectedToOutput (.held output) with
        | none => return .undefined
        | some (graph, _) => return .returned ⟨false, graph, output, none⟩
      | .progressed _ convertedType => buildOnGraph output turns convertedType extended
      | .finished _ convertedType =>
        return .returned ⟨true, extended.graph, extended.output, some convertedType⟩

def Atomic (pipeline : Pipeline) : Except ConversionFailure GraphOutcome → Prop
  | .error _ | .ok .unfinished => True
  | .ok .undefined => False
  | .ok (.returned conversion) =>
    conversion.result = false →
      conversion.outType = none ∧ conversion.output = pipeline.output ∧
        conversion.graph = pipeline.graph

def Reachable (audio : AudioStreamType) : Prop :=
  ∃ set ∈ outTypeSets, ∃ audioSet, set.kind = .audio audioSet ∧
    kAudioEncodingLpcm ∈ set.encodings ∧ audioSet.channels.contains audio.channels ∧
    audioSet.framesPerSecond.contains audio.framesPerSecond

structure Decoded (inType : StreamType) (audio : AudioStreamType) (decodedType : StreamType) :
    Prop where
  kind : inType.kind = .audio audio
  compressed : inType.encoding ≠ kAudioEncodingLpcm
  unasked : ¬ outTypeSets.any (containedBy audio)
  reachable : Reachable outTypeSets audio
  created : createAudioDecoder avcodecOpen2 inType.encoding inType.encodingParameters audio =
    .ok (some decodedType)

def DecodesAsAsked (inType : StreamType) : Prop :=
  ∀ audio decodedType decoded, Decoded avcodecOpen2 outTypeSets inType audio decodedType →
    decodedType.kind = .audio decoded → Reachable outTypeSets decoded

end Building

theorem score_pos {inType : AudioStreamType} {set : AudioStreamTypeSet} :
    0 < score inType set ↔
      set.channels.contains inType.channels ∧
        set.framesPerSecond.contains inType.framesPerSecond := by
  simp only [score]
  split
  next outside => simp [outside]
  next inside =>
    split
    next outside => simp [outside]
    next within => simp [not_not.mp inside, not_not.mp within]

theorem findBestLpcm_score {inType : AudioStreamType} {found : AudioStreamTypeSet}
    (sets : List StreamTypeSet) (best : Option AudioStreamTypeSet) (bestScore : Nat)
    (finds : findBestLpcm inType sets best bestScore = some found) :
    best = some found ∨ bestScore < score inType found := by
  induction sets generalizing best bestScore with
  | nil => exact .inl finds
  | cons set rest ih =>
    simp only [findBestLpcm] at finds
    split at finds
    next audioSet kind =>
      split at finds
      next better =>
        rcases ih _ _ finds with isSet | later
        · cases isSet
          exact .inr better.2
        · exact .inr (Nat.lt_trans better.2 later)
      next => exact ih _ _ finds
    all_goals exact ih _ _ finds

theorem findBestLpcm_none {inType : AudioStreamType} (sets : List StreamTypeSet)
    (best : Option AudioStreamTypeSet) (bestScore : Nat) :
    findBestLpcm inType sets best bestScore = none ↔
      best = none ∧ ∀ set ∈ sets, ∀ audioSet, set.kind = .audio audioSet →
        kAudioEncodingLpcm ∈ set.encodings → score inType audioSet ≤ bestScore := by
  induction sets generalizing best bestScore with
  | nil => simp [findBestLpcm]
  | cons set rest ih =>
    have lists : set.includesEncoding kAudioEncodingLpcm = true ↔
        kAudioEncodingLpcm ∈ set.encodings := by
      simp [StreamTypeSet.includesEncoding]
    simp only [findBestLpcm, List.forall_mem_cons]
    split
    next audioSet kind =>
      split
      next better =>
        rw [ih]
        constructor
        · rintro ⟨none, -⟩
          cases none
        · rintro ⟨-, here, -⟩
          have worse := here audioSet kind (lists.mp better.1)
          omega
      next worse =>
        rw [ih]
        have here : ∀ other, set.kind = .audio other → kAudioEncodingLpcm ∈ set.encodings →
            score inType other ≤ bestScore := by
          intro other same member
          cases kind.symm.trans same
          by_contra better
          exact worse ⟨lists.mpr member, by omega⟩
        rw [and_iff_right here]
    all_goals
      rw [ih]
      simp [*]

theorem reachable_iff {audio : AudioStreamType} {outTypeSets : List StreamTypeSet} :
    Reachable outTypeSets audio ↔ findBestLpcm audio outTypeSets none 0 ≠ none := by
  rw [Ne, findBestLpcm_none]
  simp only [true_and, Nat.le_zero, not_forall, ← Nat.pos_iff_ne_zero, score_pos, Reachable]
  constructor
  · rintro ⟨set, member, audioSet, kind, encoding, inside⟩
    exact ⟨set, member, audioSet, kind, encoding, inside⟩
  · rintro ⟨set, member, audioSet, kind, encoding, inside⟩
    exact ⟨set, member, audioSet, kind, encoding, inside⟩

theorem addTransforms_lpcm (outTypeSets : List StreamTypeSet) (audio : AudioStreamType) :
    (∃ parts outType, addTransformsForLpcm outTypeSets audio [] = .finished parts outType) ∧
        Reachable outTypeSets audio ∨
      addTransformsForLpcm outTypeSets audio [] = .failed [] ∧ ¬ Reachable outTypeSets audio := by
  rw [reachable_iff, addTransformsForLpcm]
  cases finds : findBestLpcm audio outTypeSets none 0 with
  | none => exact .inr ⟨rfl, by simp⟩
  | some best =>
    have scored := (findBestLpcm_score outTypeSets none 0 finds).resolve_left (by simp)
    have inside := score_pos.mp scored
    refine .inl ⟨?_, by simp⟩
    simp only [addTransformsForLpcmSet, inside.1, inside.2, not_true_eq_false, if_false]
    exact ⟨_, _, rfl⟩

structure Pipeline.Open (pipeline : Pipeline) : Prop where
  mated : pipeline.graph.Mated
  valid : pipeline.graph.ValidOutput pipeline.output
  free : pipeline.graph.outputMate pipeline.output = none

variable {newStage : Connections → Nat} {pipeline : Pipeline}

theorem connect_free {graph : Connections} {output : OutputRef} {input : InputRef}
    (validOutput : graph.ValidOutput output) (validInput : graph.ValidInput input)
    (freeOutput : graph.outputMate output = none) (freeInput : graph.inputMate input = none) :
    graph.connect (.held output) (.held input) = some (graph.link output input) := by
  have readOutput : graph.readOutput (.held output) = some output := if_pos validOutput
  have readInput : graph.readInput (.held input) = some input := if_pos validInput
  simp [Connections.connect, readOutput, readInput, freeOutput, freeInput, Connections.link]

theorem add_transform {graph : Connections} (mated : graph.Mated) {stage : Nat}
    (fresh : stage ∉ graph.stages) :
    ∃ added, graph.add stage .transform = some added ∧ added.Mated ∧ stage ∈ added.stages ∧
      added.kind stage = .transform ∧ added.inputMate ⟨stage, 0⟩ = none ∧
      added.outputMate ⟨stage, 0⟩ = none ∧
      ∀ output, graph.ValidOutput output → output.stage ≠ stage ∧
        added.ValidOutput output ∧ added.outputMate output = graph.outputMate output := by
  obtain ⟨added, adds⟩ : ∃ added, graph.add stage .transform = some added := ⟨_, if_neg fresh⟩
  have matedAdded := mated.add adds
  have freeInput : graph.inputMate ⟨stage, 0⟩ = none := by
    by_contra connected
    obtain ⟨output, mates⟩ := Option.ne_none_iff_exists'.mp connected
    exact fresh (mated.valid output _ ((mated.symmetric output _).mpr mates)).2.1
  have freeOutput : graph.outputMate ⟨stage, 0⟩ = none := by
    by_contra connected
    obtain ⟨input, mates⟩ := Option.ne_none_iff_exists'.mp connected
    exact fresh (mated.valid _ input mates).1.1
  refine ⟨added, adds, matedAdded, ?_⟩
  simp only [Connections.add, fresh, if_false, Option.some.injEq] at adds
  subst adds
  refine ⟨by simp, by simp, freeInput, freeOutput, ?_⟩
  rintro output ⟨present, index⟩
  have other : output.stage ≠ stage := fun same => fresh (same ▸ present)
  simp [Connections.ValidOutput, present, other, index]

theorem addTransform_open (fresh : ∀ graph, newStage graph ∉ graph.stages)
    (isOpen : pipeline.Open) :
    ∃ next, addTransform newStage pipeline = some next ∧ next.Open ∧
      next.graph.ValidOutput pipeline.output ∧
      ∃ input, next.graph.outputMate pipeline.output = some input := by
  obtain ⟨added, adds, mated, present, kind, freeInput, freeOutput, kept⟩ :=
    add_transform isOpen.mated (fresh pipeline.graph)
  obtain ⟨other, validEnd, mateEnd⟩ := kept pipeline.output isOpen.valid
  have freeEnd := mateEnd.trans isOpen.free
  simp only [addTransform]
  generalize newStage pipeline.graph = stage at *
  have validInput : added.ValidInput ⟨stage, 0⟩ := ⟨present, by simp [kind, StageKind.inputCount]⟩
  have validOutput : added.ValidOutput ⟨stage, 0⟩ :=
    ⟨present, by simp [kind, StageKind.outputCount]⟩
  have isInput : added.onlyInput stage = some ⟨stage, 0⟩ :=
    if_pos ⟨present, by rw [kind]; rfl⟩
  have isOutput : (added.link pipeline.output ⟨stage, 0⟩).onlyOutput stage = some ⟨stage, 0⟩ :=
    if_pos ⟨present, by rw [show (added.link _ _).kind = added.kind from rfl, kind]; rfl⟩
  refine ⟨⟨added.link pipeline.output ⟨stage, 0⟩, ⟨stage, 0⟩⟩, ?_, ?_, validEnd, ⟨stage, 0⟩, ?_⟩
  · simp [adds, isInput, connect_free validEnd validInput freeEnd freeInput, isOutput]
  · refine ⟨mated.link validEnd validInput freeEnd freeInput, validOutput, ?_⟩
    have apart : (⟨stage, 0⟩ : OutputRef) ≠ pipeline.output := fun same => other (same ▸ rfl)
    simp [Connections.link, Connections.setOutputMate, Connections.setInputMate, apart, freeOutput]
  · simp [Connections.link, Connections.setOutputMate, Connections.setInputMate]

theorem addParts_open (fresh : ∀ graph, newStage graph ∉ graph.stages) (isOpen : pipeline.Open)
    (parts : List PipelinePart) : ∃ next, addParts newStage parts pipeline = some next ∧
      next.Open := by
  induction parts generalizing pipeline with
  | nil => exact ⟨pipeline, rfl, isOpen⟩
  | cons part rest ih =>
    obtain ⟨first, adds, firstOpen, -⟩ := addTransform_open fresh isOpen
    obtain ⟨next, done, nextOpen⟩ := ih firstOpen
    exact ⟨next, by simp [addParts, adds, done], nextOpen⟩

variable {avcodecOpen2 : AvCodecContext → Option AvCodecContext} {outTypeSets : List StreamTypeSet}
  {inType : StreamType} {output : OutputRef} {turns : Nat}

theorem buildOnGraph_error {failure : ConversionFailure}
    (adds : addTransforms avcodecOpen2 outTypeSets inType [] = .error failure) :
    buildOnGraph newStage avcodecOpen2 outTypeSets output (turns + 1) inType pipeline =
      .error failure := by
  rw [buildOnGraph, adds]
  rfl

theorem buildOnGraph_failed
    (adds : addTransforms avcodecOpen2 outTypeSets inType [] = .ok (.failed [])) :
    buildOnGraph newStage avcodecOpen2 outTypeSets output (turns + 1) inType pipeline =
      .ok (match pipeline.graph.removePartsConnectedToOutput (.held output) with
        | none => .undefined
        | some (graph, _) => .returned ⟨false, graph, output, none⟩) := by
  rw [buildOnGraph, adds]
  cases removal : pipeline.graph.removePartsConnectedToOutput (.held output) <;>
    simp [AddResult.parts, addParts, removal, Bind.bind, Except.bind, pure, Except.pure]

theorem buildOnGraph_finished (fresh : ∀ graph, newStage graph ∉ graph.stages)
    (isOpen : pipeline.Open) {parts : List PipelinePart} {outType : StreamType}
    (adds : addTransforms avcodecOpen2 outTypeSets inType [] = .ok (.finished parts outType)) :
    ∃ conversion, conversion.result = true ∧ conversion.outType = some outType ∧
      buildOnGraph newStage avcodecOpen2 outTypeSets output (turns + 1) inType pipeline =
        .ok (.returned conversion) := by
  obtain ⟨extended, isExtended, -⟩ := addParts_open fresh isOpen parts
  refine ⟨⟨true, extended.graph, extended.output, some outType⟩, rfl, rfl, ?_⟩
  rw [buildOnGraph, adds]
  simp [AddResult.parts, isExtended, Bind.bind, Except.bind, pure, Except.pure]

theorem buildOnGraph_progressed (fresh : ∀ graph, newStage graph ∉ graph.stages)
    (isOpen : pipeline.Open) {part : PipelinePart} {outType : StreamType}
    (adds : addTransforms avcodecOpen2 outTypeSets inType [] = .ok (.progressed [part] outType))
    (output : OutputRef) (turns : Nat) : ∃ next, next.Open ∧
      next.graph.removePartsConnectedToOutput (.held pipeline.output) = none ∧
      buildOnGraph newStage avcodecOpen2 outTypeSets output (turns + 1) inType pipeline =
        buildOnGraph newStage avcodecOpen2 outTypeSets output turns outType next := by
  obtain ⟨next, isNext, nextOpen, valid, input, mates⟩ := addTransform_open fresh isOpen
  refine ⟨next, nextOpen, ?_, ?_⟩
  · exact nextOpen.mated.removePartsConnectedToOutput_none (if_pos valid) mates
  · rw [buildOnGraph, adds]
    simp [AddResult.parts, addParts, isNext, Bind.bind, Except.bind]

theorem atomic_of_failed (isOpen : pipeline.Open)
    (adds : addTransforms avcodecOpen2 outTypeSets inType [] = .ok (.failed [])) :
    Atomic pipeline (buildOnGraph newStage avcodecOpen2 outTypeSets pipeline.output (turns + 1)
      inType pipeline) := by
  have read : pipeline.graph.readOutput (.held pipeline.output) = some pipeline.output :=
    if_pos isOpen.valid
  have removal : pipeline.graph.removePartsConnectedToOutput (.held pipeline.output) =
      some (pipeline.graph, []) := by
    simp [Connections.removePartsConnectedToOutput, read, isOpen.free]
  rw [buildOnGraph_failed adds, removal]
  exact fun _ => ⟨rfl, rfl, rfl⟩

theorem build_of_finished (fresh : ∀ graph, newStage graph ∉ graph.stages)
    (isOpen : pipeline.Open) {parts : List PipelinePart} {outType : StreamType}
    (adds : addTransforms avcodecOpen2 outTypeSets inType [] = .ok (.finished parts outType))
    (before : Pipeline) (output : OutputRef) (turns : Nat) :
    buildOnGraph newStage avcodecOpen2 outTypeSets output (turns + 1) inType pipeline ≠
      .ok .unfinished ∧
    Atomic before (buildOnGraph newStage avcodecOpen2 outTypeSets output (turns + 1) inType
      pipeline) := by
  obtain ⟨conversion, succeeds, -, builds⟩ := buildOnGraph_finished fresh isOpen adds
  rw [builds]
  refine ⟨by simp, ?_⟩
  intro fails
  rw [succeeds] at fails
  cases fails

theorem Decoded.progressed {audio : AudioStreamType} {decodedType : StreamType}
    (decoded : Decoded avcodecOpen2 outTypeSets inType audio decodedType) :
    addTransforms avcodecOpen2 outTypeSets inType [] =
      .ok (.progressed [.decoder decodedType] decodedType) := by
  obtain ⟨best, found⟩ := Option.ne_none_iff_exists'.mp (reachable_iff.mp decoded.reachable)
  simp only [addTransforms, decoded.kind, decoded.compressed, if_false,
    addTransformsForCompressedAudio, decoded.unasked, Bool.false_eq_true, found, decoded.created]
  rfl

theorem addTransforms_cases (avcodecOpen2 : AvCodecContext → Option AvCodecContext)
    (outTypeSets : List StreamTypeSet) (inType : StreamType) :
    (∃ failure, addTransforms avcodecOpen2 outTypeSets inType [] = .error failure) ∨
    addTransforms avcodecOpen2 outTypeSets inType [] = .ok (.failed []) ∨
    (∃ parts outType,
      addTransforms avcodecOpen2 outTypeSets inType [] = .ok (.finished parts outType)) ∨
    ∃ audio decodedType, Decoded avcodecOpen2 outTypeSets inType audio decodedType := by
  cases kind : inType.kind with
  | audio audio =>
    by_cases lpcm : inType.encoding = kAudioEncodingLpcm
    · have adds : addTransforms avcodecOpen2 outTypeSets inType [] =
          .ok (addTransformsForLpcm outTypeSets audio []) := by
        simp only [addTransforms, kind, lpcm, if_true]
      rcases addTransforms_lpcm outTypeSets audio with
        ⟨⟨parts, outType, finished⟩, -⟩ | ⟨failed, -⟩
      · exact .inr (.inr (.inl ⟨parts, outType, adds.trans (congrArg _ finished)⟩))
      · exact .inr (.inl (adds.trans (congrArg _ failed)))
    · have adds : addTransforms avcodecOpen2 outTypeSets inType [] =
          addTransformsForCompressedAudio avcodecOpen2 outTypeSets inType audio [] := by
        simp only [addTransforms, kind, lpcm, if_false]
      rw [adds, addTransformsForCompressedAudio]
      by_cases contained : outTypeSets.any (containedBy audio)
      · exact .inr (.inr (.inl ⟨[], inType, if_pos contained⟩))
      · rw [if_neg contained]
        cases found : findBestLpcm audio outTypeSets none 0 with
        | none => exact .inr (.inl rfl)
        | some best =>
          have reachable : Reachable outTypeSets audio := reachable_iff.mpr (by simp [found])
          cases created : createAudioDecoder avcodecOpen2 inType.encoding
              inType.encodingParameters audio with
          | error failure => exact .inl ⟨failure, rfl⟩
          | ok decoder =>
            cases decoder with
            | none => exact .inr (.inl rfl)
            | some decodedType =>
              refine .inr (.inr (.inr ?_))
              exact ⟨audio, decodedType, kind, lpcm, contained, reachable, created⟩
  | video _ | text | subpicture =>
    refine .inr (.inl ?_)
    simp only [addTransforms, kind]

def AddResult.behind (parts : List PipelinePart) : AddResult → AddResult
  | .failed added => .failed (parts ++ added)
  | .progressed added outType => .progressed (parts ++ added) outType
  | .finished added outType => .finished (parts ++ added) outType

theorem addTransforms_behind (parts : List PipelinePart) :
    addTransforms avcodecOpen2 outTypeSets inType parts =
      (addTransforms avcodecOpen2 outTypeSets inType []).map (AddResult.behind parts) := by
  simp only [addTransforms]
  split
  next audio kind =>
    split
    · simp only [addTransformsForLpcm, addTransformsForLpcmSet]
      split
      · simp [Except.map, AddResult.behind]
      · split_ifs <;> simp [Except.map, AddResult.behind]
    · simp only [addTransformsForCompressedAudio]
      split
      · simp [Except.map, AddResult.behind]
      · split
        · simp [Except.map, AddResult.behind]
        · cases createAudioDecoder avcodecOpen2 inType.encoding inType.encodingParameters audio with
          | error failure => rfl
          | ok decoder => cases decoder <;>
              simp [Bind.bind, Except.bind, pure, Except.pure, Except.map, AddResult.behind]
  next => simp [Except.map, AddResult.behind]

theorem buildOnGraph_built (fresh : ∀ graph, newStage graph ∉ graph.stages)
    (isOpen : pipeline.Open) {parts added : List PipelinePart} {outType : StreamType}
    (builds : buildConversionPipeline avcodecOpen2 outTypeSets turns inType parts =
      .ok (.built added outType)) :
    ∃ conversion, conversion.result = true ∧ conversion.outType = some outType ∧
      buildOnGraph newStage avcodecOpen2 outTypeSets output turns inType pipeline =
        .ok (.returned conversion) := by
  induction turns generalizing inType pipeline parts with
  | zero => cases builds
  | succ turns ih =>
    obtain ⟨result, adds, rest⟩ := build_cases builds
    rw [addTransforms_behind] at adds
    cases first : addTransforms avcodecOpen2 outTypeSets inType [] with
    | error failure =>
      rw [first] at adds
      cases adds
    | ok step =>
      rw [first] at adds
      cases adds
      cases step with
      | failed stepParts => cases rest
      | progressed stepParts decodedType =>
        obtain ⟨next, isNext, nextOpen⟩ := addParts_open fresh isOpen stepParts
        obtain ⟨conversion, succeeds, isType, later⟩ := ih nextOpen rest
        refine ⟨conversion, succeeds, isType, ?_⟩
        rw [buildOnGraph, first]
        simpa [AddResult.parts, isNext, Bind.bind, Except.bind] using later
      | finished stepParts finalType =>
        cases rest
        exact buildOnGraph_finished fresh isOpen first

-- A conversion that fails leaves the graph and the output as they were, unless it fails after a
-- decoder has been added.
theorem fails_atomically_iff (newStage : Connections → Nat)
    (fresh : ∀ graph, newStage graph ∉ graph.stages)
    (avcodecOpen2 : AvCodecContext → Option AvCodecContext) (outTypeSets : List StreamTypeSet)
    (inType : StreamType) (pipeline : Pipeline) (isOpen : pipeline.Open) (turns : Nat) :
    buildOnGraph newStage avcodecOpen2 outTypeSets pipeline.output (turns + 2) inType pipeline ≠
      .ok .unfinished ∧
    (Atomic pipeline (buildOnGraph newStage avcodecOpen2 outTypeSets pipeline.output (turns + 2)
      inType pipeline) ↔ DecodesAsAsked avcodecOpen2 outTypeSets inType) := by
  have vacuous (other : ∀ part outType, addTransforms avcodecOpen2 outTypeSets inType [] ≠
      .ok (.progressed [part] outType)) : DecodesAsAsked avcodecOpen2 outTypeSets inType := by
    intro audio decodedType decoded decodes
    exact absurd decodes.progressed (other _ _)
  rcases addTransforms_cases avcodecOpen2 outTypeSets inType with
    ⟨failure, adds⟩ | adds | ⟨parts, outType, adds⟩ | ⟨audio, decodedType, decodes⟩
  · rw [buildOnGraph_error adds]
    exact ⟨by simp, iff_of_true trivial (vacuous (by simp [adds]))⟩
  · refine ⟨?_, iff_of_true (atomic_of_failed isOpen adds) (vacuous (by simp [adds]))⟩
    rw [buildOnGraph_failed adds]
    split <;> simp
  · obtain ⟨ends, atomic⟩ :=
      build_of_finished fresh isOpen adds pipeline pipeline.output (turns + 1)
    exact ⟨ends, iff_of_true atomic (vacuous (by simp [adds]))⟩
  · obtain ⟨next, nextOpen, removal, builds⟩ := buildOnGraph_progressed fresh isOpen
      decodes.progressed pipeline.output (turns + 1)
    obtain ⟨encoding, decoded, isDecoded⟩ := createAudioDecoder_lpcm decodes.created
    rw [builds]
    have adds : addTransforms avcodecOpen2 outTypeSets decodedType [] =
        .ok (addTransformsForLpcm outTypeSets decoded []) := by
      simp only [addTransforms, isDecoded, encoding, if_true]
    have asked : DecodesAsAsked avcodecOpen2 outTypeSets inType ↔
        Reachable outTypeSets decoded := by
      constructor
      · intro usable
        exact usable audio decodedType decoded decodes isDecoded
      · intro reachable other otherType otherDecoded otherDecodes isOther
        cases decodes.kind.symm.trans otherDecodes.kind
        cases decodes.created.symm.trans otherDecodes.created
        cases isDecoded.symm.trans isOther
        exact reachable
    rcases addTransforms_lpcm outTypeSets decoded with
      ⟨⟨parts, outType, finished⟩, reachable⟩ | ⟨failed, unreachable⟩
    · obtain ⟨ends, atomic⟩ := build_of_finished fresh nextOpen
        (adds.trans (congrArg _ finished)) pipeline pipeline.output turns
      exact ⟨ends, iff_of_true atomic (asked.mpr reachable)⟩
    · -- The decoder is queued again after it has been deleted.
      rw [buildOnGraph_failed (adds.trans (congrArg _ failed)), removal]
      exact ⟨by simp, iff_of_false id fun usable => unreachable (asked.mp usable)⟩

def loneSource : Pipeline where
  graph :=
    { stages := [0]
      sources := [0]
      kind := fun _ => .activeSource }
  output := ⟨0, 0⟩

theorem loneSource_open : loneSource.Open :=
  ⟨⟨by simp [loneSource], by simp [loneSource]⟩, by decide, rfl⟩

def nextStage (graph : Connections) : Nat := graph.stages.max?.getD 0 + 1

theorem nextStage_fresh (graph : Connections) : nextStage graph ∉ graph.stages := by
  intro member
  have bound := List.le_max?_getD_of_mem (k := 0) member
  simp only [nextStage] at bound
  omega

def aac : StreamType where
  kind := .audio ⟨.signed16, 1, 48000, by simp⟩
  encoding := kAudioEncodingAac
  encodingParameters := some [17, 144]

def mono : StreamTypeSet where
  kind := .audio ⟨.signed16, ⟨1, 1, by decide⟩, ⟨8000, 96000, by decide⟩⟩
  encodings := [kAudioEncodingLpcm]

theorem undecoded_fails_atomically :
    Atomic loneSource
      (buildOnGraph nextStage (fun _ => none) [mono] loneSource.output 2 aac loneSource) := by
  apply (fails_atomically_iff nextStage nextStage_fresh (fun _ => none) [mono] aac loneSource
    loneSource_open 0).2.mpr
  intro audio decodedType decoded decodes
  have first := decodes.progressed
  rw [show addTransforms (fun _ => none) [mono] aac [] = .ok (.failed []) by decide +kernel] at first
  cases first

def stereo (context : AvCodecContext) : Option AvCodecContext :=
  some { context with
    sampleFmt := .s16
    channels := 2 }

def decodedStereo : StreamType where
  kind := .audio ⟨.signed16, 2, 48000, by simp⟩
  encoding := kAudioEncodingLpcm
  encodingParameters := none

theorem decoder_not_removed :
    buildConversionPipeline stereo [mono] 2 aac [] = .ok (.failed [.decoder decodedStereo]) ∧
      ¬ Atomic loneSource
        (buildOnGraph nextStage stereo [mono] loneSource.output 2 aac loneSource) := by
  refine ⟨by decide +kernel, ?_⟩
  have adds : addTransforms stereo [mono] aac [] =
      .ok (.progressed [.decoder decodedStereo] decodedStereo) := by decide +kernel
  have fails : addTransforms stereo [mono] decodedStereo [] = .ok (.failed []) := by decide +kernel
  obtain ⟨next, -, removal, builds⟩ := buildOnGraph_progressed nextStage_fresh
    loneSource_open adds loneSource.output 1
  rw [builds, buildOnGraph_failed fails, removal]
  exact id

end MojoMedia.ConversionPipeline
