import MojoMedia.Framework.LpcmReformatter
import MojoMedia.FrameworkFfmpeg.AvCodecContext

set_option autoImplicit false

-- `NOTREACHED` does nothing here.
namespace MojoMedia

open StreamType Framework

def Range.contains (range : Range) (value : UInt32) : Prop :=
  range.min ≤ value ∧ value ≤ range.max

instance (range : Range) (value : UInt32) : Decidable (range.contains value) :=
  inferInstanceAs (Decidable (_ ∧ _))

def AudioStreamTypeSet.contains (set : AudioStreamTypeSet) (type : AudioStreamType) : Prop :=
  (set.sampleFormat = type.sampleFormat ∨ set.sampleFormat = .any) ∧
    set.channels.contains type.framesPerSecond ∧
    set.framesPerSecond.contains type.framesPerSecond

instance (set : AudioStreamTypeSet) (type : AudioStreamType) : Decidable (set.contains type) :=
  inferInstanceAs (Decidable (_ ∧ _))

def StreamTypeSet.includesEncoding (set : StreamTypeSet) (encoding : String) : Bool :=
  set.encodings.any fun setEncoding => setEncoding = encoding

def StreamTypeSet.Includes (set : StreamTypeSet) (type : StreamType) : Prop :=
  ∃ audioSet audio, set.kind = .audio audioSet ∧ type.kind = .audio audio ∧
    type.encoding ∈ set.encodings ∧
    (audio.sampleFormat = audioSet.sampleFormat ∨ audioSet.sampleFormat = .any) ∧
    audioSet.channels.contains audio.channels ∧
    audioSet.framesPerSecond.contains audio.framesPerSecond

namespace ConversionPipeline

def score (inType : AudioStreamType) (outTypeSet : AudioStreamTypeSet) : Nat :=
  let formatScore :=
    if inType.sampleFormat = outTypeSet.sampleFormat ∨ outTypeSet.sampleFormat = .any then 10
    else
      match outTypeSet.sampleFormat with
      | .any => 0
      | .unsigned8 => 0
      | .signed16 => 1
      | .signed24In32 => 2
      | .float => 3
  if ¬ outTypeSet.channels.contains inType.channels then 0
  else if ¬ outTypeSet.framesPerSecond.contains inType.framesPerSecond then 0
  else 1 + formatScore + 10 + 50

def findBestLpcm (inType : AudioStreamType) :
    List StreamTypeSet → Option AudioStreamTypeSet → Nat → Option AudioStreamTypeSet
  | [], best, _ => best
  | outTypeSet :: rest, best, bestScore =>
    match outTypeSet.kind with
    | .audio audioSet =>
      if outTypeSet.includesEncoding kAudioEncodingLpcm ∧ bestScore < score inType audioSet then
        findBestLpcm inType rest (some audioSet) (score inType audioSet)
      else findBestLpcm inType rest best bestScore
    | .video _ | .text | .subpicture => findBestLpcm inType rest best bestScore

inductive PipelinePart where
  | decoder (outputStreamType : StreamType)
  | reformatter (inType outType : AudioStreamType)
  deriving Repr, DecidableEq

inductive AddResult where
  | failed (parts : List PipelinePart)
  | progressed (parts : List PipelinePart) (outType : StreamType)
  | finished (parts : List PipelinePart) (outType : StreamType)
  deriving Repr, DecidableEq

def containedBy (audio : AudioStreamType) (set : StreamTypeSet) : Bool :=
  match set.kind with
  | .audio audioSet => audioSet.contains audio
  | _ => false

section Adding

variable (avcodecOpen2 : AvCodecContext → Option AvCodecContext)
  (outTypeSets : List StreamTypeSet)

def addTransformsForCompressedAudio (inType : StreamType) (audio : AudioStreamType)
    (parts : List PipelinePart) : Except ConversionFailure AddResult :=
  if outTypeSets.any (containedBy audio) then .ok (.finished parts inType)
  else
    match findBestLpcm audio outTypeSets none 0 with
    | none => .ok (.failed parts)
    | some _ => do
      match ← createAudioDecoder avcodecOpen2 inType.encoding inType.encodingParameters audio with
      | none => return .failed parts
      | some outType => return .progressed (parts ++ [.decoder outType]) outType

def addTransformsForLpcmSet (audio : AudioStreamType) (outTypeSet : AudioStreamTypeSet)
    (parts : List PipelinePart) : AddResult :=
  let outType := LpcmReformatter.outTypeOf audio outTypeSet
  let added :=
    if audio.sampleFormat ≠ outTypeSet.sampleFormat ∧ outTypeSet.sampleFormat ≠ .any then
      parts ++ [.reformatter audio outType]
    else parts
  if ¬ outTypeSet.channels.contains audio.channels then .failed added
  else if ¬ outTypeSet.framesPerSecond.contains audio.framesPerSecond then .failed added
  else
    .finished added
      { kind := .audio outType
        encoding := kAudioEncodingLpcm
        encodingParameters := none }

def addTransformsForLpcm (audio : AudioStreamType) (parts : List PipelinePart) : AddResult :=
  match findBestLpcm audio outTypeSets none 0 with
  | none => .failed parts
  | some best => addTransformsForLpcmSet audio best parts

def addTransforms (inType : StreamType) (parts : List PipelinePart) :
    Except ConversionFailure AddResult :=
  match inType.kind with
  | .audio audio =>
    if inType.encoding = kAudioEncodingLpcm then
      .ok (addTransformsForLpcm outTypeSets audio parts)
    else addTransformsForCompressedAudio avcodecOpen2 outTypeSets inType audio parts
  | _ => .ok (.failed parts)

inductive Outcome where
  | unfinished
  | failed (parts : List PipelinePart)
  | built (parts : List PipelinePart) (outType : StreamType)
  deriving Repr, DecidableEq

def buildConversionPipeline : Nat → StreamType → List PipelinePart →
    Except ConversionFailure Outcome
  | 0, _, _ => .ok .unfinished
  | turns + 1, typeToConvert, parts => do
    match ← addTransforms avcodecOpen2 outTypeSets typeToConvert parts with
    | .failed parts => return .failed parts
    | .progressed parts convertedType => buildConversionPipeline turns convertedType parts
    | .finished parts convertedType => return .built parts convertedType

end Adding

variable {avcodecOpen2 : AvCodecContext → Option AvCodecContext}
  {outTypeSets : List StreamTypeSet}

theorem findBestLpcm_set {inType : AudioStreamType} {found : AudioStreamTypeSet}
    (sets : List StreamTypeSet) (best : Option AudioStreamTypeSet) (bestScore : Nat)
    (finds : findBestLpcm inType sets best bestScore = some found) :
    best = some found ∨ ∃ set ∈ sets, set.kind = .audio found ∧
      kAudioEncodingLpcm ∈ set.encodings := by
  induction sets generalizing best bestScore with
  | nil => exact .inl finds
  | cons set rest ih =>
    have later : (∃ other ∈ rest, other.kind = .audio found ∧
        kAudioEncodingLpcm ∈ other.encodings) →
        ∃ other ∈ set :: rest, other.kind = .audio found ∧
          kAudioEncodingLpcm ∈ other.encodings := by
      rintro ⟨other, member, isFound⟩
      exact ⟨other, List.mem_cons_of_mem _ member, isFound⟩
    simp only [findBestLpcm] at finds
    split at finds
    next audioSet kind =>
      split at finds
      next better =>
        rcases ih _ _ finds with isSet | found
        · cases isSet
          refine .inr ⟨set, List.mem_cons_self, kind, ?_⟩
          simpa [StreamTypeSet.includesEncoding] using better.1
        · exact .inr (later found)
      next => exact (ih _ _ finds).imp_right later
    all_goals exact (ih _ _ finds).imp_right later

theorem addTransformsForLpcm_finished {audio : AudioStreamType} {parts added : List PipelinePart}
    {outType : StreamType}
    (finishes : addTransformsForLpcm outTypeSets audio parts = .finished added outType) :
    ∃ set ∈ outTypeSets, set.Includes outType := by
  simp only [addTransformsForLpcm] at finishes
  split at finishes
  · cases finishes
  next best found =>
    obtain ⟨set, member, kind, encoding⟩ :=
      (findBestLpcm_set outTypeSets none 0 found).resolve_left nofun
    simp only [addTransformsForLpcmSet] at finishes
    split at finishes
    · cases finishes
    next channels =>
      split at finishes
      · cases finishes
      next framesPerSecond =>
        cases finishes
        refine ⟨set, member, best, _, kind, rfl, encoding, ?_, ?_, ?_⟩
        · unfold LpcmReformatter.outTypeOf
          split
          next any => exact .inr any
          next => exact .inl rfl
        · rw [LpcmReformatter.outTypeOf_channels]
          exact not_not.mp channels
        · rw [LpcmReformatter.outTypeOf_framesPerSecond]
          exact not_not.mp framesPerSecond

theorem addTransformsForLpcm_progressed {audio : AudioStreamType}
    {parts added : List PipelinePart} {outType : StreamType} :
    addTransformsForLpcm outTypeSets audio parts ≠ .progressed added outType := by
  intro progresses
  simp only [addTransformsForLpcm, addTransformsForLpcmSet] at progresses
  split at progresses
  · cases progresses
  · split at progresses
    · cases progresses
    · split at progresses <;> cases progresses

theorem build_cases {turns : Nat} {inType : StreamType} {parts : List PipelinePart}
    {outcome : Outcome}
    (builds : buildConversionPipeline avcodecOpen2 outTypeSets (turns + 1) inType parts =
      .ok outcome) :
    ∃ result, addTransforms avcodecOpen2 outTypeSets inType parts = .ok result ∧
      match result with
      | .failed added => outcome = .failed added
      | .progressed added outType =>
        buildConversionPipeline avcodecOpen2 outTypeSets turns outType added = .ok outcome
      | .finished added outType => outcome = .built added outType := by
  obtain ⟨result, adds, rest⟩ := ConversionFailure.bind_ok builds
  refine ⟨result, adds, ?_⟩
  cases result with
  | failed added =>
    cases rest
    rfl
  | progressed added outType => exact rest
  | finished added outType =>
    cases rest
    rfl

theorem build_lpcm {turns : Nat} {inType : StreamType} (lpcm : inType.IsLpcm)
    {parts : List PipelinePart} {outcome : Outcome}
    (builds : buildConversionPipeline avcodecOpen2 outTypeSets (turns + 1) inType parts =
      .ok outcome) :
    (∃ added, outcome = .failed added) ∨
      ∃ added outType, outcome = .built added outType ∧
        ∃ set ∈ outTypeSets, set.Includes outType := by
  obtain ⟨encoding, audio, kind⟩ := lpcm
  obtain ⟨result, adds, rest⟩ := build_cases builds
  simp only [addTransforms, kind, encoding, if_true, Except.ok.injEq] at adds
  cases result with
  | failed added => exact .inl ⟨added, rest⟩
  | progressed added outType => exact absurd adds addTransformsForLpcm_progressed
  | finished added outType =>
    exact .inr ⟨added, outType, rest, addTransformsForLpcm_finished adds⟩

theorem addTransforms_compressed {inType : StreamType} (compressed : ¬ inType.IsLpcm)
    {parts : List PipelinePart} {result : AddResult}
    (adds : addTransforms avcodecOpen2 outTypeSets inType parts = .ok result) :
    (∃ added, result = .failed added) ∨
      (∃ added outType, result = .progressed added outType ∧ outType.IsLpcm) ∨
      ∃ audio, inType.kind = .audio audio ∧ outTypeSets.any (containedBy audio) ∧
        result = .finished parts inType := by
  simp only [addTransforms] at adds
  split at adds
  next audio kind =>
    split at adds
    next encoding => exact absurd ⟨encoding, audio, kind⟩ compressed
    next =>
      simp only [addTransformsForCompressedAudio] at adds
      split at adds
      next contained =>
        cases adds
        exact .inr (.inr ⟨audio, kind, contained, rfl⟩)
      next =>
        split at adds
        · cases adds
          exact .inl ⟨_, rfl⟩
        · obtain ⟨decoder, created, rest⟩ := ConversionFailure.bind_ok adds
          split at rest
          · cases rest
            exact .inl ⟨_, rfl⟩
          next outType =>
            cases rest
            exact .inr (.inl ⟨_, outType, rfl, createAudioDecoder_lpcm created⟩)
  next =>
    cases adds
    exact .inl ⟨_, rfl⟩

def PassesAsAsked (inType : StreamType) (outTypeSets : List StreamTypeSet) : Prop :=
  ∀ audio, inType.kind = .audio audio → inType.encoding ≠ kAudioEncodingLpcm →
    outTypeSets.any (containedBy audio) → ∃ set ∈ outTypeSets, set.Includes inType

theorem conversion_sound_iff (avcodecOpen2 : AvCodecContext → Option AvCodecContext)
    (inType : StreamType) (outTypeSets : List StreamTypeSet) :
    (∀ turns, buildConversionPipeline avcodecOpen2 outTypeSets (turns + 2) inType [] ≠
      .ok .unfinished) ∧
    ((∀ turns parts outType,
        buildConversionPipeline avcodecOpen2 outTypeSets turns inType [] =
          .ok (.built parts outType) → ∃ set ∈ outTypeSets, set.Includes outType) ↔
      PassesAsAsked inType outTypeSets) := by
  refine ⟨?_, ?_, ?_⟩
  · intro turns unfinished
    by_cases lpcm : inType.IsLpcm
    · rcases build_lpcm lpcm unfinished with ⟨added, failed⟩ | ⟨added, outType, built, -⟩
      · cases failed
      · cases built
    · obtain ⟨result, adds, rest⟩ := build_cases unfinished
      rcases addTransforms_compressed lpcm adds with
        ⟨added, rfl⟩ | ⟨added, outType, rfl, decoded⟩ | ⟨audio, -, -, rfl⟩
      · cases rest
      · rcases build_lpcm decoded rest with ⟨added, failed⟩ | ⟨added, outType, built, -⟩
        · cases failed
        · cases built
      · cases rest
  · intro sound audio kind compressed contained
    apply sound 1 [] inType
    have adds : addTransforms avcodecOpen2 outTypeSets inType [] = .ok (.finished [] inType) := by
      simp only [addTransforms, kind, compressed, if_false, addTransformsForCompressedAudio,
        contained, if_true]
    simp only [buildConversionPipeline, adds]
    rfl
  · intro passes turns parts outType builds
    cases turns with
    | zero => cases builds
    | succ turns =>
      by_cases lpcm : inType.IsLpcm
      · rcases build_lpcm lpcm builds with ⟨added, failed⟩ | ⟨added, other, built, included⟩
        · cases failed
        · cases built
          exact included
      · obtain ⟨result, adds, rest⟩ := build_cases builds
        rcases addTransforms_compressed lpcm adds with
          ⟨added, rfl⟩ | ⟨added, other, rfl, decoded⟩ | ⟨audio, kind, contained, rfl⟩
        · cases rest
        · cases turns with
          | zero => cases rest
          | succ turns =>
            rcases build_lpcm decoded rest with ⟨added, failed⟩ | ⟨added, last, built, included⟩
            · cases failed
            · cases built
              exact included
        · cases rest
          apply passes audio kind _ contained
          intro encoding
          exact lpcm ⟨encoding, audio, kind⟩

def vorbis : StreamType where
  kind := .audio ⟨.signed16, 2, 48000, nofun⟩
  encoding := kAudioEncodingVorbis
  encodingParameters := none

def manyChannels : StreamTypeSet where
  kind := .audio ⟨.any, ⟨8, 48000, by decide⟩, ⟨8000, 48000, by decide⟩⟩
  encodings := [kAudioEncodingLpcm]

theorem vorbis_passes :
    buildConversionPipeline (fun _ => none) [manyChannels] 1 vorbis [] = .ok (.built [] vorbis) ∧
      ¬ ∃ set ∈ [manyChannels], set.Includes vorbis := by
  constructor
  · decide +kernel
  · rintro ⟨set, member, audioSet, audio, isSet, isAudio, encoding, -⟩
    cases List.mem_singleton.mp member
    simp [vorbis, manyChannels, kAudioEncodingVorbis, kAudioEncodingLpcm] at encoding

end ConversionPipeline

end MojoMedia
