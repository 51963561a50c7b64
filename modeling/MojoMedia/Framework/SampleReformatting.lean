import MojoMedia.Framework.CopySample

set_option autoImplicit false

namespace MojoMedia.Framework

namespace IntegerFormat

def typeOf (format : IntegerFormat) (channels framesPerSecond : UInt32) : AudioStreamType where
  sampleFormat := format.sampleFormat
  channels
  framesPerSecond
  sized := by cases format <;> decide

def setOf (format : IntegerFormat) (channels framesPerSecond : UInt32) : AudioStreamTypeSet where
  sampleFormat := format.sampleFormat
  channels := ⟨channels, channels, UInt32.le_refl _⟩
  framesPerSecond := ⟨framesPerSecond, framesPerSecond, UInt32.le_refl _⟩

theorem size_pos (format : IntegerFormat) : 0 < format.size := by
  cases format <;> decide

@[simp] theorem length_bytes (format : IntegerFormat) (sample : format.Sample) :
    (format.bytes sample).length = format.size :=
  LittleEndian.length_store _ _

theorem read_bytes (format : IntegerFormat) (sample : format.Sample) :
    format.read (format.bytes sample) = sample := by
  have room : 2 ^ format.width = 256 ^ format.size := by cases format <;> rfl
  rw [read, bytes, LittleEndian.load_store, ← room, Nat.mod_eq_of_lt sample.isLt,
    BitVec.ofNat_toNat, BitVec.setWidth_eq]

def packet (format : IntegerFormat) (pts : Int) (endOfStream : Bool)
    (samples : List format.Sample) : Packet where
  pts
  endOfStream
  payload := (samples.map format.bytes).flatten

theorem size_packet (format : IntegerFormat) (pts : Int) (endOfStream : Bool)
    (samples : List format.Sample) :
    (format.packet pts endOfStream samples).size = samples.length * format.size := by
  have sized : ∀ sample ∈ samples.map format.bytes, sample.length = format.size := by
    intro sample member
    obtain ⟨source, -, rfl⟩ := List.mem_map.mp member
    exact length_bytes _ _
  rw [Packet.size, packet, LpcmReformatter.length_flatten_of_sized sized, List.length_map]

end IntegerFormat

theorem take_drop_flatten {α : Type} {size : Nat} {samples : List (List α)}
    (sized : ∀ sample ∈ samples, sample.length = size) (index : Nat)
    (inside : index < samples.length) :
    (samples.flatten.drop (index * size)).take size = samples[index] := by
  induction samples generalizing index with
  | nil => cases inside
  | cons sample rest ih =>
    have first : sample.length = size := sized sample List.mem_cons_self
    rw [List.flatten_cons]
    cases index with
    | zero => simp [← first]
    | succ index =>
      have skipped : (index + 1) * size = sample.length + index * size := by
        rw [Nat.succ_mul, first, Nat.add_comm]
      rw [skipped, List.drop_length_add_append, List.getElem_cons_succ]
      exact ih (fun sample member => sized sample (List.mem_cons_of_mem _ member)) index
        (Nat.lt_of_succ_lt_succ inside)

theorem samplesOf_flatten {size : Nat} (some : 0 < size) {samples : List (List UInt8)}
    (sized : ∀ sample ∈ samples, sample.length = size) :
    samplesOf size samples.flatten = samples := by
  have count : samples.flatten.length / size = samples.length := by
    rw [LpcmReformatter.length_flatten_of_sized sized, Nat.mul_div_cancel _ some]
  apply List.ext_getElem
  · rw [samplesOf, List.length_map, List.length_range, count]
  · intro index _ inside
    simp only [samplesOf, List.getElem_map, List.getElem_range]
    exact take_drop_flatten sized index inside

namespace IntegerFormat

theorem samplesOf_packet (format : IntegerFormat) (pts : Int) (endOfStream : Bool)
    (samples : List format.Sample) :
    samplesOf format.size (format.packet pts endOfStream samples).payload =
      samples.map format.bytes := by
  apply samplesOf_flatten format.size_pos
  intro sample member
  obtain ⟨source, -, rfl⟩ := List.mem_map.mp member
  exact length_bytes _ _

theorem packet_injective (format : IntegerFormat) (pts : Int) (endOfStream : Bool) :
    Function.Injective (format.packet pts endOfStream) := by
  intro samples others same
  have stored := congrArg (samplesOf format.size ∘ Packet.payload) same
  simp only [Function.comp_apply, samplesOf_packet] at stored
  exact List.map_injective_iff.mpr (Function.LeftInverse.injective format.read_bytes) stored

end IntegerFormat

def reformatter (inFormat outFormat : IntegerFormat) (channels framesPerSecond : UInt32) :
    LpcmReformatter :=
  .create (inFormat.typeOf channels framesPerSecond) (outFormat.setOf channels framesPerSecond)
    (fun bytes => outFormat.bytes (copySample inFormat outFormat (inFormat.read bytes)))
    (by cases outFormat <;> exact fun _ => IntegerFormat.length_bytes _ _)

theorem reformatter_outType (inFormat outFormat : IntegerFormat)
    (channels framesPerSecond : UInt32) :
    (reformatter inFormat outFormat channels framesPerSecond).outType =
      outFormat.typeOf channels framesPerSecond := by
  cases outFormat <;> rfl

namespace IntegerFormat

theorem bytesPerFrame_typeOf (format : IntegerFormat) (channels framesPerSecond : UInt32) :
    (format.typeOf channels framesPerSecond).bytesPerFrame =
      format.size * channels.toNat % 2 ^ 32 := rfl

end IntegerFormat

def Reformats (inFormat outFormat : IntegerFormat) (channels framesPerSecond : UInt32)
    (input output : Packet) : Prop :=
  (reformatter inFormat outFormat channels framesPerSecond).transformPacket input true =
      some { done := true, output := some output } ∧
    output.size =
      (inFormat.typeOf channels framesPerSecond).frameCount input.size *
        (outFormat.size * channels.toNat)

section Packets

variable {inFormat outFormat : IntegerFormat} {channels framesPerSecond : UInt32} {pts : Int}
  {endOfStream : Bool} {samples : List inFormat.Sample} {frames : Nat}

theorem reformats_nil :
    Reformats inFormat outFormat channels framesPerSecond (inFormat.packet pts endOfStream [])
      (outFormat.packet pts endOfStream []) := by
  refine ⟨rfl, ?_⟩
  rw [IntegerFormat.size_packet, IntegerFormat.size_packet, List.length_nil, List.length_nil,
    Nat.zero_mul, Nat.zero_mul, AudioStreamType.frameCount, Nat.zero_div, Nat.zero_mul]

theorem pos_of_samples (whole : samples.length = frames * channels.toNat)
    (nonempty : samples ≠ []) : 0 < frames ∧ 0 < channels.toNat := by
  have count := List.length_pos_of_ne_nil nonempty
  rw [whole] at count
  exact ⟨Nat.pos_of_mul_pos_right count, Nat.pos_of_mul_pos_left count⟩

theorem size_frames (whole : samples.length = frames * channels.toNat) (format : IntegerFormat) :
    samples.length * format.size = frames * (format.size * channels.toNat) := by
  rw [whole, Nat.mul_assoc, Nat.mul_comm channels.toNat]

theorem frameCount_packet (whole : samples.length = frames * channels.toNat)
    (nonempty : samples ≠ []) (fits : inFormat.size * channels.toNat < 2 ^ 32) :
    (inFormat.typeOf channels framesPerSecond).frameCount
      (inFormat.packet pts endOfStream samples).size = frames := by
  rw [AudioStreamType.frameCount, IntegerFormat.bytesPerFrame_typeOf, Nat.mod_eq_of_lt fits,
    IntegerFormat.size_packet, size_frames whole]
  exact Nat.mul_div_cancel _ (Nat.mul_pos inFormat.size_pos (pos_of_samples whole nonempty).2)

theorem transformPacket_packet (whole : samples.length = frames * channels.toNat)
    (nonempty : samples ≠ []) (fits : inFormat.size * channels.toNat < 2 ^ 32)
    (outFits : outFormat.size * channels.toNat < 2 ^ 32) :
    (reformatter inFormat outFormat channels framesPerSecond).transformPacket
        (inFormat.packet pts endOfStream samples) true =
      some
        { done := true
          output := outFormat.packet pts endOfStream
            (samples.map (copySample inFormat outFormat)) } := by
  have frameSize : 0 < inFormat.size * channels.toNat :=
    Nat.mul_pos inFormat.size_pos (pos_of_samples whole nonempty).2
  have size : (inFormat.packet pts endOfStream samples).size ≠ 0 := by
    rw [IntegerFormat.size_packet, size_frames whole]
    exact Nat.ne_of_gt (Nat.mul_pos (pos_of_samples whole nonempty).1 frameSize)
  have inType : (reformatter inFormat outFormat channels framesPerSecond).inType =
    inFormat.typeOf channels framesPerSecond := rfl
  have divisor : (inFormat.typeOf channels framesPerSecond).bytesPerFrame ≠ 0 := by
    rw [IntegerFormat.bytesPerFrame_typeOf, Nat.mod_eq_of_lt fits]
    exact Nat.ne_of_gt frameSize
  have room : (outFormat.typeOf channels framesPerSecond).minBufferSize frames /
      (outFormat.typeOf channels framesPerSecond).sampleSize = samples.length := by
    rw [AudioStreamType.minBufferSize, IntegerFormat.bytesPerFrame_typeOf,
      Nat.mod_eq_of_lt outFits, ← size_frames whole]
    exact Nat.mul_div_cancel _ outFormat.size_pos
  have stored : samplesOf (inFormat.typeOf channels framesPerSecond).sampleSize
      (inFormat.packet pts endOfStream samples).payload = samples.map inFormat.bytes :=
    inFormat.samplesOf_packet pts endOfStream samples
  simp only [LpcmReformatter.transformPacket, if_neg size, reformatter_outType, inType,
    if_neg divisor, frameCount_packet whole nonempty fits, room, stored, if_true]
  rw [LpcmReformatter.reformat_eq_map]
  · simp [IntegerFormat.packet, reformatter, LpcmReformatter.create, Function.comp_def,
      IntegerFormat.read_bytes]
  · rw [inType, List.length_map, whole]
    rfl
  · rw [uninitialized, List.length_replicate, List.length_map]

theorem div_mod_ne {count size limit : Nat} (someCount : 0 < count) (someLimit : 0 < limit)
    (beyond : limit ≤ size) : count * size / (size % limit) ≠ count := by
  intro same
  have below : size % limit < limit := Nat.mod_lt _ someLimit
  have double : 2 * (size % limit) ≤ size := by
    have parts := Nat.div_add_mod size limit
    have quotient : limit ≤ limit * (size / limit) :=
      Nat.le_mul_of_pos_right _ (Nat.div_pos beyond someLimit)
    omega
  have divisor : 0 < size % limit := by
    apply Nat.pos_of_ne_zero
    intro none
    rw [none, Nat.div_zero] at same
    omega
  have more : 2 * count ≤ count * size / (size % limit) := by
    rw [Nat.le_div_iff_mul_le divisor]
    calc 2 * count * (size % limit) = count * (2 * (size % limit)) := by
          rw [Nat.mul_comm 2, Nat.mul_assoc]
      _ ≤ count * size := Nat.mul_le_mul_left _ double
  omega

theorem fits_of_reformats (whole : samples.length = frames * channels.toNat)
    (nonempty : samples ≠ []) {output : Packet}
    (size : output.size = samples.length * outFormat.size)
    (reformats : Reformats inFormat outFormat channels framesPerSecond
      (inFormat.packet pts endOfStream samples) output) :
    inFormat.size * channels.toNat < 2 ^ 32 ∧ outFormat.size * channels.toNat < 2 ^ 32 := by
  obtain ⟨returns, counted⟩ := reformats
  obtain ⟨someFrames, someChannels⟩ := pos_of_samples whole nonempty
  have frameSize := Nat.mul_pos inFormat.size_pos someChannels
  have outFrameSize := Nat.mul_pos outFormat.size_pos someChannels
  have inSize : (inFormat.packet pts endOfStream samples).size =
      frames * (inFormat.size * channels.toNat) := by
    rw [IntegerFormat.size_packet, size_frames whole]
  have computed := LpcmReformatter.transformPacket_size
    (by rw [inSize]; exact Nat.ne_of_gt (Nat.mul_pos someFrames frameSize)) returns rfl
  rw [reformatter_outType] at computed
  rw [size, size_frames whole] at counted computed
  -- The frames that are counted are the frames of the packet.
  have all : (inFormat.typeOf channels framesPerSecond).frameCount
      (inFormat.packet pts endOfStream samples).size = frames :=
    (Nat.eq_of_mul_eq_mul_right outFrameSize counted).symm
  constructor
  · by_contra cutOff
    rw [AudioStreamType.frameCount, IntegerFormat.bytesPerFrame_typeOf, inSize] at all
    exact div_mod_ne someFrames (by decide) (Nat.le_of_not_lt cutOff) all
  · change _ = AudioStreamType.minBufferSize _
      ((inFormat.typeOf channels framesPerSecond).frameCount _) at computed
    rw [all, AudioStreamType.minBufferSize, IntegerFormat.bytesPerFrame_typeOf] at computed
    rw [Nat.eq_of_mul_eq_mul_left someFrames computed]
    exact Nat.mod_lt _ (by decide)

theorem reformats_iff (whole : samples.length = frames * channels.toNat)
    {outSamples : List outFormat.Sample} (length : outSamples.length = samples.length) :
    Reformats inFormat outFormat channels framesPerSecond
        (inFormat.packet pts endOfStream samples) (outFormat.packet pts endOfStream outSamples) ↔
      outSamples = samples.map (copySample inFormat outFormat) ∧
        (samples = [] ∨
          inFormat.size * channels.toNat < 2 ^ 32 ∧ outFormat.size * channels.toNat < 2 ^ 32) := by
  rcases eq_or_ne samples [] with rfl | nonempty
  · rw [List.length_nil, List.length_eq_zero_iff] at length
    subst length
    exact iff_of_true reformats_nil ⟨rfl, .inl rfl⟩
  have size : (outFormat.packet pts endOfStream outSamples).size =
      samples.length * outFormat.size := by
    rw [IntegerFormat.size_packet, length]
  constructor
  · intro reformats
    have fits := fits_of_reformats whole nonempty size reformats
    refine ⟨?_, .inr fits⟩
    have returns := reformats.1
    rw [transformPacket_packet whole nonempty fits.1 fits.2] at returns
    simp only [Option.some.injEq, TransformResult.mk.injEq] at returns
    exact outFormat.packet_injective pts endOfStream returns.2.1.symm
  · rintro ⟨rfl, empty | ⟨fits, outFits⟩⟩
    · exact absurd empty nonempty
    · refine ⟨transformPacket_packet whole nonempty fits outFits, ?_⟩
      rw [size, size_frames whole, frameCount_packet whole nonempty fits]

theorem reformats_values_iff (whole : samples.length = frames * channels.toNat)
    (meant : inFormat.Sample → Int) :
    (∃ outSamples : List outFormat.Sample,
      Reformats inFormat outFormat channels framesPerSecond
          (inFormat.packet pts endOfStream samples)
          (outFormat.packet pts endOfStream outSamples) ∧
        outSamples.map outFormat.value = samples.map meant) ↔
      samples = [] ∨
        (inFormat.size * channels.toNat < 2 ^ 32 ∧ outFormat.size * channels.toNat < 2 ^ 32) ∧
          ∀ sample ∈ samples,
            outFormat.value (copySample inFormat outFormat sample) = meant sample := by
  constructor
  · rintro ⟨outSamples, reformats, values⟩
    have length : outSamples.length = samples.length := by
      simpa using congrArg List.length values
    obtain ⟨rfl, empty | fits⟩ := (reformats_iff whole length).mp reformats
    · exact .inl empty
    · rw [List.map_map, List.map_inj_left] at values
      exact .inr ⟨fits, values⟩
  · intro right
    refine ⟨samples.map (copySample inFormat outFormat),
      (reformats_iff whole (List.length_map _)).mpr ⟨rfl, right.imp_right And.left⟩, ?_⟩
    rw [List.map_map, List.map_inj_left]
    intro sample member
    rcases right with rfl | ⟨-, values⟩
    · cases member
    · exact values sample member

end Packets

theorem narrowed_iff (outFormat : IntegerFormat) (channels framesPerSecond : UInt32) (pts : Int)
    (endOfStream : Bool) (samples : List IntegerFormat.signed24In32.Sample) (frames : Nat)
    (whole : samples.length = frames * channels.toNat) :
    (∃ outSamples : List outFormat.Sample,
      Reformats .signed24In32 outFormat channels framesPerSecond
          (IntegerFormat.signed24In32.packet pts endOfStream samples)
          (outFormat.packet pts endOfStream outSamples) ∧
        outSamples.map outFormat.value = samples.map (narrowed outFormat)) ↔
      samples = [] ∨
        4 * channels.toNat < 2 ^ 32 ∧ ∀ sample ∈ samples, Unharmed outFormat sample := by
  have narrower : outFormat.size * channels.toNat ≤ 4 * channels.toNat := by
    apply Nat.mul_le_mul_right
    cases outFormat <;> decide
  have bounds : 4 * channels.toNat < 2 ^ 32 ∧ outFormat.size * channels.toNat < 2 ^ 32 ↔
      4 * channels.toNat < 2 ^ 32 :=
    and_iff_left_of_imp (Nat.lt_of_le_of_lt narrower)
  refine (reformats_values_iff whole (narrowed outFormat)).trans ?_
  exact or_congr_right (and_congr bounds
    (forall₂_congr fun sample _ => copySample_narrowed_iff outFormat sample))

theorem lowest_narrowed :
    ∃ outSamples : List IntegerFormat.signed16.Sample,
      Reformats .signed24In32 .signed16 2 48000
          (IntegerFormat.signed24In32.packet 0 false [-0x800000#32, -0x800000#32])
          (IntegerFormat.signed16.packet 0 false outSamples) ∧
        outSamples.map IntegerFormat.signed16.value =
          [-0x800000#32, -0x800000#32].map (narrowed .signed16) := by
  apply (narrowed_iff .signed16 2 48000 0 false [-0x800000#32, -0x800000#32] 1 rfl).mpr
  refine .inr ⟨by decide, ?_⟩
  simp [Unharmed]

theorem silence_not_narrowed :
    ¬ ∃ outSamples : List IntegerFormat.signed16.Sample,
      Reformats .signed24In32 .signed16 2 48000
          (IntegerFormat.signed24In32.packet 0 false [0#32, 0#32])
          (IntegerFormat.signed16.packet 0 false outSamples) ∧
        outSamples.map IntegerFormat.signed16.value =
          [0#32, 0#32].map (narrowed .signed16) := by
  intro narrowed
  have whole : [0#32, 0#32].length = 1 * (2 : UInt32).toNat := rfl
  rcases (reformats_values_iff whole _).mp narrowed with empty | ⟨-, values⟩
  · cases empty
  · exact absurd (values 0#32 List.mem_cons_self) (by decide)

namespace IntegerFormat

def bits : IntegerFormat → Nat
  | .unsigned8 => 8
  | .signed16 => 16
  | .signed24In32 => 24

end IntegerFormat

def Survives : (narrow wide : IntegerFormat) → narrow.Sample → Prop
  | .unsigned8, .signed24In32, _ => False
  | .signed16, .signed24In32, sample => sample = 0x8000#16
  | _, _, _ => True

def level (format : IntegerFormat) (sample : format.Sample) : Int :=
  format.value sample - format.silence

theorem survives_iff {narrow wide : IntegerFormat} (wider : narrow.bits < wide.bits)
    (sample : narrow.Sample) :
    copySample wide narrow (copySample narrow wide sample) = sample ∧
        level wide (copySample narrow wide sample) =
          level narrow sample * 2 ^ (wide.bits - narrow.bits) ↔
      Survives narrow wide sample := by
  cases narrow <;> cases wide <;> try (exact absurd wider (by decide))
  · refine iff_of_true ⟨uint8_int16_uint8 sample, ?_⟩ trivial
    change (CopySample.int16FromUint8 sample).toInt - 0 = (sample.toNat - 128) * 2 ^ 8
    rw [int16FromUint8_level, Int.sub_zero]
  · refine iff_of_false ?_ id
    rintro ⟨back, kept⟩
    change CopySample.uint8FromInt32 _ = sample at back
    change (CopySample.int32FromUint8 sample).toInt - 0 = (sample.toNat - 128) * 2 ^ 16 at kept
    rw [uint8FromInt32_eq] at back
    rw [Int.sub_zero, int32FromUint8_level, ← back] at kept
    exact absurd kept (by decide)
  · change CopySample.int16FromInt32 _ = sample ∧
      (CopySample.int32FromInt16 sample).toInt - 0 = (sample.toInt - 0) * 2 ^ 8 ↔ sample = 0x8000#16
    rw [int16FromInt32_eq, int32FromInt16_level, Int.sub_zero, Int.sub_zero]
    exact (and_iff_left rfl).trans eq_comm

theorem map_map_eq_self {α β : Type} {there : α → β} {back : β → α} {values : List α} :
    (values.map there).map back = values ↔ ∀ value ∈ values, back (there value) = value := by
  rw [List.map_map]
  nth_rewrite 2 [← List.map_id values]
  exact List.map_inj_left

-- A wider format and back: only unsigned samples of 8 bits in 16 bits come back as they were, and
-- of the samples of 16 bits in 24 bits the lowest one.
theorem widened_and_back_iff (narrow wide : IntegerFormat) (wider : narrow.bits < wide.bits)
    (channels framesPerSecond : UInt32) (pts : Int) (endOfStream : Bool)
    (samples : List narrow.Sample) (frames : Nat)
    (whole : samples.length = frames * channels.toNat) :
    (∃ wideSamples : List wide.Sample,
      Reformats narrow wide channels framesPerSecond (narrow.packet pts endOfStream samples)
          (wide.packet pts endOfStream wideSamples) ∧
        Reformats wide narrow channels framesPerSecond (wide.packet pts endOfStream wideSamples)
          (narrow.packet pts endOfStream samples) ∧
        wideSamples.map (level wide) =
          samples.map fun sample => level narrow sample * 2 ^ (wide.bits - narrow.bits)) ↔
      samples = [] ∨
        wide.size * channels.toNat < 2 ^ 32 ∧ ∀ sample ∈ samples, Survives narrow wide sample := by
  have larger : narrow.size ≤ wide.size := by
    cases narrow <;> cases wide <;> first | decide | exact absurd wider (by decide)
  have bound := Nat.mul_le_mul_right channels.toNat larger
  constructor
  · rintro ⟨wideSamples, widened, back, levels⟩
    have length : wideSamples.length = samples.length := by
      simpa using congrArg List.length levels
    obtain ⟨rfl, empty | fits⟩ := (reformats_iff whole length).mp widened
    · exact .inl empty
    · obtain ⟨same, -⟩ := (reformats_iff (length.trans whole) length.symm).mp back
      rw [eq_comm, map_map_eq_self] at same
      rw [List.map_map, List.map_inj_left] at levels
      refine .inr ⟨fits.2, ?_⟩
      intro sample member
      exact (survives_iff wider sample).mp ⟨same sample member, levels sample member⟩
  · intro right
    have length : (samples.map (copySample narrow wide)).length = samples.length :=
      List.length_map _
    have fits : samples = [] ∨
        narrow.size * channels.toNat < 2 ^ 32 ∧ wide.size * channels.toNat < 2 ^ 32 :=
      right.imp_right fun right => ⟨Nat.lt_of_le_of_lt bound right.1, right.1⟩
    have survive : ∀ sample ∈ samples, Survives narrow wide sample := by
      rcases right with rfl | ⟨-, survive⟩
      · exact List.forall_mem_nil _
      · exact survive
    refine ⟨_, (reformats_iff whole length).mpr ⟨rfl, fits⟩,
      (reformats_iff (length.trans whole) length.symm).mpr ⟨?_, ?_⟩, ?_⟩
    · rw [eq_comm, map_map_eq_self]
      intro sample member
      exact ((survives_iff wider sample).mpr (survive sample member)).1
    · exact fits.imp (fun empty => List.map_eq_nil_iff.mpr empty) And.symm
    · rw [List.map_map, List.map_inj_left]
      intro sample member
      exact ((survives_iff wider sample).mpr (survive sample member)).2

theorem sixteen_bits_and_back :
    ∃ wideSamples : List IntegerFormat.signed16.Sample,
      Reformats .unsigned8 .signed16 2 48000
          (IntegerFormat.unsigned8.packet 0 false [0x00#8, 0xff#8])
          (IntegerFormat.signed16.packet 0 false wideSamples) ∧
        Reformats .signed16 .unsigned8 2 48000
          (IntegerFormat.signed16.packet 0 false wideSamples)
          (IntegerFormat.unsigned8.packet 0 false [0x00#8, 0xff#8]) ∧
        wideSamples.map (level .signed16) =
          [0x00#8, 0xff#8].map fun sample => level .unsigned8 sample * 2 ^ (16 - 8) := by
  apply (widened_and_back_iff .unsigned8 .signed16 (by decide) 2 48000 0 false
    [0x00#8, 0xff#8] 1 rfl).mpr
  refine .inr ⟨by decide, ?_⟩
  simp [Survives]

theorem silence_not_back :
    ¬ ∃ wideSamples : List IntegerFormat.signed24In32.Sample,
      Reformats .unsigned8 .signed24In32 1 48000 (IntegerFormat.unsigned8.packet 0 false [0x80#8])
          (IntegerFormat.signed24In32.packet 0 false wideSamples) ∧
        Reformats .signed24In32 .unsigned8 1 48000
          (IntegerFormat.signed24In32.packet 0 false wideSamples)
          (IntegerFormat.unsigned8.packet 0 false [0x80#8]) ∧
        wideSamples.map (level .signed24In32) =
          [0x80#8].map fun sample => level .unsigned8 sample * 2 ^ (24 - 8) := by
  rintro ⟨wideSamples, -, back, levels⟩
  have whole : wideSamples.length = 1 * (1 : UInt32).toNat := by
    simpa using congrArg List.length levels
  have length : [0x80#8].length = wideSamples.length := whole.symm
  obtain ⟨same, -⟩ := (reformats_iff whole length).mp back
  obtain ⟨wide, rfl⟩ := List.length_eq_one_iff.mp whole
  have back : 0x80#8 = CopySample.uint8FromInt32 wide := List.singleton_inj.mp same
  rw [uint8FromInt32_eq] at back
  exact absurd back (by decide)

end MojoMedia.Framework
