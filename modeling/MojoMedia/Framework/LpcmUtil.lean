import Mathlib.Data.List.Nodup
import Mathlib.Data.List.Range
import Mathlib.Logic.Function.Basic
import MojoMedia.Framework.LpcmReformatter

set_option autoImplicit false

-- A position counts samples from the start of its buffer.
namespace MojoMedia.Framework.LpcmUtil

def channelMoves (channels : Nat) : Nat → Nat → Nat → List (Nat × Nat)
  | 0, _, _ => []
  | frame + 1, inSample, outSample =>
    (outSample, inSample) :: channelMoves channels frame (inSample + 1) (outSample + channels)

def interleaveMoves (channels frameCount inChannelStride : Nat) :
    Nat → Nat → Nat → List (Nat × Nat)
  | 0, _, _ => []
  | channel + 1, inChannel, outChannel =>
    channelMoves channels frameCount inChannel outChannel ++
      interleaveMoves channels frameCount inChannelStride channel (inChannel + inChannelStride)
        (outChannel + 1)

def inChannelStride (type : AudioStreamType) (inByteCount : UInt64) : Nat :=
  inByteCount.toNat / type.bytesPerFrame

def moves (type : AudioStreamType) (inByteCount frameCount : UInt64) : List (Nat × Nat) :=
  interleaveMoves type.channels.toNat frameCount.toNat (inChannelStride type inByteCount)
    type.channels.toNat 0 0

section Interleave

variable {α : Type}

def interleave (type : AudioStreamType) (inByteCount frameCount : UInt64) (input out : Nat → α) :
    Nat → α :=
  (moves type inByteCount frameCount).foldl
    (fun out move => Function.update out move.1 (input move.2)) out

end Interleave

theorem channelMoves_eq (channels frameCount inSample outSample : Nat) :
    channelMoves channels frameCount inSample outSample =
      (List.range frameCount).map fun frame =>
        (frame * channels + outSample, inSample + frame) := by
  induction frameCount generalizing inSample outSample with
  | zero => rfl
  | succ frame ih =>
    rw [channelMoves, ih, List.range_succ_eq_map, List.map_cons, List.map_map]
    congr 1
    · rw [Nat.zero_mul, Nat.zero_add, Nat.add_zero]
    · apply List.map_congr_left
      intro frame _
      simp only [Function.comp_apply, Nat.succ_eq_add_one, Nat.add_mul, Prod.mk.injEq]
      omega

theorem interleaveMoves_eq (channels frameCount inChannelStride left inChannel outChannel : Nat) :
    interleaveMoves channels frameCount inChannelStride left inChannel outChannel =
      (List.range left).flatMap fun channel => (List.range frameCount).map fun frame =>
        (frame * channels + (outChannel + channel),
          inChannel + channel * inChannelStride + frame) := by
  induction left generalizing inChannel outChannel with
  | zero => rfl
  | succ left ih =>
    rw [interleaveMoves, ih, channelMoves_eq, List.range_succ_eq_map, List.flatMap_cons,
      List.flatMap_map]
    congr 1
    · rw [Nat.zero_mul, Nat.add_zero, Nat.add_zero]
    · apply List.flatMap_congr
      intro channel _
      apply List.map_congr_left
      intro frame _
      simp only [Nat.succ_eq_add_one, Nat.add_mul, Prod.mk.injEq]
      omega

theorem moves_eq (type : AudioStreamType) (inByteCount frameCount : UInt64) :
    moves type inByteCount frameCount =
      channelWrites type.channels.toNat frameCount.toNat fun channel frame =>
        channel * inChannelStride type inByteCount + frame := by
  simp only [moves, interleaveMoves_eq, channelWrites, Nat.zero_add]

theorem mem_moves {type : AudioStreamType} {inByteCount frameCount : UInt64} {move : Nat × Nat} :
    move ∈ moves type inByteCount frameCount ↔
      ∃ channel < type.channels.toNat, ∃ frame < frameCount.toNat,
        move = (frame * type.channels.toNat + channel,
          channel * inChannelStride type inByteCount + frame) := by
  rw [moves_eq]
  exact mem_channelWrites

theorem position_eq_iff {channels frame channel frame' channel' : Nat} (before : channel < channels)
    (before' : channel' < channels) :
    frame * channels + channel = frame' * channels + channel' ↔
      frame = frame' ∧ channel = channel' := by
  constructor
  · intro same
    have frames := congrArg (· / channels) same
    have rests := congrArg (· % channels) same
    simp only [position_div before, position_div before'] at frames
    simp only [position_mod before, position_mod before'] at rests
    exact ⟨frames, rests⟩
  · rintro ⟨rfl, rfl⟩
    rfl

theorem position_lt {channels frames frame channel : Nat} (before : channel < channels)
    (inside : frame < frames) : frame * channels + channel < frames * channels := by
  calc frame * channels + channel < (frame + 1) * channels := by
        rw [Nat.succ_mul]
        exact Nat.add_lt_add_left before _
    _ ≤ frames * channels := Nat.mul_le_mul_right _ inside

theorem nodup_written (type : AudioStreamType) (inByteCount frameCount : UInt64) :
    ((moves type inByteCount frameCount).map Prod.fst).Nodup := by
  rw [moves_eq, channelWrites, List.map_flatMap, List.nodup_flatMap]
  constructor
  · intro channel member
    have before := List.mem_range.mp member
    rw [List.map_map]
    apply List.Nodup.map_on _ List.nodup_range
    intro frame _ frame' _ same
    exact ((position_eq_iff before before).mp same).1
  · apply List.nodup_range.pairwise_of_forall_ne
    intro channel member channel' member' different
    have before := List.mem_range.mp member
    have before' := List.mem_range.mp member'
    simp only [Function.onFun, List.disjoint_left, List.mem_map]
    rintro position ⟨_, ⟨frame, -, rfl⟩, rfl⟩ ⟨_, ⟨frame', -, rfl⟩, same⟩
    exact different ((position_eq_iff before' before).mp same).2.symm

theorem written_perm (type : AudioStreamType) (inByteCount frameCount : UInt64) :
    ((moves type inByteCount frameCount).map Prod.fst).Perm
      (List.range (frameCount.toNat * type.channels.toNat)) := by
  rw [List.perm_ext_iff_of_nodup (nodup_written _ _ _) List.nodup_range]
  intro position
  rw [List.mem_map, List.mem_range]
  constructor
  · rintro ⟨move, member, rfl⟩
    obtain ⟨channel, before, frame, inside, rfl⟩ := mem_moves.mp member
    exact position_lt before inside
  · intro inside
    have some : 0 < type.channels.toNat := Nat.pos_of_mul_pos_left (Nat.zero_lt_of_lt inside)
    refine ⟨_, mem_moves.mpr ⟨position % type.channels.toNat, Nat.mod_lt _ some,
      position / type.channels.toNat, (Nat.div_lt_iff_lt_mul some).mpr inside, rfl⟩, ?_⟩
    exact Nat.div_add_mod' position _

section Interleave

variable {α : Type}

theorem foldl_update (values : Nat → α) {input : Nat → α} (moves : List (Nat × Nat))
    (agree : ∀ move ∈ moves, input move.2 = values move.1) (out : Nat → α) (position : Nat) :
    (moves.foldl (fun out move => Function.update out move.1 (input move.2)) out) position =
      if position ∈ moves.map Prod.fst then values position else out position := by
  induction moves generalizing out with
  | nil => rfl
  | cons move moves ih =>
    rw [List.foldl_cons, ih (fun other member => agree other (List.mem_cons_of_mem _ member)),
      agree move List.mem_cons_self]
    simp only [List.map_cons, List.mem_cons]
    by_cases later : position ∈ moves.map Prod.fst
    · rw [if_pos later, if_pos (.inr later)]
    · by_cases same : position = move.1
      · rw [if_neg later, if_pos (.inl same), same, Function.update_self]
      · rw [if_neg later, if_neg (not_or.mpr ⟨same, later⟩), Function.update_of_ne same]

theorem interleave_apply (type : AudioStreamType) (inByteCount frameCount : UInt64)
    (input out : Nat → α) (position : Nat) :
    interleave type inByteCount frameCount input out position =
      if position < frameCount.toNat * type.channels.toNat then
        input (position % type.channels.toNat * inChannelStride type inByteCount +
          position / type.channels.toNat)
      else out position := by
  let values position := input (position % type.channels.toNat *
    inChannelStride type inByteCount + position / type.channels.toNat)
  have agree : ∀ move ∈ moves type inByteCount frameCount, input move.2 = values move.1 := by
    intro move member
    obtain ⟨channel, before, frame, -, rfl⟩ := mem_moves.mp member
    simp only [values, position_mod before, position_div before]
  rw [interleave, foldl_update values _ agree]
  simp only [(written_perm type inByteCount frameCount).mem_iff, List.mem_range, values]

end Interleave

def minBufferSize (type : AudioStreamType) (frameCount : UInt64) : Nat :=
  type.minBufferSize frameCount.toNat % 2 ^ 64

-- The assertions, but for those about null pointers. A remainder by zero is not passed either.
structure Checked (type : AudioStreamType) (inByteCount frameCount : UInt64) : Prop where
  input : inByteCount ≠ 0
  frames : frameCount ≠ 0
  channels : type.channels ≠ 0
  divisor : type.bytesPerFrame ≠ 0
  whole : inByteCount.toNat % type.bytesPerFrame = 0
  enough : minBufferSize type frameCount ≤ inByteCount.toNat

structure Interleaved {α : Type} (type : AudioStreamType) (inByteCount frameCount : UInt64)
    (input out : Nat → α) : Prop where
  placed : ∀ frame < frameCount.toNat, ∀ channel < type.channels.toNat,
    interleave type inByteCount frameCount input out (frame * type.channels.toNat + channel) =
      input (channel * inChannelStride type inByteCount + frame)
  kept : ∀ position, frameCount.toNat * type.channels.toNat ≤ position →
    interleave type inByteCount frameCount input out position = out position
  writtenOnce : ((moves type inByteCount frameCount).map Prod.fst).Perm
    (List.range (frameCount.toNat * type.channels.toNat))
  readInside : ∀ move ∈ moves type inByteCount frameCount,
    (move.2 + 1) * type.sampleSize ≤ inByteCount.toNat
  writtenInside : ∀ move ∈ moves type inByteCount frameCount,
    (move.1 + 1) * type.sampleSize ≤ minBufferSize type frameCount

theorem fits_of_writtenInside {type : AudioStreamType} {inByteCount frameCount : UInt64}
    (checked : Checked type inByteCount frameCount)
    (inside : ∀ move ∈ moves type inByteCount frameCount,
      (move.1 + 1) * type.sampleSize ≤ minBufferSize type frameCount) :
    frameCount.toNat * (type.sampleSize * type.channels.toNat) ≤
      minBufferSize type frameCount := by
  have frames : 0 < frameCount.toNat :=
    Nat.pos_of_ne_zero fun none => checked.frames (UInt64.toNat_inj.mp none)
  have channels : 0 < type.channels.toNat :=
    Nat.pos_of_ne_zero fun none => checked.channels (UInt32.toNat_inj.mp none)
  have last : frameCount.toNat * type.channels.toNat - 1 ∈
      (moves type inByteCount frameCount).map Prod.fst := by
    rw [(written_perm type inByteCount frameCount).mem_iff, List.mem_range]
    exact Nat.sub_one_lt (Nat.ne_of_gt (Nat.mul_pos frames channels))
  obtain ⟨move, member, position⟩ := List.mem_map.mp last
  have bound := inside move member
  rw [position, Nat.sub_add_cancel (Nat.mul_pos frames channels)] at bound
  calc frameCount.toNat * (type.sampleSize * type.channels.toNat)
      = frameCount.toNat * type.channels.toNat * type.sampleSize := by
        rw [Nat.mul_comm type.sampleSize, Nat.mul_assoc]
    _ ≤ minBufferSize type frameCount := bound

section Fits

variable {type : AudioStreamType} {inByteCount frameCount : UInt64}
  (fits : type.sampleSize * type.channels.toNat < 2 ^ 32)
include fits

theorem bytesPerFrame_eq : type.bytesPerFrame = type.sampleSize * type.channels.toNat :=
  Nat.mod_eq_of_lt fits

theorem minBufferSize_eq
    (framesFit : frameCount.toNat * (type.sampleSize * type.channels.toNat) < 2 ^ 64) :
    minBufferSize type frameCount =
      frameCount.toNat * (type.sampleSize * type.channels.toNat) := by
  rw [minBufferSize, AudioStreamType.minBufferSize, bytesPerFrame_eq fits,
    Nat.mod_eq_of_lt framesFit]

theorem writtenInside
    (framesFit : frameCount.toNat * (type.sampleSize * type.channels.toNat) < 2 ^ 64) :
    ∀ move ∈ moves type inByteCount frameCount,
      (move.1 + 1) * type.sampleSize ≤ minBufferSize type frameCount := by
  intro move member
  have position : move.1 ∈ (moves type inByteCount frameCount).map Prod.fst :=
    List.mem_map_of_mem member
  rw [(written_perm type inByteCount frameCount).mem_iff, List.mem_range] at position
  rw [minBufferSize_eq fits framesFit]
  calc (move.1 + 1) * type.sampleSize
      ≤ frameCount.toNat * type.channels.toNat * type.sampleSize :=
        Nat.mul_le_mul_right _ position
    _ = frameCount.toNat * (type.sampleSize * type.channels.toNat) := by
        rw [Nat.mul_comm type.sampleSize, Nat.mul_assoc]

theorem readInside (checked : Checked type inByteCount frameCount)
    (framesFit : frameCount.toNat * (type.sampleSize * type.channels.toNat) < 2 ^ 64) :
    ∀ move ∈ moves type inByteCount frameCount,
      (move.2 + 1) * type.sampleSize ≤ inByteCount.toNat := by
  intro move member
  obtain ⟨channel, before, frame, inside, rfl⟩ := mem_moves.mp member
  have divisor := Nat.pos_of_ne_zero checked.divisor
  have room : frameCount.toNat ≤ inChannelStride type inByteCount := by
    rw [inChannelStride, Nat.le_div_iff_mul_le divisor, bytesPerFrame_eq fits,
      ← minBufferSize_eq fits framesFit]
    exact checked.enough
  have whole : inChannelStride type inByteCount * (type.sampleSize * type.channels.toNat) =
      inByteCount.toNat := by
    rw [← bytesPerFrame_eq fits]
    exact Nat.div_mul_cancel (Nat.dvd_of_mod_eq_zero checked.whole)
  have bound : channel * inChannelStride type inByteCount + frame + 1 ≤
      type.channels.toNat * inChannelStride type inByteCount := by
    calc channel * inChannelStride type inByteCount + frame + 1
        ≤ (channel + 1) * inChannelStride type inByteCount := by
          rw [Nat.succ_mul]
          omega
      _ ≤ type.channels.toNat * inChannelStride type inByteCount :=
          Nat.mul_le_mul_right _ before
  calc (channel * inChannelStride type inByteCount + frame + 1) * type.sampleSize
      ≤ type.channels.toNat * inChannelStride type inByteCount * type.sampleSize :=
        Nat.mul_le_mul_right _ bound
    _ = inChannelStride type inByteCount * (type.sampleSize * type.channels.toNat) := by
        rw [Nat.mul_comm type.channels.toNat, Nat.mul_assoc, Nat.mul_comm type.sampleSize]
    _ = inByteCount.toNat := whole

end Fits

-- What has passed the checks is interleaved, unless the size of a frame or of all the frames is
-- cut off.
theorem interleaved_iff {α : Type} (type : AudioStreamType) (inByteCount frameCount : UInt64)
    (checked : Checked type inByteCount frameCount) (input out : Nat → α) :
    Interleaved type inByteCount frameCount input out ↔
      type.sampleSize * type.channels.toNat < 2 ^ 32 ∧
        frameCount.toNat * (type.sampleSize * type.channels.toNat) < 2 ^ 64 := by
  constructor
  · intro interleaved
    have bound := fits_of_writtenInside checked interleaved.writtenInside
    have cutOff : minBufferSize type frameCount < 2 ^ 64 := Nat.mod_lt _ (by decide)
    have product : minBufferSize type frameCount ≤ frameCount.toNat * type.bytesPerFrame :=
      Nat.mod_le _ _
    have frames : 0 < frameCount.toNat :=
      Nat.pos_of_ne_zero fun none => checked.frames (UInt64.toNat_inj.mp none)
    refine ⟨?_, Nat.lt_of_le_of_lt bound cutOff⟩
    calc type.sampleSize * type.channels.toNat ≤ type.bytesPerFrame :=
          Nat.le_of_mul_le_mul_left (Nat.le_trans bound product) frames
      _ < 2 ^ 32 := Nat.mod_lt _ (by decide)
  · rintro ⟨fits, framesFit⟩
    constructor
    · intro frame inside channel before
      rw [interleave_apply, if_pos (position_lt before inside), position_mod before,
        position_div before]
    · intro position beyond
      rw [interleave_apply, if_neg (Nat.not_lt_of_le beyond)]
    · exact written_perm type inByteCount frameCount
    · exact readInside fits checked framesFit
    · exact writtenInside fits framesFit

def stereo : AudioStreamType where
  sampleFormat := .signed16
  channels := 2
  framesPerSecond := 48000
  sized := by decide

theorem padded_interleaved :
    Checked stereo 16 3 ∧ Interleaved stereo 16 3 (fun position => position) (fun _ => 0) := by
  have checked : Checked stereo 16 3 := by
    constructor <;> decide
  exact ⟨checked, (interleaved_iff stereo 16 3 checked _ _).mpr (by decide)⟩

def manyChannels : AudioStreamType where
  sampleFormat := .signed24In32
  channels := 0x40000001
  framesPerSecond := 48000
  sized := by decide

theorem channels_not_interleaved :
    Checked manyChannels 4 1 ∧
      ∀ input out : Nat → Nat, ¬ Interleaved manyChannels 4 1 input out := by
  constructor
  · constructor <;> decide
  · intro input out interleaved
    have second : (1, 1) ∈ moves manyChannels 4 1 :=
      mem_moves.mpr ⟨1, by decide, 0, by decide, rfl⟩
    exact absurd (interleaved.writtenInside _ second) (by decide)

end MojoMedia.Framework.LpcmUtil
