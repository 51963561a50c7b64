import MojoMedia.Audio.ProcessMix

set_option autoImplicit false

-- Positions are 64-bit integers that wrap.
namespace MojoMedia.Audio

open MachineInt Mixers

variable {config : Config}

def MixPacket.fracLength (packet : MixPacket config) : Nat :=
  (packet.regions.map fun region => region.fracFrameLen.toNat).sum

structure MixEntry where
  framesLeft : Nat
  outputOffset : Int64
  inputOffset : Int64
  deriving Repr, DecidableEq

-- What `ProcessMix` does before it mixes: its answer, when it does not mix, or where it begins.
def mixEntry (kind : MixerKind) (job : CurMixJob) (packet : MixPacket config)
    (firstSampleFtf : Int64) (pass : Pass) : Except Bool MixEntry :=
  if pass.info.stepSize = 0 then .error false
  else if job.bufFrames.toNat ≤ pass.framesProduced then .error false
  else
    let framesLeft := job.bufFrames.toNat - pass.framesProduced
    let stepSize := Int64.ofNat pass.info.stepSize.toNat
    let firstSampleFtf := (pass.info.outFramesToTrackFrames.doForwardTransform
      (job.startPtsOf + Int64.ofNat pass.framesProduced)).getD firstSampleFtf
    let finalSampleFtf := firstSampleFtf + Int64.ofNat (framesLeft - 1) * stepSize
    if packet.endPts = packet.startPts then .error true
    else if packet.endPts - Int64.ofNat fracOne < firstSampleFtf - kind.negFilterWidth then
      .error true
    else if finalSampleFtf + kind.posFilterWidth < packet.startPts then .error false
    else
      let windowEdge := firstSampleFtf + kind.posFilterWidth
      let outputOffset :=
        if windowEdge < packet.startPts then
          (packet.startPts - windowEdge + stepSize - 1) / stepSize
        else 0
      .ok
        { framesLeft
          outputOffset
          inputOffset := firstSampleFtf - packet.startPts + outputOffset * stepSize }

def Pass.mixParams (pass : Pass) (accumulate : Bool) (amplitudeScale : UInt32) : MixParams where
  fracStepSize := pass.info.stepSize.toNat
  amplitudeScale := amplitudeScale.toNat
  accumulate := accumulate

theorem processMix_eq (kind : MixerKind) (job : CurMixJob) (accumulate : Bool)
    (packet : MixPacket config) (amplitudeScale : UInt32) (firstSampleFtf : Int64) (pass : Pass) :
    processMix kind job accumulate packet amplitudeScale firstSampleFtf pass =
      match mixEntry kind job packet firstSampleFtf pass with
      | .error answer => (answer, pass)
      | .ok entry =>
        mixPacket kind (pass.mixParams accumulate amplitudeScale) entry.framesLeft packet
          entry.outputOffset entry.inputOffset pass := by
  unfold processMix mixEntry
  dsimp only
  split_ifs <;> rfl

theorem window_meets (first start stop reach width : Int) (long : start + 4096 ≤ stop)
    (short : stop < start + 2 ^ 31) (firstRange : -2 ^ 63 ≤ first ∧ first < 2 ^ 63)
    (startRange : -2 ^ 63 ≤ start) (stopRange : stop < 2 ^ 63)
    (small : 0 ≤ reach ∧ reach < 2 ^ 63 - 2 ^ 33) (narrow : 0 ≤ width ∧ width ≤ 4095)
    (notPast : ¬ s64 (stop - 4096) < s64 (first - 4095))
    (notFuture : ¬ s64 (s64 (first + reach) + width) < start) :
    first < stop ∧ start - first ≤ reach + width ∧ s64 (first + width) = first + width := by
  have finalPts : s64 (stop - 4096) = stop - 4096 := s64_of_lt _ (by omega) (by omega)
  obtain ⟨a, past⟩ := s64_congr (first - 4095)
  obtain ⟨b, final⟩ := s64_congr (first + reach)
  obtain ⟨c, future⟩ := s64_congr (s64 (first + reach) + width)
  have pastRange := s64_range (first - 4095)
  have finalRange := s64_range (first + reach)
  have futureRange := s64_range (s64 (first + reach) + width)
  have begun : first < stop := by omega
  have edge : first + width < 2 ^ 63 := by omega
  rw [s64_of_lt (first + width) (by omega) edge]
  omega

theorem skipped_frames (distance step frames : Int) (positive : 0 < step) (behind : 0 < distance)
    (reach : distance ≤ frames * step) :
    let skipped := (distance + step - 1).tdiv step
    0 < skipped ∧ skipped ≤ frames ∧ distance ≤ skipped * step ∧
      skipped * step ≤ distance + step - 1 := by
  obtain ⟨lower, upper⟩ := roundUp_bounds distance step positive
  intro skipped
  have product : skipped * step ≤ distance + step - 1 := by
    refine Int.le_trans upper ?_
    omega
  refine ⟨?_, ?_, lower, product⟩
  · have some : 0 * step < skipped * step := by
      rw [Int.zero_mul]
      exact Int.lt_of_lt_of_le behind lower
    exact Int.lt_of_mul_lt_mul_right some (Int.le_of_lt positive)
  · have less : skipped * step < (frames + 1) * step := by
      rw [Int.add_mul]
      omega
    exact Int.lt_add_one_iff.mp (Int.lt_of_mul_lt_mul_right less (Int.le_of_lt positive))

theorem skipped_offsets (first start step frames width : Int) (positive : 0 < step)
    (small : step < 2 ^ 31) (count : frames < 2 ^ 32) (far : frames * step < 2 ^ 63 - 2 ^ 32)
    (narrow : 0 ≤ width ∧ width ≤ 4095) (behind : first + width < start)
    (after : start - first ≤ frames * step + width)
    (edge : s64 (first + width) = first + width) :
    let skipped := s64 ((s64 (s64 (s64 (start - s64 (first + width)) + step) - 1)).tdiv step)
    let offset := s64 (s64 (first - start) + s64 (skipped * step))
    0 ≤ skipped ∧ skipped ≤ frames ∧ offset = first - start + skipped * step ∧ -width ≤ offset ∧
      offset - step < -width := by
  have numerator : s64 (s64 (s64 (start - s64 (first + width)) + step) - 1) =
      start - first - width + step - 1 := by
    rw [edge, s64_of_lt (start - (first + width)) (by omega) (by omega),
      s64_of_lt (start - (first + width) + step) (by omega) (by omega),
      s64_of_lt _ (by omega) (by omega)]
    omega
  obtain ⟨some, few, lower, upper⟩ := skipped_frames (start - first - width) step frames positive
    (by omega) (by omega)
  intro skipped offset
  generalize whole : (start - first - width + step - 1).tdiv step = left at some few lower upper
  have rounded : skipped = left := by
    simp only [skipped, numerator, whole]
    exact s64_of_lt _ (by omega) (by omega)
  have moved : offset = first - start + left * step := by
    simp only [offset, rounded]
    rw [s64_of_lt (first - start) (by omega) (by omega),
      s64_of_lt (left * step) (by omega) (by omega), s64_of_lt _ (by omega) (by omega)]
  rw [moved, rounded]
  omega

-- Where mixing begins in the output and in the packet, in the words of `ProcessMix`.
theorem entry_offsets (first start width step : Int64) (last size : Nat)
    (stepSize : step.toInt = size) (positive : 0 < size) (small : size < 2 ^ 31)
    (count : last < 2 ^ 32) (far : (last : Int) * size < 2 ^ 63 - 2 ^ 32)
    (narrow : 0 ≤ width.toInt ∧ width.toInt ≤ 4095)
    (after : start.toInt - first.toInt ≤ last * size + width.toInt)
    (near : first.toInt < start.toInt + 2 ^ 31)
    (edge : (first + width).toInt = first.toInt + width.toInt) :
    let skipped := if first + width < start then (start - (first + width) + step - 1) / step else 0
    let offset := first - start + skipped * step
    (0 ≤ skipped.toInt ∧ skipped.toInt ≤ last) ∧
      offset.toInt = first.toInt - start.toInt + skipped.toInt * size ∧
      -width.toInt ≤ offset.toInt ∧
      (skipped.toInt = 0 ∨ offset.toInt - size < -width.toInt) := by
  have unit : (1 : Int64).toInt = 1 := rfl
  have behind : first + width < start ↔ first.toInt + width.toInt < start.toInt := by
    rw [Int64.lt_iff_toInt_lt, edge]
  have wrapped : s64 (first.toInt + width.toInt) = first.toInt + width.toInt := by
    rw [← wrapped_add, edge]
  dsimp only
  split
  next skips =>
    obtain ⟨some, few, moved, enter, skipped⟩ := skipped_offsets first.toInt start.toInt size last
      width.toInt (by omega) (by omega) (by omega) far narrow (behind.mp skips) after wrapped
    simp only [wrapped_add, wrapped_sub, wrapped_mul, wrapped_div, unit, stepSize]
    exact ⟨⟨some, few⟩, moved, enter, .inr skipped⟩
  next begun =>
    have ahead := mt behind.mpr begun
    simp only [Int64.zero_mul, Int64.add_zero, wrapped_sub, Int64.toInt_zero]
    rw [s64_of_lt (first.toInt - start.toInt) (by omega) (by omega), Int.zero_mul]
    exact ⟨⟨Int.le_refl 0, by omega⟩, (Int.add_zero _).symm, by omega, .inl trivial⟩

theorem filterWidths (kind : MixerKind) : kind.negFilterWidth.toInt = 4095 ∧
    0 ≤ kind.posFilterWidth.toInt ∧ kind.posFilterWidth.toInt ≤ 4095 := by
  cases kind <;> decide

variable {kind : MixerKind} {job : CurMixJob} {packet : MixPacket config} {firstSampleFtf : Int64}
  {pass : Pass} {entry : MixEntry}

theorem mixEntry_moving (entered : mixEntry kind job packet firstSampleFtf pass = .ok entry) :
    0 < pass.info.stepSize.toNat := by
  unfold mixEntry at entered
  split at entered
  · cases entered
  next still => exact MachineInt.toNat_pos _ still

theorem mixEntry_bounds (entered : mixEntry kind job packet firstSampleFtf pass = .ok entry)
    (length : packet.endPts = packet.startPts ∨
      packet.startPts.toInt + fracOne ≤ packet.endPts.toInt ∧
        packet.endPts.toInt < packet.startPts.toInt + 2 ^ 31)
    (step : pass.info.stepSize.toNat < 2 ^ 31)
    (far : job.bufFrames.toNat * pass.info.stepSize.toNat < 2 ^ 63 - 2 ^ 33) :
    0 ≤ entry.outputOffset.toInt ∧ entry.outputOffset.toInt < entry.framesLeft ∧
      entry.framesLeft < 2 ^ 32 ∧
      -kind.posFilterWidth.toInt ≤ entry.inputOffset.toInt ∧ entry.inputOffset.toInt < 2 ^ 31 := by
  have one : fracOne = 4096 := rfl
  have one64 : (Int64.ofNat fracOne).toInt = 4096 := rfl
  have frames : job.bufFrames.toNat < 2 ^ 32 := job.bufFrames.toNat_lt
  have stepSize : (Int64.ofNat pass.info.stepSize.toNat).toInt = pass.info.stepSize.toNat :=
    Int64.toInt_ofNat_of_lt (by omega)
  obtain ⟨neg, pos, narrow⟩ := filterWidths kind
  have positive := mixEntry_moving entered
  unfold mixEntry at entered
  dsimp only at entered
  generalize (pass.info.outFramesToTrackFrames.doForwardTransform
    (job.startPtsOf + Int64.ofNat pass.framesProduced)).getD firstSampleFtf = first at entered
  split at entered
  · cases entered
  split at entered
  · cases entered
  split at entered
  · cases entered
  split at entered
  · cases entered
  split at entered
  · cases entered
  rename_i _ done empty past future
  cases entered
  obtain ⟨long, short⟩ := length.resolve_left empty
  obtain ⟨last, left⟩ := Nat.exists_eq_add_of_lt (Nat.not_le.mp done)
  have framesLeft : job.bufFrames.toNat - pass.framesProduced = last + 1 := by omega
  have lastFrame : (Int64.ofNat last).toInt = last := Int64.toInt_ofNat_of_lt (by omega)
  have reach : 0 ≤ (last : Int) * pass.info.stepSize.toNat ∧
      (last : Int) * pass.info.stepSize.toNat < 2 ^ 63 - 2 ^ 33 := by
    have fewer : last * pass.info.stepSize.toNat ≤
        job.bufFrames.toNat * pass.info.stepSize.toNat := Nat.mul_le_mul_right _ (by omega)
    rw [← Int.natCast_mul]
    omega
  rw [framesLeft, Nat.add_sub_cancel, Int64.lt_iff_toInt_lt] at future
  rw [Int64.lt_iff_toInt_lt] at past
  simp only [wrapped_sub, wrapped_add, wrapped_mul, one64, neg, lastFrame, stepSize] at past future
  rw [s64_of_lt (_ * _) (by omega) (by omega)] at future
  obtain ⟨begun, after, edge⟩ := window_meets first.toInt packet.startPts.toInt
    packet.endPts.toInt _ kind.posFilterWidth.toInt (by omega) (by omega)
    ⟨first.le_toInt, first.toInt_lt⟩ packet.startPts.le_toInt packet.endPts.toInt_lt reach
    ⟨pos, narrow⟩ past future
  obtain ⟨⟨some, few⟩, moved, enter, skipped⟩ := entry_offsets first packet.startPts
    kind.posFilterWidth _ last _ stepSize positive step (by omega) (by omega) ⟨pos, narrow⟩ after
    (by omega) (by rw [wrapped_add, edge])
  simp only [framesLeft]
  refine ⟨some, by omega, by omega, enter, ?_⟩
  rcases skipped with none | skipped
  · rw [none, Int.zero_mul] at moved
    omega
  · omega

end MojoMedia.Audio
