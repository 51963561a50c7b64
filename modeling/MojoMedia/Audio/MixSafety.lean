import Mathlib.Algebra.Order.BigOperators.Group.List
import Mathlib.Data.UInt
import MojoMedia.Audio.MixerContracts

set_option autoImplicit false

namespace MojoMedia.Audio

open MachineInt Mixers

variable {config : Config}

def mixCalls (kind : MixerKind) (params : MixParams) (dst dstFrames : Nat) :
    List (PacketRegion config) → MixState → List (MixArgs config × MixState)
  | [], _ => []
  | region :: rest, state =>
    if s32 region.fracFrameLen.toNat ≤ state.fracSrcOffset then
      mixCalls kind params dst dstFrames rest (skipRegion state region.fracFrameLen)
    else
      let args := params.args dst dstFrames region.data region.fracFrameLen.toNat
      (args, state) ::
        match kind.mix args state with
        | (false, _) => []
        | (true, next) =>
          mixCalls kind params dst dstFrames rest (skipRegion next region.fracFrameLen)

def callOf (kind : MixerKind) (call : MixArgs config × MixState) : MixCall :=
  ⟨kind, call.2.fracSrcOffset, call.1.fracStepSize⟩

variable {kind : MixerKind} {params : MixParams}

theorem mixRegions_calls (dst dstFrames : Nat) (regions : List (PacketRegion config))
    (state : MixState) : (mixRegions kind params dst dstFrames regions state).2.2 =
      (mixCalls kind params dst dstFrames regions state).map (callOf kind) := by
  induction regions generalizing state with
  | nil => rfl
  | cons region rest ih =>
    by_cases passed : s32 region.fracFrameLen.toNat ≤ state.fracSrcOffset
    · simp only [mixRegions, mixCalls, if_pos passed]
      exact ih _
    · simp only [mixRegions, mixCalls, if_neg passed]
      obtain ⟨whole, next⟩ :=
        kind.mix (params.args dst dstFrames region.data region.fracFrameLen.toNat) state
      cases whole with
      | false => rfl
      | true => exact congrArg _ (ih _)

theorem mixRegions_safe (dst dstFrames : Nat) (regions : List (PacketRegion config))
    (state : MixState) (positive : 0 < params.fracStepSize)
    (whole : ∀ region ∈ regions, fracOne ≤ region.fracFrameLen.toNat)
    (fits : ∀ region ∈ regions,
      params.fracStepSize + region.fracFrameLen.toNat + fracOne ≤ 2 ^ 31 - 1)
    (positioned : kind.Positioned dstFrames state) :
    (∀ call ∈ mixCalls kind params dst dstFrames regions state, kind.Requires call.1 call.2) ∧
      ((mixRegions kind params dst dstFrames regions state).1 = false →
        (mixRegions kind params dst dstFrames regions state).2.1.dstOffset = dstFrames) := by
  induction regions generalizing state with
  | nil => exact ⟨nofun, nofun⟩
  | cons region rest ih =>
    have source := whole region List.mem_cons_self
    have small := fits region List.mem_cons_self
    have wholeRest (other : PacketRegion config) (later : other ∈ rest) :=
      whole other (List.mem_cons_of_mem _ later)
    have fitsRest (other : PacketRegion config) (later : other ∈ rest) :=
      fits other (List.mem_cons_of_mem _ later)
    simp only [mixRegions, mixCalls]
    split
    next skip => exact ih _ wholeRest fitsRest (positioned_skip _ positioned _ (by omega) skip)
    next stay =>
      generalize called :
        params.args dst dstFrames region.data region.fracFrameLen.toNat = args
      have frames : args.dstFrames = dstFrames := by rw [← called]; rfl
      have length : args.fracSrcFrames = region.fracFrameLen.toNat := by rw [← called]; rfl
      have step : args.fracStepSize = params.fracStepSize := by rw [← called]; rfl
      have fits : args.Fits := by rw [MixArgs.Fits, length, step]; exact small
      rw [← frames] at positioned
      rw [← length] at stay
      have requires := positioned_requires positioned (by rw [length]; exact source) fits stay
      have full := mix_full positioned requires (by rw [step]; exact positive) fits
      have next := positioned_next positioned requires (by rw [step]; exact positive) fits _ length
      generalize kind.mix args state = result at full next
      obtain ⟨consumed, left⟩ := result
      cases consumed with
      | false =>
        refine ⟨?_, fun _ => (full rfl).trans frames⟩
        intro call made
        rw [List.mem_singleton.mp made]
        exact requires
      | true =>
        rw [frames] at next
        obtain ⟨calls, kept⟩ := ih _ wholeRest fitsRest (next rfl)
        refine ⟨?_, kept⟩
        intro call made
        rcases List.mem_cons.mp made with rfl | later
        · exact requires
        · exact calls call later

structure MixPacket.Measured (packet : MixPacket config) : Prop where
  whole : ∀ region ∈ packet.regions, fracOne ≤ region.fracFrameLen.toNat
  length : (packet.fracLength : Int) = packet.endPts.toInt - packet.startPts.toInt

theorem MixPacket.region_le (packet : MixPacket config) (region : PacketRegion config)
    (listed : region ∈ packet.regions) : region.fracFrameLen.toNat ≤ packet.fracLength :=
  List.single_le_sum (fun _ _ => Nat.zero_le _) _ (List.mem_map_of_mem listed)

theorem MixPacket.Measured.span {packet : MixPacket config} (measured : packet.Measured) :
    packet.endPts = packet.startPts ∨
      packet.startPts.toInt + fracOne ≤ packet.endPts.toInt := by
  have length := measured.length
  cases regions : packet.regions with
  | nil =>
    left
    simp only [fracLength, regions, List.map_nil, List.sum_nil] at length
    apply Int64.toInt_inj.mp
    omega
  | cons region rest =>
    right
    have listed : region ∈ packet.regions := by rw [regions]; exact List.mem_cons_self
    have whole := measured.whole region listed
    have part := packet.region_le region listed
    omega

theorem outputOffset_cast {offset : Int64} (nonneg : 0 ≤ offset.toInt)
    (small : offset.toInt < 2 ^ 32) :
    (offset.toUInt64.toUInt32.toNat : Int) = offset.toInt := by
  have positive : 0 ≤ offset := Int64.le_iff_toInt_le.mpr nonneg
  rw [UInt64.toNat_toUInt32, Int64.toNat_toUInt64_of_le positive, ← Int64.toNat_toInt]
  omega

theorem enter_positioned (pass : Pass) (entry : MixEntry)
    (outputOffset : 0 ≤ entry.outputOffset.toInt ∧ entry.outputOffset.toInt < entry.framesLeft)
    (frames : entry.framesLeft < 2 ^ 32)
    (inputOffset : -kind.posFilterWidth.toInt ≤ entry.inputOffset.toInt ∧
      entry.inputOffset.toInt < 2 ^ 31) :
    kind.Positioned entry.framesLeft (pass.enter entry.outputOffset entry.inputOffset) := by
  have one : fracOne = 4096 := rfl
  have narrow := filterWidths kind
  have cast := outputOffset_cast outputOffset.1 (by omega)
  have kept : s32 entry.inputOffset.toInt = entry.inputOffset.toInt :=
    s32_of_lt _ (by omega) inputOffset.2
  cases kind with
  | linearSampler =>
    have width : MixerKind.linearSampler.posFilterWidth.toInt = 4095 := rfl
    simp only [MixerKind.Positioned, Pass.enter, kept]
    omega
  | pointSampler =>
    have width : MixerKind.pointSampler.posFilterWidth.toInt = 0 := rfl
    simp only [MixerKind.Positioned, Pass.enter, kept]
    omega

-- Mixing a packet whose regions have at least a frame each and are the packet together, at a step
-- that fits an offset together with it: the frames that are left out are fewer than those that
-- are left, the offset into the packet fits 32 bits, every call of `Mix` has what it asserts, and
-- the packet is held after a call only when all frames have been produced.
theorem processMix_safe (kind : MixerKind) (job : CurMixJob) (accumulate : Bool)
    (packet : MixPacket config) (amplitudeScale : UInt32) (firstSampleFtf : Int64) (pass : Pass)
    (measured : packet.Measured)
    (small : pass.info.stepSize.toNat + packet.fracLength + fracOne ≤ 2 ^ 31 - 1) :
    let (consumed, left) :=
      processMix kind job accumulate packet amplitudeScale firstSampleFtf pass
    match mixEntry kind job packet firstSampleFtf pass with
    | .error answer => consumed = answer ∧ left = pass
    | .ok entry =>
      let params := pass.mixParams accumulate amplitudeScale
      let dst := pass.framesProduced * config.dst.count
      let state := pass.enter entry.outputOffset entry.inputOffset
      let calls := mixCalls kind params dst entry.framesLeft packet.regions state
      (0 ≤ entry.outputOffset.toInt ∧ entry.outputOffset.toInt < entry.framesLeft) ∧
        (-2 ^ 31 ≤ entry.inputOffset.toInt ∧ entry.inputOffset.toInt < 2 ^ 31) ∧
        left.calls = pass.calls ++ calls.map (callOf kind) ∧
        (∀ call ∈ calls, kind.Requires call.1 call.2) ∧
        (consumed = false →
          (mixRegions kind params dst entry.framesLeft packet.regions state).2.1.dstOffset =
            entry.framesLeft) := by
  rw [processMix_eq]
  cases entered : mixEntry kind job packet firstSampleFtf pass with
  | error answer => exact ⟨rfl, rfl⟩
  | ok entry =>
    have one : fracOne = 4096 := rfl
    have frames : job.bufFrames.toNat < 2 ^ 32 := job.bufFrames.toNat_lt
    have length := measured.length
    have span : packet.endPts = packet.startPts ∨
        packet.startPts.toInt + fracOne ≤ packet.endPts.toInt ∧
          packet.endPts.toInt < packet.startPts.toInt + 2 ^ 31 :=
      measured.span.imp_right fun long => ⟨long, by omega⟩
    have far : job.bufFrames.toNat * pass.info.stepSize.toNat < 2 ^ 63 - 2 ^ 33 := by
      calc job.bufFrames.toNat * pass.info.stepSize.toNat
          ≤ (2 ^ 32 - 1) * (2 ^ 31 - 1 - 4096) := Nat.mul_le_mul (by omega) (by omega)
        _ < 2 ^ 63 - 2 ^ 33 := by decide
    obtain ⟨first, last, count, lower, upper⟩ := mixEntry_bounds entered span (by omega) far
    have narrow := filterWidths kind
    obtain ⟨calls, full⟩ := mixRegions_safe (pass.framesProduced * config.dst.count)
      entry.framesLeft packet.regions (pass.enter entry.outputOffset entry.inputOffset)
      (show 0 < (pass.mixParams accumulate amplitudeScale).fracStepSize from
        mixEntry_moving entered) measured.whole
      (fun region listed => by
        have part := packet.region_le region listed
        simp only [Pass.mixParams]
        omega)
      (enter_positioned pass entry ⟨first, last⟩ count ⟨lower, upper⟩)
    refine ⟨⟨first, last⟩, ⟨by omega, upper⟩, ?_, calls, full⟩
    exact congrArg (pass.calls ++ ·) (mixRegions_calls _ _ _ _)

-- Two regions of one and a half frames each. The step is longer than a region, and the packet
-- begins two frames after the first sampling position of the linear sampler.
def straddlingPacket : MixPacket ⟨.mono, .int16, .mono⟩ where
  startPts := 8192
  endPts := 20480
  regions := [⟨[(100 : Int16), (200 : Int16)], 6144⟩, ⟨[(300 : Int16), (400 : Int16)], 6144⟩]

def straddlingPass : Pass := { info := { stepSize := 7000 }, mixBuf := silence, sampler := {} }

def threeFrameJob : CurMixJob :=
  { localToOutput := ⟨⟨1, 1⟩, 0, 0⟩, localToOutputGen := 2, bufFrames := 3, startPtsOf := 0 }

theorem processMix_safe_straddling :
    let calls := mixCalls .linearSampler (straddlingPass.mixParams true (2 ^ 28)) 0 3
      straddlingPacket.regions (straddlingPass.enter 1 (-1192))
    mixEntry .linearSampler threeFrameJob straddlingPacket 0 straddlingPass =
        .ok ⟨3, 1, -1192⟩ ∧
      calls.map (callOf .linearSampler) =
        [⟨.linearSampler, -1192, 7000⟩, ⟨.linearSampler, -336, 7000⟩] ∧
      ∀ call ∈ calls, MixerKind.linearSampler.Requires call.1 call.2 := by
  have entered : mixEntry .linearSampler threeFrameJob straddlingPacket 0 straddlingPass =
      .ok ⟨3, 1, -1192⟩ := by rfl
  have safe := processMix_safe .linearSampler threeFrameJob true straddlingPacket (2 ^ 28) 0
    straddlingPass ⟨by decide, by decide⟩ (by decide)
  rw [entered] at safe
  exact ⟨entered, by decide +kernel, safe.2.2.2.1⟩

end MojoMedia.Audio
