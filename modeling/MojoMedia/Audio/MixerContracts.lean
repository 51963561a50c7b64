import MojoMedia.Audio.MixAccumulation
import MojoMedia.Audio.PacketEntry

set_option autoImplicit false

namespace MojoMedia.Mixers

open MachineInt

namespace MixArgs

variable {config : Config}

structure LinearRequires (args : MixArgs config) (state : MixState) : Prop where
  room : state.dstOffset < args.dstFrames
  source : fracOne ≤ args.fracSrcFrames
  short : args.fracSrcFrames ≤ 2 ^ 31 - 1
  near : 0 ≤ state.fracSrcOffset ∨ -state.fracSrcOffset < fracOne

structure PointRequires (args : MixArgs config) (state : MixState) : Prop where
  short : args.fracSrcFrames ≤ 2 ^ 31 - 1
  before : state.fracSrcOffset < s32 args.fracSrcFrames
  nonneg : 0 ≤ state.fracSrcOffset

structure Stopped (args : MixArgs config) (limit : Int) (state : MixState) : Prop where
  inside : state.dstOffset ≤ args.dstFrames
  stopped : state.dstOffset = args.dstFrames ∨ limit ≤ state.fracSrcOffset

variable {args : MixArgs config} {state : MixState}

theorem negativeLoop_inside (fuel : Nat) (enough : state.dstOffset + fuel ≤ args.dstFrames) :
    state.dstOffset ≤ (args.negativeLoop fuel state).dstOffset ∧
      (args.negativeLoop fuel state).dstOffset ≤ args.dstFrames := by
  induction fuel generalizing state with
  | zero => exact ⟨Nat.le_refl _, enough⟩
  | succ fuel ih =>
    simp only [negativeLoop]
    generalize written : args.emit state _ = next
    have moved : next.dstOffset = state.dstOffset + 1 := by rw [← written]; rfl
    split
    · obtain ⟨further, inside⟩ := ih (by omega : next.dstOffset + fuel ≤ args.dstFrames)
      exact ⟨by omega, inside⟩
    · omega

-- Every pass of a loop produces one frame, so enough fuel leads to the end of one of the two.
theorem Stopped.of_loop {limit : Int} {loop : Nat → MixState → MixState}
    {body : MixState → MixState} (empty : ∀ state, loop 0 state = state)
    (unfolds : ∀ fuel state, loop (fuel + 1) state =
      if state.dstOffset < args.dstFrames ∧ state.fracSrcOffset < limit then
        loop fuel (body state)
      else state)
    (moves : ∀ state, (body state).dstOffset = state.dstOffset + 1) (fuel : Nat)
    (inside : state.dstOffset ≤ args.dstFrames) (enough : args.dstFrames ≤ state.dstOffset + fuel) :
    args.Stopped limit (loop fuel state) := by
  induction fuel generalizing state with
  | zero =>
    rw [empty]
    exact ⟨inside, .inl (Nat.le_antisymm inside enough)⟩
  | succ fuel ih =>
    rw [unfolds]
    split
    next go =>
      apply ih
      · rw [moves]
        exact go.1
      · rw [moves]
        omega
    next stay => exact ⟨inside, by omega⟩

theorem mainLoop_stopped (fuel : Nat) (inside : state.dstOffset ≤ args.dstFrames)
    (enough : args.dstFrames ≤ state.dstOffset + fuel) :
    args.Stopped args.send (args.mainLoop fuel state) :=
  .of_loop (fun _ => rfl) (fun _ _ => rfl) (fun _ => rfl) fuel inside enough

theorem pointLoop_stopped (fuel : Nat) (inside : state.dstOffset ≤ args.dstFrames)
    (enough : args.dstFrames ≤ state.dstOffset + fuel) :
    args.Stopped (s32 args.fracSrcFrames) (args.pointLoop fuel state) :=
  .of_loop (fun _ => rfl) (fun _ _ => rfl) (fun _ => rfl) fuel inside enough

theorem mixBody_stopped (room : state.dstOffset < args.dstFrames) :
    args.Stopped args.send (args.mixBody state) := by
  simp only [mixBody]
  split
  · obtain ⟨further, inside⟩ := @negativeLoop_inside _ args
      { state with sampler := args.loadFirst state.sampler } (args.dstFrames - state.dstOffset)
      (by simp only; omega)
    exact mainLoop_stopped _ inside (by simp only at further; omega)
  · exact mainLoop_stopped _ (Nat.le_of_lt room) (by omega)

theorem skip_stops (distance step left : Nat) (offset limit : Int) (positive : 0 < step)
    (ahead : (distance : Int) = limit - offset) (lower : -2 ^ 31 ≤ offset)
    (small : distance + step ≤ 2 ^ 32) (upper : limit + step ≤ 2 ^ 31) :
    let available := min (u32 (u32 (u32 distance + step) + (2 ^ 32 - 1)) / step) left
    available = left ∨ limit ≤ s32 (offset + (u32 (available * step) : Nat)) := by
  have rounded : u32 (u32 (u32 distance + step) + (2 ^ 32 - 1)) = distance + step - 1 := by
    simp only [u32]
    omega
  intro available
  rcases Nat.le_total left ((distance + step - 1) / step) with fewer | enough
  · left
    simp only [available, rounded]
    exact Nat.min_eq_right fewer
  · right
    have all : available = (distance + step - 1) / step := by
      simp only [available, rounded]
      exact Nat.min_eq_left enough
    have split := Nat.div_add_mod (distance + step - 1) step
    have rest := Nat.mod_lt (distance + step - 1) positive
    rw [Nat.mul_comm, ← all] at split
    rw [u32_of_lt _ (by omega), s32_of_lt _ (by omega) (by omega)]
    omega

theorem Stopped.of_skip {limit : Int} {count : Nat} {next : MixState}
    (inside : state.dstOffset ≤ args.dstFrames)
    (moved : next.dstOffset = state.dstOffset + min count (args.dstFrames - state.dstOffset))
    (skipped : min count (args.dstFrames - state.dstOffset) = args.dstFrames - state.dstOffset ∨
      limit ≤ next.fracSrcOffset) : args.Stopped limit next := by
  refine ⟨by omega, ?_⟩
  rcases skipped with full | reached
  · exact .inl (by omega)
  · exact .inr reached

theorem skipMuted_stopped (room : state.dstOffset < args.dstFrames)
    (positive : 0 < args.fracStepSize) (send : args.send + args.fracStepSize ≤ 2 ^ 31)
    (near : -(fracOne : Int) < state.fracSrcOffset)
    (small : args.send + fracOne + args.fracStepSize ≤ 2 ^ 32) :
    args.Stopped args.send (args.skipMuted state) := by
  have one : fracOne = 4096 := rfl
  unfold skipMuted
  split
  next go =>
    have skipped := skip_stops (args.send - state.fracSrcOffset).toNat args.fracStepSize
      (args.dstFrames - state.dstOffset) state.fracSrcOffset args.send positive (by omega)
      (by omega) (by omega) send
    exact Stopped.of_skip (Nat.le_of_lt room) rfl skipped
  next stay => exact ⟨Nat.le_of_lt room, by omega⟩

theorem pointSkip_stopped (inside : state.dstOffset ≤ args.dstFrames)
    (positive : 0 < args.fracStepSize) (source : args.fracSrcFrames + args.fracStepSize ≤ 2 ^ 31)
    (nonneg : 0 ≤ state.fracSrcOffset) (before : state.fracSrcOffset < args.fracSrcFrames) :
    args.Stopped (s32 args.fracSrcFrames) (args.pointSkip state) := by
  have length : s32 args.fracSrcFrames = args.fracSrcFrames := s32_of_lt _ (by omega) (by omega)
  unfold pointSkip
  split
  next room =>
    have skipped := skip_stops ((args.fracSrcFrames : Int) - state.fracSrcOffset).toNat
      args.fracStepSize (args.dstFrames - state.dstOffset) state.fracSrcOffset args.fracSrcFrames
      positive (by omega) (by omega) (by omega) (by omega)
    rw [length]
    exact Stopped.of_skip (Nat.le_of_lt room) rfl skipped
  next full => exact ⟨inside, by omega⟩

theorem sampleFinal_stopped (stopped : args.Stopped args.send state)
    (forwards : args.send ≤ s32 (args.send + args.fracStepSize)) :
    args.Stopped args.send (args.sampleFinal state) := by
  unfold sampleFinal
  split
  next final =>
    rw [← final.2] at forwards
    split
    · exact ⟨final.1, .inr (final.2 ▸ forwards)⟩
    · exact ⟨final.1, .inr (final.2 ▸ forwards)⟩
  next => exact stopped

theorem negativeLoop_lt (fuel : Nat) (range : state.fracSrcOffset < 2 ^ 31) :
    (args.negativeLoop fuel state).fracSrcOffset < 2 ^ 31 := by
  induction fuel generalizing state with
  | zero => exact range
  | succ fuel ih =>
    simp only [negativeLoop]
    split
    · exact ih (s32_lt _)
    · exact s32_lt _

theorem mainLoop_lt (fuel : Nat) (range : state.fracSrcOffset < 2 ^ 31) :
    (args.mainLoop fuel state).fracSrcOffset < 2 ^ 31 := by
  induction fuel generalizing state with
  | zero => exact range
  | succ fuel ih =>
    simp only [mainLoop]
    split
    · exact ih (s32_lt _)
    · exact range

theorem mixBody_lt (range : state.fracSrcOffset < 2 ^ 31) :
    (args.mixBody state).fracSrcOffset < 2 ^ 31 := by
  unfold mixBody
  apply mainLoop_lt
  split
  · exact negativeLoop_lt _ range
  · exact range

theorem skipMuted_lt (range : state.fracSrcOffset < 2 ^ 31) :
    (args.skipMuted state).fracSrcOffset < 2 ^ 31 := by
  unfold skipMuted
  split
  · exact s32_lt _
  · exact range

theorem saveIfPassed_offsets :
    (args.saveIfPassed state).fracSrcOffset = state.fracSrcOffset ∧
      (args.saveIfPassed state).dstOffset = state.dstOffset := by
  unfold saveIfPassed
  split <;> exact ⟨rfl, rfl⟩

theorem sampleFinal_passed (positive : 0 < args.fracStepSize) (step : args.fracStepSize < 2 ^ 31)
    (range : state.fracSrcOffset < 2 ^ 31)
    (room : (args.sampleFinal state).dstOffset < args.dstFrames) :
    (args.sampleFinal state).fracSrcOffset ≠ args.send ∧
      (args.sampleFinal state).fracSrcOffset < 2 ^ 31 := by
  unfold sampleFinal at room ⊢
  split
  next final =>
    have moved : s32 (state.fracSrcOffset + args.fracStepSize) ≠ args.send := by
      rw [final.2]
      obtain ⟨turns, congr⟩ := s32_congr (args.send + args.fracStepSize)
      omega
    split
    · exact ⟨moved, s32_lt _⟩
    · exact ⟨moved, s32_lt _⟩
  next other =>
    rw [if_neg other] at room
    exact ⟨fun same => other ⟨room, same⟩, range⟩

theorem mix_passed (positive : 0 < args.fracStepSize) (step : args.fracStepSize < 2 ^ 31)
    (short : args.fracSrcFrames < 2 ^ 31) (range : state.fracSrcOffset < 2 ^ 31)
    (consumed : (args.mix state).1 = true) :
    (args.fracSrcFrames : Int) - fracOne < (args.mix state).2.fracSrcOffset ∧
      (args.mix state).2.fracSrcOffset < 2 ^ 31 := by
  have one : fracOne = 4096 := rfl
  have send : args.send = args.fracSrcFrames - fracOne := s32_of_lt _ (by omega) (by omega)
  rw [mix_eq] at consumed ⊢
  simp only [decide_eq_true_eq, mixStages, Function.comp_apply, saveIfPassed_offsets] at consumed ⊢
  obtain ⟨passed, room⟩ := consumed
  have produced : (if args.scaler = .muted then args.skipMuted state
      else args.mixBody state).fracSrcOffset < 2 ^ 31 := by
    split
    · exact skipMuted_lt range
    · exact mixBody_lt range
  obtain ⟨different, upper⟩ := sampleFinal_passed positive step produced room
  exact ⟨send ▸ lt_of_le_of_ne passed different.symm, upper⟩

def Fits (args : MixArgs config) : Prop :=
  args.fracStepSize + args.fracSrcFrames + fracOne ≤ 2 ^ 31 - 1

theorem linear_mix (requires : args.LinearRequires state) (positive : 0 < args.fracStepSize)
    (fits : args.Fits) (range : state.fracSrcOffset < 2 ^ 31) :
    ((args.mix state).1 = false → (args.mix state).2.dstOffset = args.dstFrames) ∧
      ((args.mix state).1 = true → (args.mix state).2.dstOffset < args.dstFrames ∧
        (args.fracSrcFrames : Int) - fracOne < (args.mix state).2.fracSrcOffset ∧
          (args.mix state).2.fracSrcOffset < 2 ^ 31) := by
  have one : fracOne = 4096 := rfl
  unfold Fits at fits
  obtain ⟨room, source, short, near⟩ := requires
  have send : args.send = args.fracSrcFrames - fracOne := s32_of_lt _ (by omega) (by omega)
  have produced : args.Stopped args.send
      (if args.scaler = .muted then args.skipMuted state else args.mixBody state) := by
    split
    · exact skipMuted_stopped room positive (by omega) (by omega) (by omega)
    · exact mixBody_stopped room
  have stopped := sampleFinal_stopped produced
    (by rw [s32_of_lt _ (by omega) (by omega)]; omega)
  constructor
  · intro kept
    rw [mix_eq] at kept ⊢
    simp only [decide_eq_false_iff_not, mixStages, Function.comp_apply, saveIfPassed_offsets]
      at kept ⊢
    have inside := stopped.inside
    have either := stopped.stopped
    omega
  · intro consumed
    refine ⟨?_, mix_passed positive (by omega) (by omega) range consumed⟩
    rw [mix_eq] at consumed ⊢
    simp only [decide_eq_true_eq, mixStages, Function.comp_apply, saveIfPassed_offsets]
      at consumed ⊢
    exact consumed.2

theorem pointLoop_lt (fuel : Nat) (range : state.fracSrcOffset < 2 ^ 31) :
    (args.pointLoop fuel state).fracSrcOffset < 2 ^ 31 := by
  induction fuel generalizing state with
  | zero => exact range
  | succ fuel ih =>
    simp only [pointLoop]
    split
    · exact ih (s32_lt _)
    · exact range

theorem pointSkip_lt (range : state.fracSrcOffset < 2 ^ 31) :
    (args.pointSkip state).fracSrcOffset < 2 ^ 31 := by
  unfold pointSkip
  split
  · exact s32_lt _
  · exact range

theorem point_mix (requires : args.PointRequires state) (positive : 0 < args.fracStepSize)
    (fits : args.Fits) (inside : state.dstOffset ≤ args.dstFrames) :
    ((args.pointMix state).1 = false → (args.pointMix state).2.dstOffset = args.dstFrames) ∧
      ((args.pointMix state).1 = true → (args.pointMix state).2.dstOffset ≤ args.dstFrames ∧
        (args.fracSrcFrames : Int) ≤ (args.pointMix state).2.fracSrcOffset ∧
          (args.pointMix state).2.fracSrcOffset < 2 ^ 31) := by
  unfold Fits at fits
  obtain ⟨short, before, nonneg⟩ := requires
  have length : s32 args.fracSrcFrames = args.fracSrcFrames := s32_of_lt _ (by omega) (by omega)
  rw [length] at before
  simp only [pointMix]
  generalize left : (if args.scaler = .muted then args.pointSkip state
    else args.pointLoop (args.dstFrames - state.dstOffset) state) = next
  have stopped : args.Stopped (s32 args.fracSrcFrames) next := by
    rw [← left]
    split
    · exact pointSkip_stopped inside positive (by omega) nonneg before
    · exact pointLoop_stopped _ inside (by omega)
  have range : next.fracSrcOffset < 2 ^ 31 := by
    rw [← left]
    split
    · exact pointSkip_lt (by omega)
    · exact pointLoop_lt _ (by omega)
  obtain ⟨inside, either⟩ := stopped
  rw [length] at either
  simp only [length, decide_eq_false_iff_not, decide_eq_true_eq]
  exact ⟨fun kept => either.resolve_right kept, fun passed => ⟨inside, passed, range⟩⟩

end MixArgs

end MojoMedia.Mixers

namespace MojoMedia.Audio

open MachineInt Mixers

variable {config : Config}

namespace MixerKind

def Requires (kind : MixerKind) (args : MixArgs config) (state : MixState) : Prop :=
  match kind with
  | .linearSampler => args.LinearRequires state
  | .pointSampler => args.PointRequires state

def Positioned (kind : MixerKind) (dstFrames : Nat) (state : MixState) : Prop :=
  match kind with
  | .linearSampler =>
    state.dstOffset < dstFrames ∧ -(fracOne : Int) < state.fracSrcOffset ∧
      state.fracSrcOffset < 2 ^ 31
  | .pointSampler =>
    state.dstOffset ≤ dstFrames ∧ 0 ≤ state.fracSrcOffset ∧ state.fracSrcOffset < 2 ^ 31

end MixerKind

variable {kind : MixerKind} {args : MixArgs config} {state : MixState}

theorem positioned_requires (positioned : kind.Positioned args.dstFrames state)
    (source : fracOne ≤ args.fracSrcFrames) (fits : args.Fits)
    (before : ¬ s32 args.fracSrcFrames ≤ state.fracSrcOffset) : kind.Requires args state := by
  unfold MixArgs.Fits at fits
  cases kind with
  | linearSampler =>
    obtain ⟨room, near, -⟩ := positioned
    exact ⟨room, source, by omega, by omega⟩
  | pointSampler =>
    obtain ⟨-, nonneg, -⟩ := positioned
    exact ⟨by omega, Int.not_le.mp before, nonneg⟩

theorem positioned_skip (dstFrames : Nat) (positioned : kind.Positioned dstFrames state)
    (fracFrameLen : UInt32) (short : fracFrameLen.toNat < 2 ^ 31)
    (passed : s32 fracFrameLen.toNat ≤ state.fracSrcOffset) :
    kind.Positioned dstFrames (skipRegion state fracFrameLen) := by
  have one : fracOne = 4096 := rfl
  rw [s32_of_lt _ (by omega) (by omega)] at passed
  cases kind with
  | linearSampler =>
    obtain ⟨room, near, range⟩ := positioned
    simp only [MixerKind.Positioned, skipRegion]
    rw [s32_of_lt _ (by omega) (by omega)]
    omega
  | pointSampler =>
    obtain ⟨inside, nonneg, range⟩ := positioned
    simp only [MixerKind.Positioned, skipRegion]
    rw [s32_of_lt _ (by omega) (by omega)]
    omega

theorem mix_full (positioned : kind.Positioned args.dstFrames state)
    (requires : kind.Requires args state) (positive : 0 < args.fracStepSize) (fits : args.Fits)
    (kept : (kind.mix args state).1 = false) :
    (kind.mix args state).2.dstOffset = args.dstFrames := by
  cases kind with
  | linearSampler => exact (MixArgs.linear_mix requires positive fits positioned.2.2).1 kept
  | pointSampler => exact (MixArgs.point_mix requires positive fits positioned.1).1 kept

theorem positioned_next (positioned : kind.Positioned args.dstFrames state)
    (requires : kind.Requires args state) (positive : 0 < args.fracStepSize) (fits : args.Fits)
    (fracFrameLen : UInt32) (length : args.fracSrcFrames = fracFrameLen.toNat)
    (consumed : (kind.mix args state).1 = true) :
    kind.Positioned args.dstFrames (skipRegion (kind.mix args state).2 fracFrameLen) := by
  have one : fracOne = 4096 := rfl
  have small := fits
  unfold MixArgs.Fits at small
  cases kind with
  | linearSampler =>
    obtain ⟨room, passed, range⟩ :=
      (MixArgs.linear_mix requires positive fits positioned.2.2).2 consumed
    simp only [MixerKind.Positioned, skipRegion, MixerKind.mix]
    rw [s32_of_lt _ (by omega) (by omega)]
    omega
  | pointSampler =>
    obtain ⟨inside, passed, range⟩ :=
      (MixArgs.point_mix requires positive fits positioned.1).2 consumed
    simp only [MixerKind.Positioned, skipRegion, MixerKind.mix]
    rw [s32_of_lt _ (by omega) (by omega)]
    omega

end MojoMedia.Audio
