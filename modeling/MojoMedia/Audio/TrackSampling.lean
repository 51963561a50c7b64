import MojoMedia.Audio.RegionSampling

set_option autoImplicit false

namespace MojoMedia.Audio

open MachineInt Mixers Sweep

section Reads

variable {config : Config} {kind : MixerKind} {placement : Placement} {dstFrames : Nat}
  {state : MixState} {region : PacketRegion config} {accumulate : Bool}

theorem Entered.asserts (entered : Entered kind placement dstFrames state)
    (more : state.dstOffset < dstFrames) (short : region.fracFrameLen.toNat < 2 ^ 31)
    (before : state.fracSrcOffset < region.fracFrameLen.toNat) (whole : region.Whole kind) :
    (placement.args accumulate dstFrames region).selected.Asserts kind state.started := by
  have near := entered.near
  have length : (placement.args accumulate dstFrames region).selected.fracSrcFrames =
      region.fracFrameLen.toNat := rfl
  cases kind with
  | linearSampler =>
    have span : MixerKind.linearSampler.span = fracOne := rfl
    refine ⟨more, whole.le_length rfl, ?_, ?_⟩
    · omega
    · simp only [MixState.started]
      omega
  | pointSampler =>
    have span : MixerKind.pointSampler.span = 1 := rfl
    refine ⟨by omega, ?_, ?_⟩
    · rw [length, s32_of_lt _ (by omega) (by omega)]
      exact before
    · simp only [MixState.started]
      omega

theorem Entered.forward (entered : Entered kind placement dstFrames state)
    (short : region.fracFrameLen.toNat < 2 ^ 31)
    (source : kind = .linearSampler → fracOne ≤ region.fracFrameLen.toNat)
    (steady : placement.Steady kind region.fracFrameLen.toNat) :
    (placement.args accumulate dstFrames region).selected.Forward kind state.started := by
  have span := span_bounds kind
  have near := entered.near
  have limit : (placement.args accumulate dstFrames region).selected.limit kind ≤
      region.fracFrameLen.toNat - kind.span + 1 := by
    have length : (placement.args accumulate dstFrames region).selected.fracSrcFrames =
        region.fracFrameLen.toNat := rfl
    cases kind with
    | linearSampler =>
      have one : fracOne = 4096 := rfl
      have whole := source rfl
      have span : MixerKind.linearSampler.span = fracOne := rfl
      simp only [Instance.limit, Instance.send, length]
      rw [s32_of_lt _ (by omega) (by omega)]
      omega
    | pointSampler =>
      have span : MixerKind.pointSampler.span = 1 := rfl
      simp only [Instance.limit, length]
      rw [s32_of_lt _ (by omega) (by omega)]
      omega
  have falls (index : Nat) : placement.position (placement.produced + state.dstOffset + index) =
      state.fracSrcOffset + index * placement.step := by
    rw [placement.position_add, ← entered.position]
  have place (index : Nat) (small : state.fracSrcOffset + index * placement.step < 2 ^ 31) :
      (placement.args accumulate dstFrames region).selected.position state.started index =
        state.fracSrcOffset + index * placement.step := by
    have ahead : 0 ≤ (index : Int) * placement.step :=
      Int.mul_nonneg (Int.natCast_nonneg _) (Int.natCast_nonneg _)
    exact s32_of_lt (state.fracSrcOffset + index * placement.step) (by omega) small
  intro frame room held inside
  have small (index : Nat) (early : index ≤ frame + 1) :
      state.fracSrcOffset + index * placement.step < 2 ^ 31 := by
    induction index with
    | zero =>
      have upper := entered.upper
      omega
    | succ index ih =>
      have here := held index (by omega)
      rw [place index (ih (by omega))] at here
      have next := entered.next_lt steady (placement.produced + state.dstOffset + index) (by omega)
        (show _ < placement.produced + dstFrames by
          have more : state.dstOffset + frame + 1 < dstFrames := room
          omega)
        (by rw [falls]; omega)
      rw [Nat.add_assoc _ index, falls] at next
      exact next
  rw [place frame (small frame (by omega))] at inside
  rw [place (frame + 1) (small (frame + 1) (Nat.le_refl _))]
  push_cast
  rw [Int.add_mul]
  omega

end Reads

section Regions

variable {config : Config} {kind : MixerKind} {dstFrames : Nat} {accumulate : Bool}

-- What has been gone through of a source, whole or up to the end of the job.
structure Leaves (kind : MixerKind) (placement : Placement) (dstFrames length : Nat)
    (consumed : Bool) (state : MixState) : Prop where
  entered : consumed = true → Entered kind (placement.after length) dstFrames state
  stopped : consumed = false → ∀ frame, placement.produced ≤ frame → frame < placement.frames →
    placement.position frame ≤ length - kind.span

theorem Leaves.behind {placement : Placement} {first rest : Nat} {consumed : Bool}
    {state : MixState} (leaves : Leaves kind (placement.after first) dstFrames rest consumed state) :
    Leaves kind placement dstFrames (first + rest) consumed state := by
  constructor
  · intro whole
    rw [← placement.after_after]
    exact leaves.entered whole
  · intro kept frame here inJob
    have falls := leaves.stopped kept frame here inJob
    rw [placement.position_after] at falls
    omega

end Regions

end MojoMedia.Audio
