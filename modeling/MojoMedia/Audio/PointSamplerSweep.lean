import MojoMedia.Audio.LinearSamplerSweep
import MojoMedia.Audio.PointSampler

set_option autoImplicit false

namespace MojoMedia.Mixers

open MachineInt Sweep

def nearest (config : Config) (src : config.Buffer) (position : Int) (channel : Nat) : Int :=
  config.readFrame src (position.toNat / fracOne) channel

namespace MixArgs

variable {config : Config} (args : MixArgs config)

structure PointReady (state : MixState) : Prop where
  room : state.dstOffset ≤ args.dstFrames
  short : args.fracSrcFrames < 2 ^ 31
  positive : 0 < args.fracStepSize
  nonneg : 0 ≤ state.fracSrcOffset
  before : state.fracSrcOffset < args.fracSrcFrames
  bounded : Bounded args.fracStepSize args.dstFrames (args.fracSrcFrames - 1) (2 ^ 31)
    state.dstOffset state.fracSrcOffset

variable {args} {state : MixState}

theorem PointReady.limit_eq (ready : args.PointReady state) :
    s32 args.fracSrcFrames = args.fracSrcFrames := by
  have short := ready.short
  exact s32_of_lt _ (by omega) (by omega)

theorem pointLoop_eq (fuel : Nat) (state : MixState) (audible : args.scaler ≠ .muted)
    (enough : args.dstFrames - state.dstOffset ≤ fuel)
    (limit : s32 args.fracSrcFrames = args.fracSrcFrames)
    (nonneg : 0 ≤ state.fracSrcOffset)
    (bounded : Bounded args.fracStepSize args.dstFrames (args.fracSrcFrames - 1) (2 ^ 31)
      state.dstOffset state.fracSrcOffset) :
    args.pointLoop fuel state =
      state.moveTo (sweep (args.writeValue (nearest config args.src)) args.fracStepSize
        args.dstFrames (args.fracSrcFrames - 1) state.cursor) := by
  induction fuel generalizing state with
  | zero =>
    rw [sweep_done _ _ _ _ _ (by simp only [MixState.cursor]; omega)]
    rfl
  | succ fuel ih =>
    rw [pointLoop, limit]
    by_cases go : state.dstOffset < args.dstFrames ∧ state.fracSrcOffset < args.fracSrcFrames
    · obtain ⟨room, before⟩ := go
      have below := bounded.first room (by omega)
      have emitted := emit_eq state (nearest config args.src)
        (fun channel => config.readFrom args.src (config.sourceIndex state.fracSrcOffset) channel)
        audible (by omega) below
        (fun channel _ => config.readFrom_sourceIndex _ nonneg (by omega) channel)
      rw [if_pos ⟨room, before⟩, emitted, sweep_next _ _ _ _ state.cursor room
        (show state.fracSrcOffset ≤ args.fracSrcFrames - 1 by omega)]
      generalize advanced :
        state.cursor.advance (args.writeValue (nearest config args.src)) args.fracStepSize = next
      have frame : next.frame = state.dstOffset + 1 := by rw [← advanced]; rfl
      have position : next.position = state.fracSrcOffset + args.fracStepSize := by
        rw [← advanced]; rfl
      rw [ih (state.moveTo next) (by rw [MixState.moveTo_dstOffset]; omega)
        (by rw [MixState.moveTo_fracSrcOffset]; omega) ?_]
      · rfl
      · simp only [MixState.moveTo, frame, position]
        exact bounded.advance
    · rw [if_neg go, sweep_done _ _ _ _ _ (by simp only [MixState.cursor]; omega)]
      rfl

theorem pointSkip_eq (ready : args.PointReady state) (silent : args.scaler = .muted) :
    args.pointSkip state =
      state.moveTo (sweep (args.writeValue (nearest config args.src)) args.fracStepSize
        args.dstFrames (args.fracSrcFrames - 1) state.cursor) := by
  have short := ready.short
  have nonneg := ready.nonneg
  have before := ready.before
  obtain ⟨final, -⟩ := bounded_sweep (args.writeValue (nearest config args.src))
    (args.fracStepSize : Int) args.dstFrames args.dstFrames (args.fracSrcFrames - 1)
    (args.fracSrcFrames - 1) (2 ^ 31) state.cursor ready.bounded
    (show state.fracSrcOffset < 2 ^ 31 by omega) (Nat.le_refl _) (Int.le_refl _)
  rw [args.writeValue_muted _ silent, sweep_count _ _ _ _ ready.positive] at final
  rw [args.writeValue_muted _ silent, sweep_count _ _ _ _ ready.positive, pointSkip]
  by_cases room : state.dstOffset < args.dstFrames
  · have step := ready.bounded.first room (by omega)
    obtain ⟨counted, moved⟩ := @skip_eq _ args.dstFrames state.dstOffset _ _ ready.positive before
      (by omega) (by omega) final
    rw [if_pos room]
    dsimp only
    rw [counted, moved]
    rfl
  · have none : count args.fracStepSize args.dstFrames (args.fracSrcFrames - 1) state.dstOffset
        state.fracSrcOffset = 0 := count_done _ _ _ _ _ ready.positive (by omega)
    rw [if_neg room, MixState.cursor, none]
    simp [MixState.moveTo]

theorem pointMix_spec (ready : args.PointReady state) :
    args.pointMix state =
      let final := sweep (args.writeValue (nearest config args.src)) args.fracStepSize
        args.dstFrames (args.fracSrcFrames - 1) state.cursor
      (decide (args.fracSrcFrames ≤ final.position), state.moveTo final) := by
  have produced : (if args.scaler = .muted then args.pointSkip state
      else args.pointLoop (args.dstFrames - state.dstOffset) state) =
      state.moveTo (sweep (args.writeValue (nearest config args.src)) args.fracStepSize
        args.dstFrames (args.fracSrcFrames - 1) state.cursor) := by
    by_cases silent : args.scaler = .muted
    · rw [if_pos silent, pointSkip_eq ready silent]
    · rw [if_neg silent, pointLoop_eq _ state silent (Nat.le_refl _) ready.limit_eq ready.nonneg
        ready.bounded]
  simp only [pointMix, produced, ready.limit_eq, MixState.moveTo_fracSrcOffset]

end MixArgs

end MojoMedia.Mixers
