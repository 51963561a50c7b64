import MojoMedia.Audio.InstanceSelection
import MojoMedia.Audio.MixSafety
import MojoMedia.Audio.TrackSamples

set_option autoImplicit false

namespace MojoMedia.Mixers

open MachineInt

def Word16 (value : Int) : Prop := -0x8000 ≤ value ∧ value ≤ 0x7fff

theorem word_zero : Word16 0 :=
  ⟨by decide, by decide⟩

end MojoMedia.Mixers

namespace MojoMedia.Audio

open MachineInt Mixers Sweep

section Calls

variable {config : Config} {kind : MixerKind} {args : MixArgs config} {state : MixState}

def MixerKind.Ready (kind : MixerKind) (args : MixArgs config) (state : MixState) : Prop :=
  match kind with
  | .pointSampler => args.PointReady state
  | .linearSampler => args.Ready state

theorem mix_sweep (ready : kind.Ready args state) :
    let result := kind.mix args state
    let final := sweep (args.writeValue (kind.value config args.src state.sampler.filterData))
      args.fracStepSize args.dstFrames (args.fracSrcFrames - kind.span) state.cursor
    result.2.cursor = final ∧
      (result.1 = true → (args.fracSrcFrames : Int) - kind.span < final.position ∧
        (kind = .linearSampler → final.frame < args.dstFrames ∧
          ∀ channel < config.dst.count, result.2.sampler.filterData channel =
            config.readFrame args.src (args.fracSrcFrames / fracOne - 1) channel)) ∧
      (result.1 = false → final.frame = args.dstFrames) := by
  intro result final
  have room : state.cursor.frame ≤ args.dstFrames := by
    cases kind with
    | pointSampler => exact ready.room
    | linearSampler => exact Nat.le_of_lt ready.room
  have stopped : args.dstFrames ≤ final.frame ∨
      (args.fracSrcFrames : Int) - kind.span < final.position := sweep_stops _ _ _ _ _
  have inside : final.frame ≤ args.dstFrames := sweep_frame_le _ _ _ _ _ room
  cases kind with
  | pointSampler =>
    have span : MixerKind.pointSampler.span = 1 := rfl
    have mixed : result = (decide ((args.fracSrcFrames : Int) ≤ final.position),
      state.moveTo final) := MixArgs.pointMix_spec ready
    rw [span] at stopped ⊢
    simp only [mixed, decide_eq_true_eq, decide_eq_false_iff_not]
    refine ⟨rfl, fun passed => ⟨by omega, nofun⟩, fun _ => by omega⟩
  | linearSampler =>
    have one : fracOne = 4096 := rfl
    have span : MixerKind.linearSampler.span = fracOne := rfl
    have send := MixArgs.Ready.send_eq ready
    have source := MixArgs.Ready.source ready
    have spec : result.2.cursor = _ ∧ (result.1 = true ↔ _) ∧ _ := MixArgs.mix_spec ready
    have same : sweep (args.write state.sampler.filterData) args.fracStepSize args.dstFrames
        args.send state.cursor = final := by
      rw [send]
      rfl
    rw [same, send] at spec
    obtain ⟨moved, consumed, saved⟩ := spec
    rw [span] at stopped ⊢
    refine ⟨moved, fun passed => ?_, fun kept => ?_⟩
    · obtain ⟨reached, more⟩ := consumed.mp passed
      refine ⟨by omega, fun _ => ⟨more, fun channel inFrame => ?_⟩⟩
      refine (saved channel inFrame).trans ?_
      rw [if_pos reached, one, show ((args.fracSrcFrames : Int) - (4096 : Nat)).toNat / 4096 =
        args.fracSrcFrames / 4096 - 1 by omega]
    · rw [kept] at consumed
      simp only [Bool.false_eq_true, false_iff] at consumed
      omega

end Calls

structure Entered (kind : MixerKind) (placement : Placement) (dstFrames : Nat) (state : MixState) :
    Prop where
  moving : 0 < placement.step
  frames : placement.frames = placement.produced + dstFrames
  room : state.dstOffset ≤ dstFrames
  more : kind = .linearSampler → state.dstOffset < dstFrames
  position : state.fracSrcOffset = placement.position (placement.produced + state.dstOffset)
  near : -kind.span < state.fracSrcOffset
  upper : state.fracSrcOffset < 2 ^ 31
  earlier : state.dstOffset = 0 ∨ state.fracSrcOffset - placement.step ≤ -kind.span

section Entered

variable {kind : MixerKind} {placement : Placement} {dstFrames : Nat} {state : MixState}

theorem span_bounds (kind : MixerKind) : 1 ≤ kind.span ∧ kind.span ≤ 4096 := by
  cases kind <;> decide

theorem Placement.position_le {early late : Nat} (ordered : early ≤ late) :
    placement.position early ≤ placement.position late := by
  have product : ((early : Int) - placement.produced) * placement.step ≤
      ((late : Int) - placement.produced) * placement.step :=
    Int.mul_le_mul_of_nonneg_right (by omega) (Int.natCast_nonneg _)
  simp only [Placement.position]
  omega

theorem Placement.position_add (frame more : Nat) :
    placement.position (frame + more) = placement.position frame + more * placement.step := by
  simp only [Placement.position]
  push_cast
  ring

theorem Placement.position_after (length frame : Nat) :
    (placement.after length).position frame = placement.position frame - length := by
  simp only [Placement.position, Placement.after]
  ring

theorem Placement.after_after (first second : Nat) :
    (placement.after first).after second = placement.after (first + second) := by
  simp only [Placement.after, Int.natCast_add, Int.sub_sub]

namespace Entered

variable (entered : Entered kind placement dstFrames state)

include entered

theorem position_from (frame : Nat) (later : placement.produced + state.dstOffset ≤ frame) :
    placement.position frame = state.fracSrcOffset +
      ((frame - (placement.produced + state.dstOffset) : Nat) : Int) * placement.step := by
  rw [entered.position, ← placement.position_add, Nat.add_sub_cancel' later]

theorem falls_iff (frame : Nat) (here : placement.produced ≤ frame) :
    -kind.span < placement.position frame ↔ placement.produced + state.dstOffset ≤ frame := by
  have near := entered.near
  constructor
  · intro inside
    by_contra early
    have before : placement.position frame + placement.step ≤ state.fracSrcOffset := by
      have next := placement.position_add frame 1
      have ordered := placement.position_le (show frame + 1 ≤ placement.produced + state.dstOffset by
        omega)
      rw [entered.position]
      omega
    have earlier := entered.earlier
    omega
  · intro later
    have ordered := placement.position_le later
    rw [← entered.position] at ordered
    omega

theorem samples_iff (length frame : Nat) :
    placement.Samples kind length frame ↔
      (placement.produced + state.dstOffset ≤ frame ∧ frame < placement.produced + dstFrames) ∧
        placement.position frame ≤ length - kind.span := by
  rw [Placement.Samples, entered.frames]
  constructor
  · rintro ⟨⟨here, inJob⟩, falls, inside⟩
    exact ⟨⟨(entered.falls_iff frame here).mp falls, inJob⟩, inside⟩
  · rintro ⟨⟨later, inJob⟩, inside⟩
    have here : placement.produced ≤ frame := by omega
    exact ⟨⟨here, inJob⟩, (entered.falls_iff frame here).mpr later, inside⟩

theorem meets {length : Nat} (before : state.fracSrcOffset < length)
    (more : state.dstOffset < dstFrames) :
    ∃ frame < placement.frames, placement.Meets kind length frame := by
  have frames := entered.frames
  refine ⟨placement.produced + state.dstOffset, by omega, ⟨by omega, by omega⟩, ?_⟩
  rw [← entered.position]
  exact ⟨entered.near, before⟩

theorem skip {fracFrameLen : UInt32} (short : fracFrameLen.toNat < 2 ^ 31)
    (passed : (fracFrameLen.toNat : Int) ≤ state.fracSrcOffset) :
    Entered kind (placement.after fracFrameLen.toNat) dstFrames (skipRegion state fracFrameLen) := by
  obtain ⟨moving, frames, room, more, position, near, upper, earlier⟩ := entered
  have span := span_bounds kind
  have moved : (skipRegion state fracFrameLen).fracSrcOffset =
      state.fracSrcOffset - fracFrameLen.toNat := s32_of_lt _ (by omega) (by omega)
  refine ⟨moving, frames, room, more, ?_, ?_, ?_, ?_⟩
  · rw [moved, position, placement.position_after]
    rfl
  · omega
  · omega
  · rw [moved]
    exact earlier.imp_right fun behind => by
      simp only [Placement.after]
      omega

theorem next_lt {length : Nat} (steady : placement.Steady kind length) (frame : Nat)
    (later : placement.produced + state.dstOffset ≤ frame)
    (room : frame < placement.produced + dstFrames)
    (inside : placement.position frame ≤ length - kind.span) :
    placement.position (frame + 1) < 2 ^ 31 := by
  have next := placement.position_add frame 1
  have sampled := (entered.samples_iff length frame).mpr ⟨⟨later, room⟩, inside⟩
  have bound := steady frame (by rw [entered.frames]; omega) sampled
  omega

theorem bounded {length : Nat} (steady : placement.Steady kind length) :
    Bounded placement.step dstFrames (length - kind.span) (2 ^ 31) state.dstOffset
      state.fracSrcOffset := by
  intro count room inside
  have here := entered.position_from (placement.produced + state.dstOffset + count) (by omega)
  have next := placement.position_add (placement.produced + state.dstOffset + count) 1
  rw [Nat.add_sub_cancel_left] at here
  have bound := entered.next_lt steady (placement.produced + state.dstOffset + count) (by omega)
    (by omega) (by rw [here]; exact inside)
  rw [next, here] at bound
  rw [Int.add_mul]
  omega

end Entered

end Entered
def Placement.params (placement : Placement) (accumulate : Bool) : MixParams where
  fracStepSize := placement.step
  amplitudeScale := placement.amplitudeScale
  accumulate := accumulate

section Regions

variable {config : Config}

def Placement.args (placement : Placement) (accumulate : Bool) (dstFrames : Nat)
    (region : PacketRegion config) : MixArgs config :=
  (placement.params accumulate).args (placement.produced * config.dst.count) dstFrames region.data
    region.fracFrameLen.toNat

structure Called (kind : MixerKind) (placement : Placement) (dstFrames : Nat)
    (region : PacketRegion config) (state : MixState) (result : Bool × MixState) : Prop where
  forwards : state.dstOffset ≤ result.2.dstOffset
  position : result.2.fracSrcOffset =
    placement.position (placement.produced + result.2.dstOffset)
  samples : ∀ frame, placement.Samples kind region.fracFrameLen.toNat frame ↔
    placement.produced + state.dstOffset ≤ frame ∧
      frame < placement.produced + result.2.dstOffset
  upper : result.2.fracSrcOffset < 2 ^ 31
  past : result.1 = true →
    (region.fracFrameLen.toNat : Int) - kind.span < result.2.fracSrcOffset ∧
      (kind = .linearSampler → result.2.dstOffset < dstFrames ∧
        ∀ channel < config.dst.count,
          result.2.sampler.filterData channel = region.lastFrame channel)
  room : result.2.dstOffset ≤ dstFrames
  full : result.1 = false → result.2.dstOffset = dstFrames

variable {kind : MixerKind} {placement : Placement} {dstFrames : Nat} {state : MixState}
  {region : PacketRegion config} {accumulate : Bool}

theorem PacketRegion.Whole.le_length (whole : region.Whole kind) (linear : kind = .linearSampler) :
    fracOne ≤ region.fracFrameLen.toNat :=
  Nat.le_of_dvd (whole.source linear) whole.frames

theorem Entered.ready (entered : Entered kind placement dstFrames state)
    (short : region.fracFrameLen.toNat < 2 ^ 31)
    (before : state.fracSrcOffset < region.fracFrameLen.toNat)
    (plays : (∃ frame < placement.frames, placement.Meets kind region.fracFrameLen.toNat frame) →
      region.Whole kind ∧ placement.Steady kind region.fracFrameLen.toNat) :
    kind.Ready (placement.args accumulate dstFrames region) state := by
  cases kind with
  | linearSampler =>
    obtain ⟨whole, steady⟩ := plays (entered.meets before (entered.more rfl))
    exact
      { room := entered.more rfl
        whole := whole.frames
        source := whole.le_length rfl
        short
        positive := entered.moving
        near := entered.near
        start := entered.upper
        bounded := entered.bounded steady }
  | pointSampler =>
    have near : -1 < state.fracSrcOffset := entered.near
    refine
      { room := entered.room
        short
        positive := entered.moving
        nonneg := by omega
        before
        bounded := ?_ }
    by_cases more : state.dstOffset < dstFrames
    · exact entered.bounded (plays (entered.meets before more)).2
    · intro count room
      exact absurd room (fun later => more (by
        have frames : (placement.args accumulate dstFrames region).dstFrames = dstFrames := rfl
        omega))

theorem Entered.called (entered : Entered kind placement dstFrames state)
    (ready : kind.Ready (placement.args accumulate dstFrames region) state) :
    Called kind placement dstFrames region state
      (kind.mix (placement.args accumulate dstFrames region) state) := by
  obtain ⟨moved, past, full⟩ := mix_sweep ready
  generalize kind.mix (placement.args accumulate dstFrames region) state = result at moved past full
  rw [← moved] at past full
  have frame : result.2.dstOffset = _ := congrArg Cursor.frame moved
  have position : result.2.fracSrcOffset = _ := congrArg Cursor.position moved
  have bounded : Bounded placement.step dstFrames (region.fracFrameLen.toNat - kind.span) (2 ^ 31)
      state.dstOffset state.fracSrcOffset := by
    cases kind with
    | pointSampler => exact ready.bounded
    | linearSampler => exact ready.bounded
  have upper := (bounded_sweep ((placement.args accumulate dstFrames region).writeValue
    (kind.value config region.data state.sampler.filterData)) (placement.step : Int) dstFrames
    dstFrames _ _ (2 ^ 31) state.cursor bounded entered.upper (Nat.le_refl _) (Int.le_refl _)).1
  have inside := sweep_frame_le ((placement.args accumulate dstFrames region).writeValue
    (kind.value config region.data state.sampler.filterData)) (placement.step : Int) dstFrames
    (region.fracFrameLen.toNat - kind.span) state.cursor entered.room
  obtain ⟨ends, reaches⟩ := sweep_end ((placement.args accumulate dstFrames region).writeValue
    (kind.value config region.data state.sampler.filterData)) placement.step dstFrames
    (region.fracFrameLen.toNat - kind.span) state.cursor entered.moving
  have within (index : Nat) := lt_count_iff placement.step dstFrames
    (region.fracFrameLen.toNat - kind.span) state.cursor.frame state.cursor.position index
    entered.moving
  generalize Sweep.count placement.step dstFrames (region.fracFrameLen.toNat - kind.span)
    state.cursor.frame state.cursor.position = passed at ends reaches within
  have moves : result.2.dstOffset = state.dstOffset + passed := frame.trans ends
  refine ⟨by omega, ?_, ?_, position ▸ upper, past, frame ▸ inside, full⟩
  · rw [position.trans reaches, moves, ← Nat.add_assoc, placement.position_add, ← entered.position]
    rfl
  · intro later
    rw [entered.samples_iff, moves]
    constructor
    · rintro ⟨⟨behind, room⟩, falls⟩
      rw [entered.position_from later behind] at falls
      have sampled := (within (later - (placement.produced + state.dstOffset))).mpr
        ⟨by simp only [MixState.cursor]; omega, falls⟩
      omega
    · rintro ⟨behind, room⟩
      obtain ⟨few, falls⟩ := (within (later - (placement.produced + state.dstOffset))).mp (by omega)
      rw [entered.position_from later behind]
      simp only [MixState.cursor] at few falls
      exact ⟨⟨behind, by omega⟩, falls⟩

variable {result : Bool × MixState}

theorem Called.next (called : Called kind placement dstFrames region state result)
    (entered : Entered kind placement dstFrames state) (consumed : result.1 = true)
    (short : region.fracFrameLen.toNat < 2 ^ 31) :
    Entered kind (placement.after region.fracFrameLen.toNat) dstFrames
      (skipRegion result.2 region.fracFrameLen) := by
  have span := span_bounds kind
  have upper := called.upper
  obtain ⟨past, saved⟩ := called.past consumed
  have moved : (skipRegion result.2 region.fracFrameLen).fracSrcOffset =
      result.2.fracSrcOffset - region.fracFrameLen.toNat := s32_of_lt _ (by omega) (by omega)
  refine ⟨entered.moving, entered.frames, called.room, fun linear => (saved linear).1, ?_, ?_, ?_,
    ?_⟩
  · rw [moved, called.position, placement.position_after]
    rfl
  · omega
  · omega
  · rw [moved]
    have forwards := called.forwards
    by_cases none : result.2.dstOffset = 0
    · exact .inl none
    right
    -- The frame before the next one falls on this region or before it.
    have last : placement.position (placement.produced + result.2.dstOffset - 1) ≤
        region.fracFrameLen.toNat - kind.span := by
      by_cases sampled : placement.produced + state.dstOffset ≤
          placement.produced + result.2.dstOffset - 1
      · exact ((called.samples _).mpr ⟨sampled, by omega⟩).2.2
      · have before := mt (entered.falls_iff _ (by omega)).mp sampled
        omega
    have next := placement.position_add (placement.produced + result.2.dstOffset - 1) 1
    rw [show placement.produced + result.2.dstOffset - 1 + 1 =
      placement.produced + result.2.dstOffset by omega, ← called.position] at next
    simp only [Placement.after]
    omega

theorem Called.stopped (called : Called kind placement dstFrames region state result)
    (entered : Entered kind placement dstFrames state) (kept : result.1 = false) (frame : Nat)
    (here : placement.produced ≤ frame) (inJob : frame < placement.frames) :
    placement.position frame ≤ region.fracFrameLen.toNat - kind.span := by
  have frames := entered.frames
  have full := called.full kept
  by_cases later : placement.produced + state.dstOffset ≤ frame
  · exact ((called.samples frame).mpr ⟨later, by omega⟩).2.2
  · have before := mt (entered.falls_iff frame here).mp later
    omega

end Regions
structure Agrees (kind : MixerKind) (channels produced : Nat) (playback : Playback)
    (state : MixState) : Prop where
  buffer : ∀ index, state.mixBuf index = playback.sample (index / channels) (index % channels)
  filter : kind = .linearSampler → ∀ channel < channels,
    state.sampler.filterData channel = playback.saved channel
  words : ∀ channel, Word16 (playback.saved channel)
  fresh : ∀ frame channel, produced + state.dstOffset ≤ frame → playback.sample frame channel = 0

section Heard

variable {config : Config} {kind : MixerKind} {placement : Placement} {dstFrames : Nat}
  {state : MixState} {region : PacketRegion config} {playback : Playback}

end Heard

end MojoMedia.Audio
