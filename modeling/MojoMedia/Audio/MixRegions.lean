import Mathlib.Data.List.GetD
import MojoMedia.Audio.LinearSamplerSweep

set_option autoImplicit false

namespace MojoMedia.Mixers

open MachineInt Sweep

structure Region (config : Config) where
  data : config.Buffer
  frames : Nat
  positive : 0 < frames
  whole : data.length = frames * config.src.count

def Region.fracFrameLen {config : Config} (region : Region config) : Nat :=
  region.frames * fracOne

structure MixParams where
  fracStepSize : Nat
  amplitudeScale : Nat
  accumulate : Bool

variable {config : Config}

def MixParams.args (params : MixParams) (dst dstFrames : Nat) (src : config.Buffer)
    (fracSrcFrames : Nat) : MixArgs config :=
  { dst, dstFrames, src, fracSrcFrames
    fracStepSize := params.fracStepSize
    amplitudeScale := params.amplitudeScale
    accumulate := params.accumulate }

def MixState.dropRegion (state : MixState) (region : Region config) : MixState :=
  { state with fracSrcOffset := s32 (state.fracSrcOffset - region.fracFrameLen) }

-- The first component is what is left of the source.
def processRegions (params : MixParams) (dst dstFrames : Nat) :
    List (Region config) → MixState → List (Region config) × MixState
  | [], state => ([], state)
  | region :: rest, state =>
    if (region.fracFrameLen : Int) ≤ state.fracSrcOffset then
      processRegions params dst dstFrames rest (state.dropRegion region)
    else
      match (params.args dst dstFrames region.data region.fracFrameLen).mix state with
      | (false, next) => (region :: rest, next)
      | (true, next) => processRegions params dst dstFrames rest (next.dropRegion region)

-- `produced` frames of the destination belong to earlier jobs. The first component
-- of the result is the number of frames produced by all jobs.
def processJobs (params : MixParams) :
    Nat → List Nat → List (Region config) → MixState → Nat × List (Region config) × MixState
  | produced, [], regions, state => (produced + state.dstOffset, regions, state)
  | produced, dstFrames :: later, regions, state =>
    match processRegions params (produced * config.dst.count) dstFrames regions state with
    | ([], next) => (produced + next.dstOffset, [], next)
    | (region :: rest, next) =>
      processJobs params (produced + dstFrames) later (region :: rest) { next with dstOffset := 0 }

def totalFrames (regions : List (Region config)) : Nat := (regions.map Region.frames).sum

def wholeData (regions : List (Region config)) : config.Buffer :=
  regions.flatMap Region.data

@[simp] theorem totalFrames_nil : totalFrames ([] : List (Region config)) = 0 := rfl

@[simp] theorem totalFrames_append (before regions : List (Region config)) :
    totalFrames (before ++ regions) = totalFrames before + totalFrames regions := by
  simp [totalFrames]

@[simp] theorem totalFrames_cons (region : Region config) (rest : List (Region config)) :
    totalFrames (region :: rest) = region.frames + totalFrames rest := by
  simp [totalFrames]

@[simp] theorem wholeData_append (before regions : List (Region config)) :
    wholeData (before ++ regions) = wholeData before ++ wholeData regions := by
  simp [wholeData]

@[simp] theorem wholeData_cons (region : Region config) (rest : List (Region config)) :
    wholeData (region :: rest) = region.data ++ wholeData rest := by
  simp [wholeData]

theorem wholeData_length (regions : List (Region config)) :
    (wholeData regions).length = totalFrames regions * config.src.count := by
  induction regions with
  | nil => simp [wholeData, totalFrames]
  | cons region rest ih => rw [wholeData_cons, totalFrames_cons, List.length_append, ih,
      region.whole, Nat.add_mul]

theorem readFrame_congr (src other : config.Buffer) (frame otherFrame channel : Nat)
    (small : channel < config.dst.count)
    (same : ∀ sample < config.src.count,
      src.getD (frame * config.src.count + sample) config.type.silence =
        other.getD (otherFrame * config.src.count + sample) config.type.silence) :
    config.readFrame src frame channel = config.readFrame other otherFrame channel := by
  have read (sample : Nat) (inFrame : sample < config.src.count) :
      config.sampleAt src (frame * config.src.count + sample) =
        config.sampleAt other (otherFrame * config.src.count + sample) :=
    congrArg (normalize config.type) (same sample inFrame)
  obtain ⟨dst, type, channels⟩ := config
  cases dst with
  | mono =>
    obtain rfl : channel = 0 := Nat.lt_one_iff.mp small
    cases channels with
    | mono =>
      have first := read 0 Nat.zero_lt_one
      simp only [Config.readFrame, Config.read, Nat.zero_div] at first ⊢
      exact first
    | stereo =>
      have first := read 0 Nat.two_pos
      have second := read 1 Nat.one_lt_two
      simp only [Config.readFrame, Config.read, Nat.zero_div, Nat.add_zero] at first second ⊢
      rw [first, second]
  | stereo =>
    cases channels with
    | mono =>
      have none : channel / 2 = 0 := Nat.div_eq_of_lt small
      have first := read 0 Nat.zero_lt_one
      simp only [Config.readFrame, Config.dstPerSrc, Channels.count, Config.read, Nat.div_one,
        none] at first ⊢
      exact first
    | stereo =>
      have sample := read channel small
      simp only [Config.readFrame, Config.dstPerSrc, Channels.count, Config.read,
        Nat.div_self Nat.two_pos, Nat.div_one] at sample ⊢
      exact sample

theorem readFrame_window (before data after : config.Buffer) (frame frames offset channel : Nat)
    (length : data.length = frames * config.src.count)
    (placed : before.length = offset * config.src.count) (inside : frame < frames)
    (small : channel < config.dst.count) :
    config.readFrame (before ++ (data ++ after)) (offset + frame) channel =
      config.readFrame data frame channel := by
  refine readFrame_congr _ _ _ _ _ small fun sample inFrame => ?_
  have next : frame * config.src.count + config.src.count ≤ data.length := by
    rw [length, ← Nat.succ_mul]
    exact Nat.mul_le_mul_right _ inside
  have start : (offset + frame) * config.src.count + sample =
      before.length + (frame * config.src.count + sample) := by
    rw [Nat.add_mul, placed, Nat.add_assoc]
  rw [start, List.getD_append_right _ _ _ _ (Nat.le_add_right _ _), Nat.add_sub_cancel_left,
    List.getD_append _ _ _ _ (by omega)]

def savedBefore (config : Config) (whole : config.Buffer) (initial : Nat → Int) (offset : Nat)
    (channel : Nat) : Int :=
  if offset = 0 then initial channel else config.readFrame whole (offset - 1) channel

theorem frame_between (offset : Nat) (position : Int) (later : offset ≠ 0)
    (negative : position < 0) (near : -(fracOne : Int) < position) :
    0 ≤ position + offset * fracOne ∧
      (position + offset * fracOne).toNat / fracOne = offset - 1 ∧
      (position + offset * fracOne).toNat % fracOne + (-position).toNat = fracOne := by
  have one : fracOne = 4096 := rfl
  rw [one] at near ⊢
  omega

theorem frame_within (offset : Nat) (position : Int) (nonneg : 0 ≤ position) :
    0 ≤ position + offset * fracOne ∧
      (position + offset * fracOne).toNat / fracOne = offset + position.toNat / fracOne ∧
      (position + offset * fracOne).toNat % fracOne = position.toNat % fracOne := by
  have one : fracOne = 4096 := rfl
  rw [one]
  omega

theorem frame_lt_frames (frames : Nat) (position : Int) (positive : 0 < frames)
    (inside : position ≤ (frames * fracOne : Nat) - (fracOne : Int)) :
    position.toNat / fracOne < frames ∧
      (position.toNat % fracOne ≠ 0 → position.toNat / fracOne + 1 < frames) := by
  have one : fracOne = 4096 := rfl
  rw [one] at inside ⊢
  omega

theorem signal_window (region : Region config) (before after : config.Buffer)
    (initial saved : Nat → Int) (offset : Nat) (position : Int) (channel : Nat)
    (placed : before.length = offset * config.src.count)
    (near : -(fracOne : Int) < position)
    (inside : position ≤ (region.fracFrameLen : Int) - fracOne)
    (small : channel < config.dst.count)
    (filter : position < 0 → saved channel =
      savedBefore config (before ++ (region.data ++ after)) initial offset channel) :
    signal config region.data saved position channel =
      signal config (before ++ (region.data ++ after)) initial (position + offset * fracOne)
        channel := by
  have window (frame : Nat) (within : frame < region.frames) :=
    readFrame_window before region.data after frame region.frames offset channel region.whole
      placed within small
  obtain ⟨here, following⟩ := frame_lt_frames region.frames position region.positive inside
  by_cases negative : position < 0
  · have first := window 0 region.positive
    rw [signal, if_pos negative, filter negative, ← first, Nat.add_zero]
    by_cases zero : offset = 0
    · simp only [savedBefore, zero, if_true, Int.natCast_zero, Int.zero_mul,
        Int.add_zero, signal, if_pos negative]
    · -- Between two regions the whole source interpolates the same two frames.
      obtain ⟨nonneg, frame, distances⟩ := frame_between offset position zero negative near
      have next : offset - 1 + 1 = offset := Nat.succ_pred zero
      have between : (position + offset * (fracOne : Int)).toNat % fracOne ≠ 0 := by omega
      rw [signal, if_neg (Int.not_lt.mpr nonneg), if_neg between, frame, next, savedBefore,
        if_neg zero]
      exact interpolate_comm _ _ _ _ (by omega)
  · obtain ⟨nonneg, frame, alpha⟩ := frame_within offset position (Int.not_lt.mp negative)
    rw [signal, if_neg negative, signal, if_neg (Int.not_lt.mpr nonneg), frame, alpha,
      window _ here]
    by_cases onFrame : position.toNat % fracOne = 0
    · rw [if_pos onFrame, if_pos onFrame]
    · rw [if_neg onFrame, if_neg onFrame, Nat.add_assoc, window _ (following onFrame)]

def regionSweep (params : MixParams) (dst dstFrames : Nat) (region : Region config)
    (state : MixState) : Cursor (Nat → Int) :=
  sweep ((params.args dst dstFrames region.data region.fracFrameLen).write
    state.sampler.filterData) params.fracStepSize dstFrames
    ((region.fracFrameLen : Int) - fracOne) state.cursor

theorem Region.last_frame (region : Region config) :
    ((region.fracFrameLen : Int) - fracOne).toNat / fracOne = region.frames - 1 := by
  have one : fracOne = 4096 := rfl
  have length : region.fracFrameLen = region.frames * 4096 := rfl
  rw [one, length]
  omega

theorem mix_region_spec {params : MixParams} {dst dstFrames : Nat} {region : Region config}
    {state : MixState}
    (ready : (params.args dst dstFrames region.data region.fracFrameLen).Ready state) :
    let result := (params.args dst dstFrames region.data region.fracFrameLen).mix state
    let last := (region.fracFrameLen : Int) - fracOne
    result.2.cursor = regionSweep params dst dstFrames region state ∧
      (result.1 = true ↔ last ≤ result.2.fracSrcOffset ∧ result.2.dstOffset < dstFrames) ∧
      (dstFrames ≤ result.2.dstOffset ∨ last < result.2.fracSrcOffset) ∧
      result.2.dstOffset ≤ dstFrames ∧
      state.fracSrcOffset ≤ result.2.fracSrcOffset ∧
      ∀ channel < config.dst.count, result.2.sampler.filterData channel =
        if last ≤ result.2.fracSrcOffset then
          config.readFrame region.data (region.frames - 1) channel
        else state.sampler.filterData channel := by
  intro result last
  have send : (params.args dst dstFrames region.data region.fracFrameLen).send = last :=
    ready.send_eq
  obtain ⟨moved, consumed, saved⟩ := MixArgs.mix_spec ready
  rw [send] at moved consumed saved
  rw [← moved] at consumed saved
  have swept : result.2.cursor = regionSweep params dst dstFrames region state := moved
  have position : result.2.fracSrcOffset = _ := congrArg Cursor.position swept
  have frame : result.2.dstOffset = _ := congrArg Cursor.frame swept
  refine ⟨swept, consumed, ?_, ?_, ?_, ?_⟩
  · rw [position, frame]
    exact sweep_stops _ _ _ _ _
  · rw [frame]
    exact sweep_frame_le _ _ _ _ _ (Nat.le_of_lt ready.room)
  · rw [position]
    exact le_sweep_position _ _ _ _ _ (Int.natCast_nonneg _)
  · rw [region.last_frame] at saved
    exact saved

section Follows

variable (params : MixParams) (all : List (Region config)) (frames : Nat) (initial : Nat → Int)

def wholeArgs : MixArgs config :=
  params.args 0 frames (wholeData all) (totalFrames all * fracOne)

def lastOffset : Int := (totalFrames all * fracOne : Nat) - (fracOne : Int)

def placed (produced offset : Nat) (cursor : Cursor (Nat → Int)) : Cursor (Nat → Int) :=
  ⟨cursor.out, cursor.frame + produced, cursor.position + (offset * fracOne : Nat)⟩

structure Follows (target : Cursor (Nat → Int)) (produced : Nat)
    (before regions : List (Region config)) (state : MixState) : Prop where
  split : all = before ++ regions
  target : sweep ((wholeArgs params all frames).write initial) params.fracStepSize frames
    (lastOffset all) (placed produced (totalFrames before) state.cursor) = target
  near : -(fracOne : Int) < state.fracSrcOffset
  start : state.fracSrcOffset + (totalFrames before * fracOne : Nat) < 2 ^ 31
  bounded : Bounded params.fracStepSize frames (lastOffset all) (2 ^ 31)
    (state.dstOffset + produced) (state.fracSrcOffset + (totalFrames before * fracOne : Nat))
  filter : state.fracSrcOffset < 0 → ∀ channel < config.dst.count,
    state.sampler.filterData channel =
      savedBefore config (wholeData all) initial (totalFrames before) channel

variable {params all frames initial} {target : Cursor (Nat → Int)} {produced : Nat}
  {before : List (Region config)} {regions : List (Region config)} {state : MixState}

theorem Follows.drop {region : Region config}
    (follows : Follows params all frames initial target produced before (region :: regions) state)
    (passed : (region.fracFrameLen : Int) - fracOne < state.fracSrcOffset)
    (saved : state.fracSrcOffset < region.fracFrameLen → ∀ channel < config.dst.count,
      state.sampler.filterData channel =
        config.readFrame region.data (region.frames - 1) channel) :
    Follows params all frames initial target produced (before ++ [region]) regions
      (state.dropRegion region) := by
  have offset : (state.dropRegion region).fracSrcOffset =
      state.fracSrcOffset - region.fracFrameLen := by
    have start := follows.start
    have one : fracOne = 4096 := rfl
    refine s32_of_lt _ ?_ ?_
    · omega
    · omega
  have place : (state.dropRegion region).fracSrcOffset +
        (totalFrames (before ++ [region]) * fracOne : Nat) =
      state.fracSrcOffset + (totalFrames before * fracOne : Nat) := by
    have added : totalFrames (before ++ [region]) * fracOne =
        totalFrames before * fracOne + region.fracFrameLen := by
      simp only [totalFrames_append, totalFrames_cons, totalFrames_nil, Nat.add_zero, Nat.add_mul,
        Region.fracFrameLen]
    rw [offset, added]
    omega
  have cursor : placed produced (totalFrames (before ++ [region]))
        (state.dropRegion region).cursor =
      placed produced (totalFrames before) state.cursor := by
    simp only [placed, MixState.cursor, place]
    rfl
  refine ⟨?_, ?_, ?_, ?_, ?_, ?_⟩
  · rw [List.append_assoc]
    exact follows.split
  · rw [cursor]
    exact follows.target
  · omega
  · rw [place]
    exact follows.start
  · rw [place]
    exact follows.bounded
  · intro negative channel small
    have last := readFrame_window (wholeData before) region.data (wholeData regions)
      (region.frames - 1) region.frames (totalFrames before) channel region.whole
      (wholeData_length before) (Nat.sub_lt region.positive Nat.one_pos) small
    have positive := region.positive
    have frame : totalFrames (before ++ [region]) - 1 =
        totalFrames before + (region.frames - 1) := by
      simp only [totalFrames_append, totalFrames_cons, totalFrames_nil]
      omega
    have nonzero : totalFrames (before ++ [region]) ≠ 0 := by
      simp only [totalFrames_append, totalFrames_cons]
      omega
    rw [savedBefore, if_neg nonzero, frame, follows.split, wholeData_append, wholeData_cons, last]
    exact saved (by omega) channel small

theorem Follows.lengths {region : Region config}
    (follows : Follows params all frames initial target produced before (region :: regions) state) :
    totalFrames all * fracOne =
      totalFrames before * fracOne + (region.fracFrameLen + totalFrames regions * fracOne) := by
  rw [follows.split, totalFrames_append, totalFrames_cons, Nat.add_mul, Nat.add_mul]
  rfl

theorem Follows.ready {region : Region config} {dstFrames : Nat} (dst : Nat)
    (follows : Follows params all frames initial target produced before (region :: regions) state)
    (positive : 0 < params.fracStepSize) (short : totalFrames all * fracOne < 2 ^ 31)
    (room : state.dstOffset < dstFrames) (fits : dstFrames + produced ≤ frames) :
    (params.args dst dstFrames region.data region.fracFrameLen).Ready state := by
  have source : fracOne ≤ region.fracFrameLen := Nat.le_mul_of_pos_left _ region.positive
  have whole : fracOne ∣ region.fracFrameLen := ⟨region.frames, Nat.mul_comm _ _⟩
  have lengths := follows.lengths
  obtain ⟨-, -, near, start, bounded, -⟩ := follows
  rw [lastOffset] at bounded
  -- From here on the lengths are just numbers.
  generalize region.fracFrameLen = length, totalFrames before * fracOne = passed,
    totalFrames regions * fracOne = later, totalFrames all * fracOne = total at *
  refine ⟨room, whole, source, ?_, positive, near, ?_, ?_⟩
  · simp only [MixParams.args]
    omega
  · omega
  · -- The bound for the whole, seen from the start of the region.
    intro count few inside
    simp only [MixParams.args] at few inside ⊢
    have ahead := bounded count (by omega) (by omega)
    omega

theorem Follows.write_eq {region : Region config}
    (follows : Follows params all frames initial target produced before (region :: regions) state)
    (dstFrames frame : Nat) (position : Int) (later : state.fracSrcOffset ≤ position)
    (inside : position ≤ (region.fracFrameLen : Int) - fracOne) :
    (params.args (produced * config.dst.count) dstFrames region.data region.fracFrameLen).write
        state.sampler.filterData frame position =
      (wholeArgs params all frames).write initial (frame + produced)
        (position + (totalFrames before * fracOne : Nat)) := by
  have near := follows.near
  funext mixBuf
  simp only [MixArgs.write, MixArgs.writeValue]
  have scaler : (params.args (produced * config.dst.count) dstFrames region.data
      region.fracFrameLen).scaler = (wholeArgs params all frames).scaler := rfl
  rw [scaler]
  split
  next => rfl
  next =>
    have out : produced * config.dst.count + frame * config.dst.count =
        0 + (frame + produced) * config.dst.count := by
      rw [Nat.add_mul, Nat.zero_add, Nat.add_comm]
    have same (channel : Nat) (small : channel < config.dst.count) :=
      signal_window region (wholeData before) (wholeData regions) initial state.sampler.filterData
        (totalFrames before) position channel (wholeData_length before) (by omega) inside small
        (fun negative => by
          have kept := follows.filter (by omega) channel small
          rw [follows.split, wholeData_append, wholeData_cons] at kept
          exact kept)
    have source : (wholeArgs params all frames).src =
        wholeData before ++ (region.data ++ wholeData regions) := by
      rw [← wholeData_cons, ← wholeData_append, ← follows.split]
      rfl
    rw [source, Nat.cast_mul]
    refine (MixArgs.writeFrame_congr _ _ _ _ _ same).trans ?_
    simp only [MixArgs.writeFrame, wholeArgs, MixParams.args, out]
    rfl

theorem Follows.placed_regionSweep {region : Region config} (dstFrames : Nat)
    (follows : Follows params all frames initial target produced before (region :: regions) state) :
    placed produced (totalFrames before)
        (regionSweep params (produced * config.dst.count) dstFrames region state) =
      sweep ((wholeArgs params all frames).write initial) params.fracStepSize
        (dstFrames + produced)
        ((region.fracFrameLen : Int) - fracOne + (totalFrames before * fracOne : Nat))
        (placed produced (totalFrames before) state.cursor) := by
  have same := sweep_congr _ (params.fracStepSize : Int) dstFrames
    ((region.fracFrameLen : Int) - fracOne) state.cursor (Int.natCast_nonneg _)
    (fun frame position later inside => follows.write_eq dstFrames frame position later inside)
  rw [regionSweep, same]
  exact (sweep_shift _ _ _ _ _ _ _).symm

theorem Follows.mix {region : Region config} {dstFrames : Nat}
    (follows : Follows params all frames initial target produced before (region :: regions) state)
    (positive : 0 < params.fracStepSize) (short : totalFrames all * fracOne < 2 ^ 31)
    (room : state.dstOffset < dstFrames) (fits : dstFrames + produced ≤ frames) :
    let result := (params.args (produced * config.dst.count) dstFrames region.data
      region.fracFrameLen).mix state
    Follows params all frames initial target produced before (region :: regions) result.2 ∧
      (result.1 = false → result.2.dstOffset = dstFrames) ∧
      (result.1 = true → result.2.dstOffset < dstFrames ∧
        Follows params all frames initial target produced (before ++ [region]) regions
          (result.2.dropRegion region)) := by
  have spec := mix_region_spec
    (follows.ready (produced * config.dst.count) positive short room fits)
  generalize (params.args (produced * config.dst.count) dstFrames region.data
    region.fracFrameLen).mix state = result at spec
  obtain ⟨moved, consumed, stops, within, forwards, saved⟩ := spec
  have whole := follows.placed_regionSweep dstFrames
  rw [← moved] at whole
  have source : fracOne ≤ region.fracFrameLen := Nat.le_mul_of_pos_left _ region.positive
  have longer : (region.fracFrameLen : Int) - fracOne + (totalFrames before * fracOne : Nat) ≤
      lastOffset all := by
    rw [lastOffset, follows.lengths]
    omega
  obtain ⟨start, bounded⟩ := bounded_sweep ((wholeArgs params all frames).write initial)
    (params.fracStepSize : Int) (dstFrames + produced) frames
    ((region.fracFrameLen : Int) - fracOne + (totalFrames before * fracOne : Nat))
    (lastOffset all) (2 ^ 31) (placed produced (totalFrames before) state.cursor)
    follows.bounded follows.start fits longer
  rw [← whole] at start bounded
  have remains : Follows params all frames initial target produced before (region :: regions)
      result.2 := by
    refine ⟨follows.split, ?_, Int.lt_of_lt_of_le follows.near forwards, start, bounded, ?_⟩
    · rw [whole, sweep_absorb _ _ _ _ _ _ _ fits longer]
      exact follows.target
    · intro negative channel small
      rw [saved channel small, if_neg (by omega)]
      exact follows.filter (by omega) channel small
  refine ⟨remains, ?_, ?_⟩
  · intro stopped
    rw [stopped] at consumed
    simp only [Bool.false_eq_true, false_iff] at consumed
    omega
  · intro finished
    obtain ⟨passed, space⟩ := consumed.mp finished
    refine ⟨space, remains.drop (by omega) ?_⟩
    intro _ channel small
    rw [saved channel small, if_pos passed]

theorem processRegions_follows (dstFrames : Nat) (positive : 0 < params.fracStepSize)
    (short : totalFrames all * fracOne < 2 ^ 31) (fits : dstFrames + produced ≤ frames)
    (regions before : List (Region config)) (state : MixState)
    (room : state.dstOffset < dstFrames)
    (follows : Follows params all frames initial target produced before regions state) :
    let result := processRegions params (produced * config.dst.count) dstFrames regions state
    (∃ before, Follows params all frames initial target produced before result.1 result.2) ∧
      (result.1 ≠ [] → result.2.dstOffset = dstFrames) := by
  induction regions generalizing before state with
  | nil => exact ⟨⟨before, follows⟩, fun left => absurd rfl left⟩
  | cons region rest ih =>
    rw [processRegions]
    by_cases skip : (region.fracFrameLen : Int) ≤ state.fracSrcOffset
    · rw [if_pos skip]
      refine ih _ _ room (follows.drop ?_ fun inside => absurd skip (Int.not_le.mpr inside))
      have one : (0 : Int) < fracOne := by decide
      omega
    · rw [if_neg skip]
      obtain ⟨remains, stopped, finished⟩ := follows.mix positive short room fits
      split
      next next mixed =>
        rw [mixed] at remains stopped
        exact ⟨⟨before, remains⟩, fun _ => stopped rfl⟩
      next next mixed =>
        rw [mixed] at finished
        obtain ⟨space, dropped⟩ := finished rfl
        exact ih _ _ space dropped

theorem Follows.at_end
    (follows : Follows params all frames initial target produced before regions state)
    (ended : regions = [] ∨ frames ≤ state.dstOffset + produced) :
    placed produced (totalFrames before) state.cursor = target := by
  rw [← follows.target, sweep_done]
  rcases ended with empty | full
  · right
    have near := follows.near
    rw [lastOffset, follows.split, empty, List.append_nil]
    simp only [placed, MixState.cursor]
    omega
  · left
    exact full

theorem Follows.next_job {dstFrames : Nat}
    (follows : Follows params all frames initial target produced before regions state)
    (full : state.dstOffset = dstFrames) :
    Follows params all frames initial target (produced + dstFrames) before regions
      { state with dstOffset := 0 } := by
  obtain ⟨split, target, near, start, bounded, filter⟩ := follows
  have frame : state.dstOffset + produced = 0 + (produced + dstFrames) := by omega
  rw [frame] at bounded
  simp only [placed, MixState.cursor, frame] at target
  exact ⟨split, target, near, start, bounded, filter⟩

theorem processJobs_follows (positive : 0 < params.fracStepSize)
    (short : totalFrames all * fracOne < 2 ^ 31) (jobs : List Nat) (produced : Nat)
    (before regions : List (Region config)) (state : MixState)
    (nonempty : ∀ job ∈ jobs.tail, 0 < job) (room : ∀ job ∈ jobs.head?, state.dstOffset < job)
    (total : produced + jobs.sum = frames)
    (follows : Follows params all frames initial target produced before regions state) :
    let result := processJobs params produced jobs regions state
    ∃ before, all = before ++ result.2.1 ∧
      (⟨result.2.2.mixBuf, result.1,
        result.2.2.fracSrcOffset + (totalFrames before * fracOne : Nat)⟩ : Cursor _) = target := by
  induction jobs generalizing produced before regions state with
  | nil =>
    have ended := follows.at_end (.inr (by simp only [List.sum_nil] at total; omega))
    rw [placed, Nat.add_comm] at ended
    exact ⟨before, follows.split, ended⟩
  | cons dstFrames later ih =>
    rw [List.sum_cons] at total
    have ran := processRegions_follows dstFrames positive short (by omega) regions before
      state (room dstFrames rfl) follows
    rw [processJobs]
    obtain ⟨⟨passed, reached⟩, full⟩ := ran
    split
    next next done =>
      rw [done] at reached
      have ended := reached.at_end (.inl rfl)
      rw [placed, Nat.add_comm] at ended
      exact ⟨passed, reached.split, ended⟩
    next region rest next done =>
      rw [done] at reached full
      have positiveJob (job : Nat) (isHead : job ∈ later.head?) : 0 < job :=
        nonempty job (List.mem_of_mem_head? isHead)
      exact ih (produced + dstFrames) passed (region :: rest) { next with dstOffset := 0 }
        (fun job inTail => nonempty job (List.mem_of_mem_tail inTail)) positiveJob (by omega)
        (reached.next_job (full (List.cons_ne_nil _ _)))

end Follows

-- Regions and jobs cut the same mix into pieces: the samples, the number of frames
-- produced and the position in the source are those of one call of `Mix`.
theorem mix_fragmentation_independent (params : MixParams) (regions : List (Region config))
    (firstJob : Nat) (laterJobs : List Nat) (state : MixState) (source : regions ≠ [])
    (room : state.dstOffset < firstJob) (jobs : ∀ job ∈ laterJobs, 0 < job)
    (positive : 0 < params.fracStepSize) (short : totalFrames regions * fracOne < 2 ^ 31)
    (near : -(fracOne : Int) < state.fracSrcOffset) (start : state.fracSrcOffset < 2 ^ 31)
    (bounded : Bounded params.fracStepSize (firstJob :: laterJobs).sum (lastOffset regions)
      (2 ^ 31) state.dstOffset state.fracSrcOffset) :
    let whole := (params.args 0 (firstJob :: laterJobs).sum (wholeData regions)
      (totalFrames regions * fracOne)).mix state
    let pieces := processJobs params 0 (firstJob :: laterJobs) regions state
    ∃ consumed, regions = consumed ++ pieces.2.1 ∧
      pieces.2.2.mixBuf = whole.2.mixBuf ∧
      pieces.1 = whole.2.dstOffset ∧
      pieces.2.2.fracSrcOffset + (totalFrames consumed * fracOne : Nat) =
        whole.2.fracSrcOffset := by
  intro whole pieces
  have frames : 0 < totalFrames regions := by
    obtain ⟨region, rest, rfl⟩ := List.exists_cons_of_ne_nil source
    have := region.positive
    rw [totalFrames_cons]
    omega
  have ready : (wholeArgs params regions (firstJob :: laterJobs).sum).Ready state := by
    refine ⟨?_, ⟨_, Nat.mul_comm _ _⟩, Nat.le_mul_of_pos_left _ frames, short, positive, near,
      start, bounded⟩
    simp only [wholeArgs, MixParams.args, List.sum_cons]
    omega
  have mixed := (MixArgs.mix_spec ready).1
  have follows : Follows params regions (firstJob :: laterJobs).sum state.sampler.filterData
      whole.2.cursor 0 [] regions state := by
    refine ⟨rfl, ?_, near, by simpa using start, by simpa using bounded, fun _ _ _ => rfl⟩
    have origin :
        placed 0 (totalFrames ([] : List (Region config))) state.cursor = state.cursor := by
      simp [placed]
    rw [ready.send_eq] at mixed
    rw [origin]
    exact mixed.symm
  obtain ⟨consumed, split, same⟩ := processJobs_follows positive short (firstJob :: laterJobs) 0 []
    regions state jobs (by simpa using room) (Nat.zero_add _) follows
  refine ⟨consumed, split, ?_, ?_, ?_⟩
  · exact congrArg Cursor.out same
  · exact congrArg Cursor.frame same
  · exact congrArg Cursor.position same

def monoConfig : Config := ⟨.mono, .int16, .mono⟩

def monoRegions : List (Region monoConfig) :=
  [⟨[(100 : Int16)], 1, by decide, rfl⟩, ⟨[(200 : Int16), (-300 : Int16)], 2, by decide, rfl⟩]

def monoParams : MixParams := ⟨3000, Gain.unity, false⟩

def monoState : MixState := ⟨fun _ => 0, 0, -1000, { }⟩

theorem mix_two_regions :
    let whole := (monoParams.args 0 5 (wholeData monoRegions) (3 * fracOne)).mix monoState
    let pieces := processJobs monoParams 0 [2, 3] monoRegions monoState
    pieces.1 = 4 ∧ ∃ consumed, monoRegions = consumed ++ pieces.2.1 ∧
      pieces.2.2.mixBuf = whole.2.mixBuf ∧
      pieces.1 = whole.2.dstOffset ∧
      pieces.2.2.fracSrcOffset + (totalFrames consumed * fracOne : Nat) =
        whole.2.fracSrcOffset := by
  refine ⟨by decide +kernel, mix_fragmentation_independent monoParams monoRegions 2 [3] monoState
    (List.cons_ne_nil _ _) Nat.two_pos (by simp) (by decide) (by decide) (by decide) (by decide) ?_⟩
  intro count few _
  have steps : monoParams.fracStepSize = 3000 := rfl
  have position : monoState.fracSrcOffset = -1000 := rfl
  simp only [monoState, List.sum_cons, List.sum_nil] at few
  rw [steps, position]
  omega

end MojoMedia.Mixers
