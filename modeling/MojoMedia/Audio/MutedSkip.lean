import MojoMedia.Audio.SamplerBounds

set_option autoImplicit false

namespace MojoMedia.Mixers

open MachineInt Loops Sweep Audio

namespace Instance

variable {config : Config} (call : Instance config) (kind : MixerKind)

def muted : Instance config := { call with scaleType := .muted, doAccumulate := false }

-- Positions that are sampled and the ones they move on to are 32-bit numbers, and so is the
-- distance to the end of the source with a step added and one taken away.
structure NoOverflow (state : InstanceState) : Prop where
  positions : Bounded call.fracStepSize call.dstFrames (call.last kind) (2 ^ 31) state.doff
    state.soff
  distance : call.Room (call.limit kind) state →
    call.limit kind - state.soff + call.fracStepSize ≤ 2 ^ 32

structure EndsAlike (config : Config) (sampled skipped : Bool × InstanceState) : Prop where
  finished : skipped.1 = sampled.1
  doff : skipped.2.doff = sampled.2.doff
  soff : skipped.2.soff = sampled.2.soff
  saved : ∀ channel < config.dst.count,
    skipped.2.filterData channel = sampled.2.filterData channel

variable {call kind} {state : InstanceState}

theorem NoOverflow.position_succ (exact : call.NoOverflow kind state) (typed : call.Typed state)
    {frame : Nat} (room : state.doff + frame < call.dstFrames)
    (before : state.soff + frame * call.fracStepSize < call.limit kind) :
    call.position state (frame + 1) = state.soff + (frame + 1 : Nat) * call.fracStepSize := by
  have below := exact.positions frame room (le_last before)
  have lower := typed.lower
  have forwards : 0 ≤ ((frame + 1 : Nat) : Int) * call.fracStepSize := by positivity
  exact s32_of_lt _ (by omega) (by push_cast; exact below)

theorem NoOverflow.position_zero (typed : call.Typed state) :
    call.position state 0 = state.soff + (0 : Nat) * call.fracStepSize := by
  rw [typed.position_zero]
  simp

theorem NoOverflow.position_eq (exact : call.NoOverflow kind state) (typed : call.Typed state)
    (frame : Nat)
    (held : ∀ earlier < frame, state.doff + earlier < call.dstFrames ∧
      call.position state earlier < call.limit kind) :
    call.position state frame = state.soff + frame * call.fracStepSize := by
  induction frame with
  | zero => exact NoOverflow.position_zero typed
  | succ frame ih =>
    obtain ⟨room, before⟩ := held frame (Nat.lt_succ_self _)
    rw [ih fun earlier soon => held earlier (Nat.lt_succ_of_lt soon)] at before
    exact exact.position_succ typed room before

theorem NoOverflow.held_iff (exact : call.NoOverflow kind state) (typed : call.Typed state)
    (frame : Nat) :
    (∀ earlier ≤ frame, state.doff + earlier < call.dstFrames ∧
        call.position state earlier < call.limit kind) ↔
      state.doff + frame < call.dstFrames ∧
        state.soff + frame * call.fracStepSize < call.limit kind := by
  constructor
  · intro held
    rw [← exact.position_eq typed frame fun earlier soon => held earlier (Nat.le_of_lt soon)]
    exact held frame (Nat.le_refl _)
  · rintro ⟨room, before⟩ earlier soon
    have inside : ∀ sooner ≤ earlier,
        state.soff + sooner * call.fracStepSize < call.limit kind := by
      intro sooner order
      have less : (sooner : Int) * call.fracStepSize ≤ frame * call.fracStepSize := by
        gcongr
        omega
      omega
    refine ⟨by omega, ?_⟩
    cases earlier with
    | zero => exact NoOverflow.position_zero typed ▸ inside 0 (Nat.le_refl _)
    | succ earlier =>
      rw [exact.position_succ typed (by omega) (inside earlier (Nat.le_succ _))]
      exact inside _ (Nat.le_refl _)

theorem NoOverflow.forward (exact : call.NoOverflow kind state) (typed : call.Typed state) :
    call.Forward kind state := by
  intro frame room inside nonneg
  have held : ∀ earlier ≤ frame, state.doff + earlier < call.dstFrames ∧
      call.position state earlier < call.limit kind :=
    fun earlier soon => ⟨by omega, inside earlier soon⟩
  rw [exact.position_eq typed frame fun earlier soon => held earlier (Nat.le_of_lt soon)] at nonneg
  rw [exact.position_succ typed (by omega) ((exact.held_iff typed frame).mp held).2]
  push_cast
  linarith

theorem s32_add_u32 (offset : Int) (distance : Nat) :
    s32 (offset + (u32 distance : Nat)) = s32 (offset + distance) := by
  simp only [s32, u32, Int.natCast_mod]
  exact Int.add_emod_bmod _ _

theorem lt_roundUp_iff (distance step frame : Nat) (positive : 0 < step)
    (small : distance + step ≤ 2 ^ 32) (ahead : 0 < distance) :
    frame < u32 (u32 (u32 distance + step) + (2 ^ 32 - 1)) / step ↔ frame * step < distance := by
  have rounded : u32 (u32 (u32 distance + step) + (2 ^ 32 - 1)) = distance + step - 1 := by
    simp only [u32]
    omega
  rw [rounded, Nat.lt_div_iff_mul_lt positive]
  omega

structure SkippedBy (call : Instance config) (state : InstanceState) (count : Nat)
    (skipped : InstanceState) : Prop where
  doff : skipped.doff = state.doff + count
  soff : skipped.soff = call.position state count
  filterData : skipped.filterData = state.filterData
  mixBuf : skipped.mixBuf = state.mixBuf
  writes : skipped.writes = state.writes

theorem skip_counts (exact : call.NoOverflow kind state) (typed : call.Typed state)
    (step : call.fracStepSize ≠ 0) :
    ∃ count skipped, (if call.Room (call.limit kind) state then
        call.skip (call.limit kind) state else some state) = some skipped ∧
      call.SkippedBy state count skipped ∧
      ∀ frame, frame < count ↔ ∀ earlier ≤ frame, state.doff + earlier < call.dstFrames ∧
        call.position state earlier < call.limit kind := by
  by_cases room : call.Room (call.limit kind) state
  · have small := exact.distance room
    obtain ⟨doff, before⟩ := room
    rw [if_pos ⟨doff, before⟩, skip, if_neg step]
    refine ⟨_, _, rfl, ⟨rfl, ?_, rfl, rfl, rfl⟩, ?_⟩
    · simp only [s32_add_u32, position]
      push_cast
      rfl
    · intro frame
      rw [exact.held_iff typed, Nat.lt_min,
        lt_roundUp_iff _ _ _ (Nat.pos_of_ne_zero step) (by omega) (by omega)]
      have product : ((frame * call.fracStepSize : Nat) : Int) = frame * call.fracStepSize := by
        push_cast
        rfl
      omega
  · rw [if_neg room]
    refine ⟨0, state, rfl, ⟨rfl, typed.position_zero.symm, rfl, rfl, rfl⟩, fun frame => ?_⟩
    refine iff_of_false (Nat.not_lt_zero _) fun held => room ?_
    have first := held 0 (Nat.zero_le _)
    rw [typed.position_zero] at first
    exact first

theorem finalFrame_skips {count : Nat} {skipped : InstanceState}
    (counted : call.SkippedBy state count skipped)
    (held : ∀ frame, frame < count ↔ ∀ earlier ≤ frame,
      state.doff + earlier < call.dstFrames ∧ call.position state earlier < call.send) :
    ∃ total, call.SkippedBy state total (call.muted.finalFrame skipped) ∧
      ∀ frame, frame < total ↔ call.Sampled .linearSampler state frame := by
  obtain ⟨doff, soff, filterData, mixBuf, writes⟩ := counted
  have same : call.muted.send = call.send := rfl
  have silent : call.muted.scaleType = .muted := rfl
  have frames : call.muted.dstFrames = call.dstFrames := rfl
  by_cases hit : skipped.doff < call.dstFrames ∧ skipped.soff = call.send
  · refine ⟨count + 1, ?_, ?_⟩
    · rw [finalFrame, same, frames, if_pos hit, if_pos silent]
      refine ⟨?_, ?_, filterData, mixBuf, writes⟩
      · rw [doff, Nat.add_assoc]
      · rw [Instance.position_succ, soff]
        rfl
    · intro frame
      rw [sampled_iff_lt held]
      omega
  · refine ⟨count, ?_, ?_⟩
    · rw [finalFrame, same, frames, if_neg hit]
      exact ⟨doff, soff, filterData, mixBuf, writes⟩
    · intro frame
      rw [sampled_iff_lt held]
      omega

theorem sampleFrame_filterData (call : Instance config) (kind : MixerKind)
    (state : InstanceState) : (call.sampleFrame kind state).filterData = state.filterData := by
  cases kind with
  | linearSampler =>
    simp only [sampleFrame]
    split
    · rfl
    · split
      · rfl
      · rfl
  | pointSampler => rfl

theorem iterate_filterData {body : InstanceState → InstanceState}
    (keeps : ∀ state, (body state).filterData = state.filterData) (count : Nat)
    (state : InstanceState) : (body^[count] state).filterData = state.filterData := by
  refine iterate_keeps (fun later : InstanceState => later.filterData = state.filterData)
    (fun pass _ kept => ?_) rfl count (Nat.le_refl _)
  rw [keeps, kept]

theorem enter_filterData (call : Instance config) (kind : MixerKind) (state : InstanceState)
    (channel : Nat) (inside : channel < config.dst.count) :
    (call.enter kind state).filterData channel = state.filterData channel := by
  cases kind with
  | linearSampler =>
    simp only [enter]
    split
    · simp only [loadFirst]
      rw [if_neg (by omega)]
    · rfl
  | pointSampler => rfl

theorem finish_alike {sampled skipped : InstanceState} (doff : skipped.doff = sampled.doff)
    (soff : skipped.soff = sampled.soff)
    (saved : ∀ channel < config.dst.count,
      skipped.filterData channel = sampled.filterData channel) :
    EndsAlike config (call.finish sampled) (call.muted.finish skipped) := by
  have same : call.muted.send = call.send := rfl
  simp only [finish, same, soff, doff]
  by_cases passed : call.send ≤ sampled.soff
  · rw [if_pos passed, if_pos passed]
    refine ⟨rfl, doff, soff, fun channel inside => ?_⟩
    simp only [saveLast, if_pos inside, same]
    rfl
  · rw [if_neg passed, if_neg passed]
    exact ⟨rfl, doff, soff, saved⟩

theorem finish_memory (call : Instance config) (state : InstanceState) :
    (call.finish state).2.mixBuf = state.mixBuf ∧ (call.finish state).2.writes = state.writes := by
  unfold finish
  split
  · exact ⟨rfl, rfl⟩
  · exact ⟨rfl, rfl⟩

theorem muted_mix (asserts : call.Asserts kind state) :
    call.muted.mix kind state =
      (if call.Room (call.limit kind) state then call.skip (call.limit kind) state
        else some state).map (call.muted.afterSkip kind) := by
  have same : call.muted.Asserts kind state := by cases kind <;> exact asserts
  rw [mix_muted same rfl]
  cases kind with
  | linearSampler => rfl
  | pointSampler => rfl

theorem muted_mix_ends_alike (asserts : call.Asserts kind state) (typed : call.Typed state)
    (exact : call.NoOverflow kind state) (audible : call.scaleType ≠ .muted)
    (step : call.fracStepSize ≠ 0) :
    ∃ sampled skipped, call.mix kind state = some sampled ∧
      call.muted.mix kind state = some skipped ∧ EndsAlike config sampled skipped ∧
        skipped.2.mixBuf = state.mixBuf ∧ skipped.2.writes = state.writes := by
  obtain ⟨total, mixed, frames⟩ := mix_sampled asserts typed audible (exact.forward typed)
  obtain ⟨count, skipped, skips, counted, held⟩ := skip_counts exact typed step
  have entered : call.Typed (call.enter kind state) := typed.enter
  obtain ⟨doff, soff⟩ := (call.sampleFrame_advances kind).iterate entered total
  rw [enter_doff] at doff
  rw [position_enter] at soff
  have saved : ∀ channel < config.dst.count,
      ((call.sampleFrame kind)^[total] (call.enter kind state)).filterData channel =
        state.filterData channel := by
    intro channel inside
    rw [iterate_filterData (sampleFrame_filterData call kind),
      enter_filterData call kind state channel inside]
  have silent := muted_mix asserts
  rw [skips, Option.map_some] at silent
  generalize (call.sampleFrame kind)^[total] (call.enter kind state) = final
    at mixed doff soff saved
  cases kind with
  | linearSampler =>
    simp only [afterSkip] at silent
    obtain ⟨all, further, allFrames⟩ := finalFrame_skips counted held
    obtain rfl : all = total :=
      eq_of_forall_lt_iff fun frame => (allFrames frame).trans (frames frame).symm
    obtain ⟨mixBuf, writes⟩ := finish_memory call.muted (call.muted.finalFrame skipped)
    refine ⟨_, _, mixed, silent, finish_alike ?_ ?_ ?_, ?_, ?_⟩
    · rw [further.doff, doff]
    · rw [further.soff, soff]
    · intro channel inside
      rw [further.filterData, saved channel inside]
    · rw [mixBuf, further.mixBuf]
    · rw [writes, further.writes]
  | pointSampler =>
    simp only [afterSkip] at silent
    obtain rfl : count = total := eq_of_forall_lt_iff fun frame =>
      (held frame).trans ((point_sampled_iff frame).symm.trans (frames frame).symm)
    refine ⟨_, _, mixed, silent, ⟨?_, ?_, ?_, ?_⟩, counted.mixBuf, counted.writes⟩
    · simp only [leave, counted.soff, soff]
      rfl
    · simp only [leave, counted.doff, doff]
    · simp only [leave, counted.soff, soff]
    · intro channel inside
      simp only [leave, counted.filterData, saved channel inside]

theorem muted_stereo_ends_alike :
    let call : Instance ⟨.stereo, .int16, .mono⟩ :=
      ⟨.ltUnity, true, 0, 4, [(7 : Int16), (8 : Int16), (9 : Int16)], 10000, 3000, 2 ^ 27⟩
    let state : InstanceState := ⟨fun _ => 0, fun _ => 5, 0, -2000, [], []⟩
    ∃ sampled skipped, call.mix .linearSampler state = some sampled ∧
      call.muted.mix .linearSampler state = some skipped ∧ EndsAlike ⟨.stereo, .int16, .mono⟩
        sampled skipped ∧ skipped.2.mixBuf = state.mixBuf ∧ skipped.2.writes = state.writes := by
  intro call state
  have send : call.send = 5904 := by decide
  refine muted_mix_ends_alike (by unfold Asserts; decide) ⟨by decide, by decide, by decide,
    by decide⟩ ⟨?_, fun _ => ?_⟩ (by decide) (by decide)
  · intro frame room inside
    simp only [last, send] at inside
    simp only [call, state] at inside ⊢
    omega
  · simp only [limit, send]
    decide

theorem muted_mix_faults_at_zero_step :
    ∃ (call : Instance ⟨.mono, .int16, .mono⟩) (state : InstanceState),
      call.Asserts .linearSampler state ∧ call.Typed state ∧ call.NoOverflow .linearSampler state ∧
        call.scaleType ≠ .muted ∧ (call.mix .linearSampler state).isSome = true ∧
          call.muted.mix .linearSampler state = none := by
  refine ⟨⟨.eqUnity, false, 0, 2, [], 3 * 4096, 0, Gain.unity⟩,
    ⟨fun _ => 0, fun _ => 0, 0, 0, [], []⟩, by unfold Asserts; decide,
    ⟨by decide, by decide, by decide, by decide⟩, ⟨?_, fun _ => by decide⟩, by decide,
    by decide +kernel, rfl⟩
  intro frame room inside
  simp

end Instance

end MojoMedia.Mixers
