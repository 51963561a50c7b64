import MojoMedia.Audio.SampledFrames

set_option autoImplicit false

namespace MojoMedia.Mixers

open MachineInt Loops Audio

namespace Config

variable (config : Config)

theorem mem_frameReads {first index : Nat} (read : index ∈ config.frameReads first) :
    first ≤ index ∧ index < first + config.src.count := by
  obtain ⟨dst, type, src⟩ := config
  cases dst <;> cases src <;>
    simp [frameReads, readIndices, dstPerSrc, Channels.count, List.range_succ] at read ⊢ <;>
    omega

theorem mem_pairReads {first index : Nat} (read : index ∈ config.pairReads first) :
    first ≤ index ∧ index < first + 2 * config.src.count := by
  obtain ⟨dst, type, src⟩ := config
  cases dst <;> cases src <;>
    simp [pairReads, readIndices, dstPerSrc, Channels.count, List.range_succ] at read ⊢ <;>
    omega

theorem first_mem_frameReads (first : Nat) : first ∈ config.frameReads first := by
  obtain ⟨dst, type, src⟩ := config
  cases dst <;> cases src <;>
    simp [frameReads, readIndices, dstPerSrc, Channels.count, List.range_succ]

theorem first_mem_pairReads (first : Nat) : first ∈ config.pairReads first := by
  obtain ⟨dst, type, src⟩ := config
  cases dst <;> cases src <;>
    simp [pairReads, readIndices, dstPerSrc, Channels.count, List.range_succ]

theorem src_count_bounds : 0 < config.src.count ∧ config.src.count ≤ 2 := by
  cases config.src <;> decide

theorem le_sourceIndex_of_neg {soff : Int} (negative : soff < 0) (lower : -2 ^ 31 ≤ soff) :
    2 ^ 32 - 2 ^ 20 ≤ config.sourceIndex soff := by
  have one : (fracOne : Int) = 4096 := rfl
  simp only [sourceIndex, one]
  cases config.src with
  | mono =>
    simp only [Channels.count]
    omega
  | stereo =>
    simp only [Channels.count]
    omega

end Config

namespace Instance

variable {config : Config} (call : Instance config) (kind : MixerKind)

def sourceSamples : Nat := (call.fracSrcFrames + (fracOne - 1)) / fracOne * config.src.count

structure Contained (before after : InstanceState) : Prop where
  reads : ∀ index ∈ after.reads, index < call.sourceSamples
  writes : ∀ index ∈ after.writes, call.dst + before.doff * config.dst.count ≤ index ∧
    index < call.dst + call.dstFrames * config.dst.count
  inside : after.doff ≤ call.dstFrames

def StaysInBounds (state : InstanceState) : Prop :=
  ∃ result, call.mix kind state = some result ∧ call.Contained state result.2

-- There is a destination range. A muted instance does not count frames with a step of zero, and
-- an audible one does not move backwards out of the source.
def InStep (state : InstanceState) : Prop :=
  state.doff ≤ call.dstFrames ∧
    if call.scaleType = .muted then call.fracStepSize = 0 → ¬ call.Room (call.limit kind) state
    else call.Forward kind state

def afterSkip (skipped : InstanceState) : Bool × InstanceState :=
  match kind with
  | .linearSampler => call.finish (call.finalFrame skipped)
  | .pointSampler => call.leave .pointSampler skipped

variable {call kind} {state : InstanceState}

theorem sourceSamples_le (short : call.fracSrcFrames ≤ 2 ^ 31 - 1) :
    call.sourceSamples ≤ 2 ^ 20 := by
  have one : fracOne = 4096 := rfl
  obtain ⟨-, few⟩ := config.src_count_bounds
  have frames : (call.fracSrcFrames + (fracOne - 1)) / fracOne ≤ 2 ^ 19 := by
    rw [one]
    omega
  calc call.sourceSamples ≤ 2 ^ 19 * 2 := Nat.mul_le_mul frames few
    _ = 2 ^ 20 := by norm_num

theorem lt_sourceSamples (frame count : Nat) {index : Nat}
    (frames : frame + count ≤ (call.fracSrcFrames + (fracOne - 1)) / fracOne)
    (inside : index < frame * config.src.count + count * config.src.count) :
    index < call.sourceSamples := by
  rw [← Nat.add_mul] at inside
  exact Nat.lt_of_lt_of_le inside (Nat.mul_le_mul_right _ frames)

theorem frameReads_inside {soff : Int} (short : call.fracSrcFrames ≤ 2 ^ 31 - 1)
    (nonneg : 0 ≤ soff) (before : soff < call.fracSrcFrames) :
    ∀ index ∈ config.frameReads (config.sourceIndex soff), index < call.sourceSamples := by
  intro index read
  have one : fracOne = 4096 := rfl
  have inside := (config.mem_frameReads read).2
  rw [config.sourceIndex_of_nonneg nonneg (by omega)] at inside
  refine lt_sourceSamples (soff.toNat / fracOne) 1 ?_ (by omega)
  rw [one]
  omega

theorem frameReads_inside_iff {soff : Int} (short : call.fracSrcFrames ≤ 2 ^ 31 - 1)
    (lower : -2 ^ 31 ≤ soff) (before : soff < call.fracSrcFrames) :
    (∀ index ∈ config.frameReads (config.sourceIndex soff), index < call.sourceSamples) ↔
      0 ≤ soff := by
  constructor
  · intro inside
    by_contra negative
    have first := inside _ (config.first_mem_frameReads _)
    have far := config.le_sourceIndex_of_neg (Int.not_le.mp negative) lower
    have few := sourceSamples_le short
    omega
  · intro nonneg
    exact frameReads_inside short nonneg before

theorem pairReads_inside_iff {soff : Int} (short : call.fracSrcFrames ≤ 2 ^ 31 - 1)
    (lower : -2 ^ 31 ≤ soff) (before : soff < (call.fracSrcFrames : Int) - fracOne) :
    (∀ index ∈ config.pairReads (config.sourceIndex soff), index < call.sourceSamples) ↔
      0 ≤ soff := by
  have one : fracOne = 4096 := rfl
  constructor
  · intro inside
    by_contra negative
    have first := inside _ (config.first_mem_pairReads _)
    have far := config.le_sourceIndex_of_neg (Int.not_le.mp negative) lower
    have few := sourceSamples_le short
    omega
  · intro nonneg index read
    have inside := (config.mem_pairReads read).2
    rw [config.sourceIndex_of_nonneg nonneg (by omega)] at inside
    refine lt_sourceSamples (soff.toNat / fracOne) 2 ?_ inside
    rw [one] at before ⊢
    omega

theorem Contained.emit {before : InstanceState} (contained : call.Contained before state)
    (later : before.doff ≤ state.doff) (room : state.doff < call.dstFrames)
    {reads : List Nat} (inside : ∀ index ∈ reads, index < call.sourceSamples)
    (sample : Nat → Int) : call.Contained before (call.emit state reads sample) := by
  refine ⟨?_, ?_, room⟩
  · intro index read
    rcases List.mem_append.mp read with earlier | here
    · exact contained.reads index earlier
    · exact inside index here
  · intro index written
    rcases List.mem_append.mp written with earlier | here
    · exact contained.writes index earlier
    · obtain ⟨channel, few, rfl⟩ := List.mem_map.mp here
      have first := Nat.mul_le_mul_right config.dst.count later
      have last := Nat.mul_le_mul_right config.dst.count (show state.doff + 1 ≤ _ from room)
      rw [List.mem_range] at few
      rw [Nat.succ_mul] at last
      omega

theorem Contained.sampleFrame {before : InstanceState} (asserts : call.Asserts kind before)
    (contained : call.Contained before state) (later : before.doff ≤ state.doff)
    (room : state.doff < call.dstFrames) (lower : -2 ^ 31 ≤ state.soff)
    (reaches : state.soff ≤ call.last kind) (nonneg : kind = .pointSampler → 0 ≤ state.soff) :
    call.Contained before (call.sampleFrame kind state) := by
  have one : fracOne = 4096 := rfl
  cases kind with
  | linearSampler =>
    have send := asserts.linear_send
    have short := asserts.2.2.1
    simp only [last] at reaches
    simp only [Instance.sampleFrame]
    split
    next => exact contained.emit later room (by simp) _
    next inside =>
      split
      next ahead =>
        refine contained.emit later room ?_ _
        rw [pairReads_inside_iff short lower (by omega)]
        omega
      next => exact contained.emit later room (frameReads_inside short (by omega) (by omega)) _
  | pointSampler =>
    have length := asserts.point_limit
    simp only [last] at reaches
    exact contained.emit later room
      (frameReads_inside asserts.1 (nonneg rfl) (by omega)) _

theorem Contained.saveLast {before : InstanceState} (asserts : call.Asserts .linearSampler before)
    (contained : call.Contained before state) :
    call.Contained before (call.saveLast state) := by
  have one : fracOne = 4096 := rfl
  have send := asserts.linear_send
  refine ⟨?_, contained.writes, contained.inside⟩
  intro index read
  rcases List.mem_append.mp read with earlier | here
  · exact contained.reads index earlier
  · exact frameReads_inside asserts.2.2.1 asserts.send_nonneg (by omega) index here

theorem Contained.finish {before : InstanceState} (asserts : call.Asserts .linearSampler before)
    (contained : call.Contained before state) :
    call.Contained before (call.finish state).2 := by
  unfold Instance.finish
  split
  · exact contained.saveLast asserts
  · exact contained

theorem contained_enter (asserts : call.Asserts kind state)
    (fresh : state.reads = [] ∧ state.writes = []) (inside : state.doff ≤ call.dstFrames) :
    call.Contained state (call.enter kind state) := by
  obtain ⟨noReads, noWrites⟩ := fresh
  have start : call.Contained state state := by
    refine ⟨?_, ?_, inside⟩
    · simp [noReads]
    · simp [noWrites]
  cases kind with
  | linearSampler =>
    have one : fracOne = 4096 := rfl
    have source := asserts.2.1
    simp only [enter]
    split
    · refine ⟨?_, start.writes, inside⟩
      intro index read
      rcases List.mem_append.mp read with earlier | here
      · exact start.reads index earlier
      · exact frameReads_inside asserts.2.2.1 (Int.le_refl 0) (by omega) index
          (by rw [config.sourceIndex_of_nonneg (Int.le_refl 0) (by norm_num)]; simpa using here)
    · exact start
  | pointSampler => exact start

theorem audible_stays (asserts : call.Asserts kind state) (typed : call.Typed state)
    (fresh : state.reads = [] ∧ state.writes = []) (inside : state.doff ≤ call.dstFrames)
    (audible : call.scaleType ≠ .muted) (forward : call.Forward kind state) :
    call.StaysInBounds kind state := by
  obtain ⟨total, mixed, frames⟩ := mix_sampled asserts typed audible forward
  have advances := call.sampleFrame_advances kind
  have sampled : ∀ pass ≤ total,
      call.Contained state ((call.sampleFrame kind)^[pass] (call.enter kind state)) := by
    refine iterate_keeps (call.Contained state) (fun pass before contained => ?_)
      (contained_enter asserts fresh inside)
    have entered : call.Typed (call.enter kind state) := typed.enter
    obtain ⟨doff, soff⟩ := advances.iterate entered pass
    rw [enter_doff] at doff
    rw [position_enter] at soff
    have here := (frames pass).mp before
    refine contained.sampleFrame asserts (by omega) (by rw [doff]; exact here.1)
      (by rw [soff]; exact le_s32 _) (by rw [soff]; exact here.2.2) ?_
    rintro rfl
    rw [soff]
    exact here.nonneg typed forward asserts.2.2
  refine ⟨_, mixed, ?_⟩
  have final := sampled total (Nat.le_refl _)
  cases kind with
  | linearSampler => exact final.finish asserts
  | pointSampler => exact final

theorem forward_of_nonneg (first more : Nat) (ahead : 0 ≤ call.limit kind)
    (early : ∀ frame < first, call.position state frame < 0)
    (held : ∀ pass, pass < more ↔ ∀ earlier ≤ pass,
      state.doff + (earlier + first) < call.dstFrames ∧
        call.position state (earlier + first) < call.limit kind)
    (nonneg : ∀ pass < more, 0 ≤ call.position state (pass + first)) :
    call.Forward kind state := by
  intro frame room inside here
  by_contra negative
  have started : first ≤ frame := by
    by_contra before
    have below := early frame (Nat.not_le.mp before)
    omega
  obtain ⟨pass, rfl⟩ := Nat.exists_eq_add_of_le' started
  have further : pass + 1 < more := by
    refine (held (pass + 1)).mpr fun earlier soon => ⟨by omega, ?_⟩
    rcases Nat.eq_or_lt_of_le soon with rfl | sooner
    · rw [Nat.add_right_comm]
      omega
    · exact inside (earlier + first) (by omega)
  have next := nonneg (pass + 1) further
  rw [Nat.add_right_comm] at next
  exact negative next

theorem reads_finalFrame (audible : call.scaleType ≠ .muted) (index : Nat)
    (read : index ∈ state.reads) : index ∈ (call.finalFrame state).reads := by
  unfold finalFrame
  by_cases hit : state.doff < call.dstFrames ∧ state.soff = call.send
  · rw [if_pos hit, if_neg audible]
    exact List.mem_append_left _ read
  · rw [if_neg hit]
    exact read

theorem reads_finish (index : Nat) (read : index ∈ state.reads) :
    index ∈ (call.finish state).2.reads := by
  unfold finish
  split
  · exact List.mem_append_left _ read
  · exact read

theorem linear_forward (asserts : call.Asserts .linearSampler state) (typed : call.Typed state)
    (audible : call.scaleType ≠ .muted) (stays : call.StaysInBounds .linearSampler state) :
    call.Forward .linearSampler state := by
  obtain ⟨result, mixed, contained⟩ := stays
  simp only [mix, linearMix, if_neg audible, Option.map_some, Option.some.injEq] at mixed
  obtain ⟨first, entered⟩ := negativeLoop_passes asserts.1
  obtain ⟨more, ran⟩ := pairLoop_passes call
    (if state.soff < 0 then call.negativeLoop (call.loadFirst state) else state)
  change Passes _ _ _ more (call.linearBody state) at ran
  generalize (if state.soff < 0 then call.negativeLoop (call.loadFirst state) else state) = middle
    at entered ran
  have advances := call.sampleFrame_advances .linearSampler
  have start : call.Typed (call.enter .linearSampler state) := typed.enter
  obtain ⟨doff, soff⟩ := advances.iterate start first
  rw [← entered.final_eq, enter_doff] at doff
  rw [← entered.final_eq, position_enter] at soff
  have later := typed.later soff
  have held : ∀ pass, pass < more ↔ ∀ earlier ≤ pass,
      state.doff + (earlier + first) < call.dstFrames ∧
        call.position state (earlier + first) < call.send := by
    intro pass
    rw [ran.lt_count_iff]
    refine forall_congr' fun earlier => imp_congr_right fun _ => ?_
    rw [call.pairFrame_advances.room_iff later, position_later soff, doff, Nat.add_assoc,
      Nat.add_comm first]
  have reads : ∀ index ∈ (call.linearBody state).reads, index < call.sourceSamples := by
    intro index read
    apply contained.reads
    rw [← mixed]
    exact reads_finish index (reads_finalFrame audible index read)
  have step : ∀ pass < more,
      ((∀ index ∈ (call.pairFrame (call.pairFrame^[pass] middle)).reads,
        index < call.sourceSamples) ↔
      (∀ index ∈ (call.pairFrame^[pass] middle).reads, index < call.sourceSamples) ∧
        0 ≤ call.position state (pass + first)) := by
    intro pass before
    have here := ((held pass).mp before pass (Nat.le_refl _)).2
    have meets := pairReads_inside_iff asserts.2.2.1 (le_position (pass + first))
      (by rw [← asserts.linear_send]; exact here)
    have reached := (call.pairFrame_advances.iterate later pass).2
    rw [position_later soff] at reached
    rw [← meets, ← reached]
    exact List.forall_mem_append
  have nonneg := (iterate_holds_iff
    (fun state : InstanceState => ∀ index ∈ state.reads, index < call.sourceSamples) _ step).mp
    (ran.final_eq ▸ reads)
  refine forward_of_nonneg first more asserts.send_nonneg ?_ held nonneg.2
  intro frame before
  have negative := entered.held frame before
  rw [advances.room_iff start, position_enter] at negative
  exact negative.2

theorem point_forward (asserts : call.Asserts .pointSampler state) (typed : call.Typed state)
    (audible : call.scaleType ≠ .muted) (stays : call.StaysInBounds .pointSampler state) :
    call.Forward .pointSampler state := by
  obtain ⟨result, mixed, contained⟩ := stays
  simp only [mix, pointMix, if_neg audible, Option.map_some, Option.some.injEq] at mixed
  have length := asserts.point_limit
  obtain ⟨more, ran⟩ := pointLoop_passes call state
  have held : ∀ pass, pass < more ↔ ∀ earlier ≤ pass,
      state.doff + (earlier + 0) < call.dstFrames ∧
        call.position state (earlier + 0) < s32 call.fracSrcFrames := by
    intro pass
    rw [ran.lt_count_iff]
    refine forall_congr' fun earlier => imp_congr_right fun _ => ?_
    rw [call.singleFrame_advances.room_iff typed, Nat.add_zero]
  have reads : ∀ index ∈ (call.pointLoop state).reads, index < call.sourceSamples := by
    intro index read
    apply contained.reads
    rw [← mixed]
    exact read
  have step : ∀ pass < more,
      ((∀ index ∈ (call.singleFrame (call.singleFrame^[pass] state)).reads,
        index < call.sourceSamples) ↔
      (∀ index ∈ (call.singleFrame^[pass] state).reads, index < call.sourceSamples) ∧
        0 ≤ call.position state (pass + 0)) := by
    intro pass before
    have here := ((held pass).mp before pass (Nat.le_refl _)).2
    have meets := frameReads_inside_iff asserts.1 (le_position (pass + 0))
      (by rw [← length]; exact here)
    have reached := (call.singleFrame_advances.iterate typed pass).2
    rw [← Nat.add_zero pass] at reached
    rw [← meets, ← reached]
    exact List.forall_mem_append
  have nonneg := (iterate_holds_iff
    (fun state : InstanceState => ∀ index ∈ state.reads, index < call.sourceSamples) _ step).mp
    (ran.final_eq ▸ reads)
  refine forward_of_nonneg 0 more ?_ (by simp) held nonneg.2
  simp only [limit, length]
  omega

theorem Contained.skip {before : InstanceState} (contained : call.Contained before state)
    (step : call.fracStepSize ≠ 0) (limit : Int) :
    ∃ skipped, call.skip limit state = some skipped ∧ call.Contained before skipped := by
  have inside := contained.inside
  refine ⟨_, if_neg step, contained.reads, contained.writes, ?_⟩
  simp only
  omega

theorem Contained.finalFrame {before : InstanceState} (contained : call.Contained before state)
    (muted : call.scaleType = .muted) : call.Contained before (call.finalFrame state) := by
  unfold Instance.finalFrame
  by_cases hit : state.doff < call.dstFrames ∧ state.soff = call.send
  · rw [if_pos hit, if_pos muted]
    exact ⟨contained.reads, contained.writes, hit.1⟩
  · rw [if_neg hit]
    exact contained

theorem mix_muted (asserts : call.Asserts kind state) (muted : call.scaleType = .muted) :
    call.mix kind state =
      (if call.Room (call.limit kind) state then call.skip (call.limit kind) state
        else some state).map (call.afterSkip kind) := by
  cases kind with
  | linearSampler =>
    simp only [mix, linearMix, if_pos muted]
    rfl
  | pointSampler =>
    have length : call.limit .pointSampler = call.fracSrcFrames := asserts.point_limit
    have room : call.Room (call.limit .pointSampler) state ↔ state.doff < call.dstFrames :=
      and_iff_left asserts.2.1
    simp only [mix, pointMix, if_pos muted, pointSkip]
    by_cases left : state.doff < call.dstFrames
    · rw [if_pos left, if_pos (room.mpr left), length]
      rfl
    · rw [if_neg left, if_neg (mt room.mp left)]
      rfl

theorem muted_stays (asserts : call.Asserts kind state)
    (fresh : state.reads = [] ∧ state.writes = []) (inside : state.doff ≤ call.dstFrames)
    (muted : call.scaleType = .muted)
    (safe : call.fracStepSize = 0 → ¬ call.Room (call.limit kind) state) :
    call.StaysInBounds kind state := by
  have start : call.Contained state state := by
    refine ⟨?_, ?_, inside⟩
    · simp [fresh.1]
    · simp [fresh.2]
  have skips : ∃ skipped, (if call.Room (call.limit kind) state then
      call.skip (call.limit kind) state else some state) = some skipped ∧
        call.Contained state skipped := by
    by_cases room : call.Room (call.limit kind) state
    · rw [if_pos room]
      exact start.skip (fun zero => safe zero room) _
    · rw [if_neg room]
      exact ⟨state, rfl, start⟩
  obtain ⟨skipped, produced, contained⟩ := skips
  refine ⟨_, by rw [mix_muted asserts muted, produced]; rfl, ?_⟩
  cases kind with
  | linearSampler => exact (contained.finalFrame muted).finish asserts
  | pointSampler => exact contained

theorem muted_steps (asserts : call.Asserts kind state) (muted : call.scaleType = .muted)
    (stays : call.StaysInBounds kind state) (zero : call.fracStepSize = 0) :
    ¬ call.Room (call.limit kind) state := by
  intro room
  obtain ⟨result, mixed, -⟩ := stays
  rw [mix_muted asserts muted, if_pos room, skip, if_pos zero] at mixed
  exact absurd mixed (by simp)

theorem StaysInBounds.inside (asserts : call.Asserts kind state) (typed : call.Typed state)
    (stays : call.StaysInBounds kind state) : state.doff ≤ call.dstFrames := by
  cases kind with
  | linearSampler => exact Nat.le_of_lt asserts.1
  | pointSampler =>
    by_contra outside
    obtain ⟨result, mixed, contained⟩ := stays
    have final := contained.inside
    by_cases muted : call.scaleType = .muted
    · rw [mix_muted asserts muted, if_neg fun room => outside (Nat.le_of_lt room.1)] at mixed
      obtain rfl := Option.some.inj mixed
      exact outside final
    · simp only [mix, pointMix, if_neg muted, Option.map_some, Option.some.injEq] at mixed
      obtain ⟨count, ran⟩ := pointLoop_passes call state
      obtain rfl := mixed
      rw [ran.final_eq, (call.singleFrame_advances.iterate typed count).1] at final
      omega

theorem stays_in_bounds_iff (asserts : call.Asserts kind state) (typed : call.Typed state)
    (fresh : state.reads = [] ∧ state.writes = []) :
    call.StaysInBounds kind state ↔ call.InStep kind state := by
  by_cases muted : call.scaleType = .muted
  · rw [InStep, if_pos muted]
    constructor
    · intro stays
      exact ⟨stays.inside asserts typed, muted_steps asserts muted stays⟩
    · rintro ⟨inside, safe⟩
      exact muted_stays asserts fresh inside muted safe
  · rw [InStep, if_neg muted]
    constructor
    · intro stays
      refine ⟨stays.inside asserts typed, ?_⟩
      cases kind with
      | linearSampler => exact linear_forward asserts typed muted stays
      | pointSampler => exact point_forward asserts typed muted stays
    · rintro ⟨inside, forward⟩
      exact audible_stays asserts typed fresh inside muted forward

theorem steps_inside_stay :
    let call : Instance ⟨.mono, .int16, .mono⟩ :=
      ⟨.eqUnity, false, 0, 2, [(7 : Int16), (8 : Int16), (9 : Int16)], 3 * 4096, 4096, Gain.unity⟩
    call.StaysInBounds .linearSampler ⟨fun _ => 0, fun _ => 0, 0, 0, [], []⟩ := by
  intro call
  refine (stays_in_bounds_iff (by unfold Asserts; decide) ⟨by decide, by decide, by decide,
    by decide⟩ (by decide)).mpr ⟨by decide, ?_⟩
  rw [if_neg (by decide)]
  intro frame room inside here
  have first : frame = 0 := by
    simp only [call] at room
    omega
  rw [first]
  decide

theorem wrapped_position_leaves_source :
    ∃ (call : Instance ⟨.mono, .int16, .mono⟩) (state : InstanceState),
      call.Asserts .linearSampler state ∧ call.Typed state ∧
        (state.reads = [] ∧ state.writes = []) ∧ ¬ call.StaysInBounds .linearSampler state := by
  refine ⟨⟨.eqUnity, false, 0, 2, [], 2 ^ 31 - 1, 8192, Gain.unity⟩,
    ⟨fun _ => 0, fun _ => 0, 0, 2 ^ 31 - 4098, [], []⟩, by unfold Asserts; decide,
    ⟨by decide, by decide, by decide, by decide⟩, by decide, ?_⟩
  rintro ⟨result, mixed, contained⟩
  have reads := congrArg (Option.map fun result => result.2.reads) mixed
  rw [show Option.map (fun result : Bool × InstanceState => result.2.reads)
      (Instance.mix _ .linearSampler _) = some [524286, 524287, 4294443008, 4294443009] by
    decide +kernel] at reads
  have far := contained.reads 4294443008 (by simp [← Option.some.inj reads])
  exact absurd far (by decide)

end Instance

end MojoMedia.Mixers
