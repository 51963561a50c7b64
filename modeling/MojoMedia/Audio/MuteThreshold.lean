import MojoMedia.Audio.MutedSkip

set_option autoImplicit false

namespace MojoMedia.Mixers

open MachineInt Loops Audio

def Silent (value : Int) (scale : Nat) : Prop := 0 ≤ value ∨ scale = 0

instance (value : Int) (scale : Nat) : Decidable (Silent value scale) :=
  inferInstanceAs (Decidable (_ ∨ _))

theorem scale_quiet (value : Int) (scale : Nat) (lower : -2 ^ Gain.fractionalBits ≤ value * scale)
    (upper : value * scale < 2 ^ Gain.fractionalBits) :
    scaleSample .ltUnity value scale = if Silent value scale then 0 else -1 := by
  have bits : (2 : Int) ^ Gain.fractionalBits = 2 ^ 28 := rfl
  rw [bits] at lower upper
  simp only [scaleSample, bits]
  by_cases silent : Silent value scale
  · have nonneg : 0 ≤ value * scale := by
      rcases silent with positive | rfl
      · positivity
      · simp
    rw [if_pos silent, Int.ediv_eq_zero_of_lt nonneg upper]
    rfl
  · have negative : value * scale < 0 := by
      obtain ⟨below, nonzero⟩ := not_or.mp silent
      exact Int.mul_neg_of_neg_of_pos (by omega) (by omega)
    have down : value * scale / 2 ^ 28 = -1 := by omega
    rw [if_neg silent, down]
    rfl

theorem product_bounds (bitCount : Nat) (value : Int) (scale : Nat)
    (high : bitCount ≤ Gain.fractionalBits) (lower : -2 ^ bitCount ≤ value)
    (upper : value ≤ 2 ^ bitCount - 1) (quiet : scale ≤ Gain.muteThreshold bitCount) :
    -2 ^ Gain.fractionalBits ≤ value * scale ∧ value * scale < 2 ^ Gain.fractionalBits := by
  have split : (2 : Int) ^ Gain.fractionalBits =
      2 ^ bitCount * 2 ^ (Gain.fractionalBits - bitCount) := by
    rw [← pow_add, Nat.add_sub_cancel' high]
  have below : (scale : Int) ≤ 2 ^ (Gain.fractionalBits - bitCount) - 1 := by
    have positive := Nat.two_pow_pos (Gain.fractionalBits - bitCount)
    unfold Gain.muteThreshold at quiet
    have cast : ((2 ^ (Gain.fractionalBits - bitCount) : Nat) : Int) =
        2 ^ (Gain.fractionalBits - bitCount) := by push_cast; rfl
    omega
  have width : (0 : Int) < 2 ^ bitCount := by positivity
  have nonneg : (0 : Int) ≤ scale := Int.natCast_nonneg _
  rw [split]
  generalize (2 : Int) ^ bitCount = range at *
  generalize (2 : Int) ^ (Gain.fractionalBits - bitCount) = factor at *
  constructor
  · nlinarith
  · nlinarith

theorem scale_at_threshold (bitCount : Nat) (value : Int) (scale : Nat)
    (high : bitCount ≤ Gain.fractionalBits) (lower : -2 ^ bitCount ≤ value)
    (upper : value ≤ 2 ^ bitCount - 1) (quiet : scale ≤ Gain.muteThreshold bitCount) :
    scaleSample .ltUnity value scale = if Silent value scale then 0 else -1 := by
  obtain ⟨below, above⟩ := product_bounds bitCount value scale high lower upper quiet
  exact scale_quiet value scale below above

theorem scale_eq_zero_iff (bitCount : Nat) (value : Int) (scale : Nat)
    (high : bitCount ≤ Gain.fractionalBits) (lower : -2 ^ bitCount ≤ value)
    (upper : value ≤ 2 ^ bitCount - 1) (quiet : scale ≤ Gain.muteThreshold bitCount) :
    scaleSample .ltUnity value scale = 0 ↔ Silent value scale := by
  rw [scale_at_threshold bitCount value scale high lower upper quiet]
  split
  next silent => exact iff_of_true rfl silent
  next sounds => exact iff_of_false (by decide) sounds

def Short (value : Int) : Prop := -2 ^ 15 ≤ value ∧ value ≤ 2 ^ 15 - 1

theorem Config.read_short (config : Config) (src : config.Buffer) (index : Nat) :
    Short (config.read src index) := by
  obtain ⟨lower, upper⟩ := config.read_bounds src index
  exact ⟨by omega, by omega⟩

theorem interpolate_short {a b : Int} {alpha : Nat} (first : Short a) (second : Short b)
    (near : alpha ≤ fracOne) : Short (interpolate a b alpha) := by
  obtain ⟨lowerA, upperA⟩ := first
  obtain ⟨lowerB, upperB⟩ := second
  have one : (fracOne : Int) = 4096 := rfl
  have one' : fracOne = 4096 := rfl
  obtain ⟨rest, total⟩ := Nat.exists_eq_add_of_le near
  have weight : (fracOne : Int) - alpha = rest := by omega
  rw [one'] at total
  have bounds : ∀ (value : Int) (weight : Nat), -2 ^ 15 ≤ value → value ≤ 2 ^ 15 - 1 →
      -2 ^ 15 * weight ≤ value * weight ∧ value * weight ≤ (2 ^ 15 - 1) * weight := by
    intro value weight lower upper
    have nonneg : (0 : Int) ≤ weight := Int.natCast_nonneg _
    exact ⟨Int.mul_le_mul_of_nonneg_right lower nonneg, Int.mul_le_mul_of_nonneg_right upper nonneg⟩
  have left := bounds a rest lowerA upperA
  have right := bounds b alpha lowerB upperB
  simp only [Short, interpolate, weight, ptsFractionalBits]
  rw [s32_of_lt (a * rest) (by omega) (by omega), s32_of_lt (b * alpha) (by omega) (by omega),
    s32_of_lt _ (by omega) (by omega)]
  omega

namespace Instance

variable {config : Config} (call : Instance config) (kind : MixerKind)

def sampleValue (state : InstanceState) (position : Int) (channel : Nat) : Int :=
  let first := config.sourceIndex position + channel / config.dstPerSrc
  match kind with
  | .linearSampler =>
    if position < 0 then
      interpolate (config.read call.src (channel / config.dstPerSrc)) (state.filterData channel)
        (-position).toNat
    else if position < call.send then
      interpolate (config.read call.src first) (config.read call.src (first + config.src.count))
        (position % fracOne).toNat
    else config.read call.src first
  | .pointSampler => config.read call.src first

def place (state : InstanceState) (frame channel : Nat) : Nat :=
  call.dst + (state.doff + frame) * config.dst.count + channel

def Unheard (state : InstanceState) (frame channel : Nat) : Prop :=
  let held := state.mixBuf (call.place state frame channel)
  if Silent (call.sampleValue kind state (call.position state frame) channel) call.amplitudeScale
  then call.doAccumulate = true ∨ held = 0
  else call.doAccumulate = false ∧ held = -1

def Saved (config : Config) (state : InstanceState) : Prop :=
  ∀ channel < config.dst.count, Short (state.filterData channel)

structure Holding (config : Config) (state : InstanceState) : Prop where
  words : ∀ index, -2 ^ 31 ≤ state.mixBuf index ∧ state.mixBuf index < 2 ^ 31
  saved : Saved config state

def Near (state : InstanceState) : Prop :=
  call.Forward kind state ∧
    ∀ frame, call.Sampled kind state frame → -(fracOne : Int) < call.position state frame

def Untouched (state later : InstanceState) : Prop :=
  ∀ index, call.dst + later.doff * config.dst.count ≤ index →
    later.mixBuf index = state.mixBuf index

def Unchanged (state later : InstanceState) : Prop :=
  ∀ index < call.dst + later.doff * config.dst.count, later.mixBuf index = state.mixBuf index

variable {call kind} {state : InstanceState}

theorem Holding.cleared (buffer : state.mixBuf = fun _ => 0)
    (filter : state.filterData = fun _ => 0) : Holding config state := by
  constructor
  · intro index
    simp [buffer]
  · intro channel _
    simp [filter, Short]

theorem Saved.of_eq {later : InstanceState} (saved : Saved config state)
    (same : ∀ channel < config.dst.count, later.filterData channel = state.filterData channel) :
    Saved config later := by
  intro channel inside
  rw [same channel inside]
  exact saved channel inside

theorem finalFrame_filterData (call : Instance config) (state : InstanceState) :
    (call.finalFrame state).filterData = state.filterData := by
  unfold finalFrame
  split_ifs <;> rfl

theorem Saved.finish (saved : Saved config state) : Saved config (call.finish state).2 := by
  unfold Instance.finish
  split
  · intro channel inside
    simp only [saveLast, if_pos inside]
    exact config.read_short _ _
  · exact saved

theorem pairLoop_filterData (call : Instance config) (state : InstanceState) :
    (call.pairLoop state).filterData = state.filterData := by
  obtain ⟨count, ran⟩ := pairLoop_passes call state
  have keeps : ∀ later, (call.pairFrame later).filterData = later.filterData := fun _ => rfl
  rw [ran.final_eq, iterate_filterData keeps]

theorem pointLoop_filterData (call : Instance config) (state : InstanceState) :
    (call.pointLoop state).filterData = state.filterData := by
  obtain ⟨count, ran⟩ := pointLoop_passes call state
  have keeps : ∀ later, (call.singleFrame later).filterData = later.filterData := fun _ => rfl
  rw [ran.final_eq, iterate_filterData keeps]

theorem linearBody_filterData (asserts : call.Asserts .linearSampler state) (channel : Nat)
    (inside : channel < config.dst.count) :
    (call.linearBody state).filterData channel = state.filterData channel := by
  obtain ⟨first, entered⟩ := negativeLoop_passes asserts.1
  rw [linearBody, pairLoop_filterData, entered.final_eq,
    iterate_filterData (sampleFrame_filterData call _), enter_filterData _ _ _ channel inside]

theorem skip_filterData {limit : Int} {skipped : InstanceState}
    (skips : call.skip limit state = some skipped) : skipped.filterData = state.filterData := by
  unfold skip at skips
  split at skips
  · exact absurd skips (by simp)
  · obtain rfl := Option.some.inj skips
    rfl

theorem Saved.afterSkip (saved : Saved config state) :
    Saved config (call.afterSkip kind state).2 := by
  cases kind with
  | linearSampler =>
    exact Saved.finish (saved.of_eq fun _ _ => congrFun (finalFrame_filterData call state) _)
  | pointSampler => exact saved

theorem Saved.mix (asserts : call.Asserts kind state) (saved : Saved config state)
    {result : Bool × InstanceState} (mixed : call.mix kind state = some result) :
    Saved config result.2 := by
  by_cases muted : call.scaleType = .muted
  · rw [mix_muted asserts muted, Option.map_eq_some_iff] at mixed
    obtain ⟨skipped, skips, rfl⟩ := mixed
    refine Saved.afterSkip (saved.of_eq fun channel _ => ?_)
    split at skips
    · rw [skip_filterData skips]
    · rw [Option.some.inj skips]
  · cases kind with
    | linearSampler =>
      simp only [Instance.mix, linearMix, if_neg muted, Option.map_some] at mixed
      rw [← Option.some.inj mixed]
      refine Saved.finish (saved.of_eq fun channel inside => ?_)
      rw [finalFrame_filterData, linearBody_filterData asserts channel inside]
    | pointSampler =>
      simp only [Instance.mix, pointMix, if_neg muted, Option.map_some] at mixed
      rw [← Option.some.inj mixed]
      exact saved.of_eq fun channel _ => congrFun (pointLoop_filterData call state) channel

theorem sampleValue_short (holding : Holding config state) {position : Int}
    (near : -(fracOne : Int) < position) {channel : Nat} (inside : channel < config.dst.count) :
    Short (call.sampleValue kind state position channel) := by
  have one : fracOne = 4096 := rfl
  cases kind with
  | linearSampler =>
    simp only [sampleValue]
    split
    · exact interpolate_short (config.read_short _ _) (holding.saved channel inside) (by omega)
    · split
      · exact interpolate_short (config.read_short _ _) (config.read_short _ _)
          (by rw [one]; omega)
      · exact config.read_short _ _
  | pointSampler => exact config.read_short _ _

theorem mixSample_eq_self_iff {accumulate : Bool} {held value : Int} {scale : Nat}
    (lower : -2 ^ 31 ≤ held) (upper : held < 2 ^ 31) (short : Short value)
    (quiet : scale < Gain.muteThreshold 15) :
    mixSample .ltUnity accumulate held value scale = held ↔
      if Silent value scale then accumulate = true ∨ held = 0
      else accumulate = false ∧ held = -1 := by
  have scaled := scale_at_threshold 15 value scale (by decide) short.1 short.2
    (Nat.le_of_lt quiet)
  by_cases silent : Silent value scale
  · rw [if_pos silent] at scaled
    rw [if_pos silent, mixSample, scaled]
    cases accumulate with
    | false => simp [eq_comm]
    | true =>
      rw [if_pos rfl, s32_of_lt _ (by omega) (by omega)]
      simp
  · rw [if_neg silent] at scaled
    rw [if_neg silent, mixSample, scaled]
    cases accumulate with
    | false => simp [eq_comm]
    | true =>
      -- The sum may wrap, but it is never what was there before.
      obtain ⟨turns, whole⟩ := s32_congr (-1 + held)
      have moved : s32 (-1 + held) ≠ held := by omega
      simp [moved]

theorem mixFrame_keeps_iff (buffer before : Nat → Int) (frame : Nat) (sample : Nat → Int)
    (ahead : ∀ index, call.dst + frame * config.dst.count ≤ index → buffer index = before index) :
    (∀ index < call.dst + (frame + 1) * config.dst.count,
        call.mixFrame buffer frame sample index = before index) ↔
      (∀ index < call.dst + frame * config.dst.count, buffer index = before index) ∧
        ∀ channel < config.dst.count,
          mixSample call.scaleType call.doAccumulate
              (before (call.dst + frame * config.dst.count + channel)) (sample channel)
              call.amplitudeScale =
            before (call.dst + frame * config.dst.count + channel) := by
  rw [Nat.succ_mul]
  constructor
  · intro kept
    constructor
    · intro index below
      have here := kept index (by omega)
      simp only [mixFrame] at here
      rw [if_neg (by omega)] at here
      exact here
    · intro channel inside
      have here := kept (call.dst + frame * config.dst.count + channel) (by omega)
      simp only [mixFrame] at here
      rw [if_pos (by omega), ahead _ (by omega), Nat.add_sub_cancel_left] at here
      exact here
  · rintro ⟨below, places⟩ index inside
    simp only [mixFrame]
    split
    next within =>
      obtain ⟨channel, rfl⟩ := Nat.exists_eq_add_of_le within.1
      rw [ahead _ within.1, Nat.add_sub_cancel_left]
      exact places channel (by omega)
    next outside => exact below index (by omega)

theorem mixFrame_ahead (buffer : Nat → Int) (frame : Nat) (sample : Nat → Int) (index : Nat)
    (ahead : call.dst + (frame + 1) * config.dst.count ≤ index) :
    call.mixFrame buffer frame sample index = buffer index := by
  rw [Nat.succ_mul] at ahead
  simp only [mixFrame]
  rw [if_neg (by omega)]

theorem mixFrame_congr (buffer : Nat → Int) (frame : Nat) {sample other : Nat → Int}
    (same : ∀ channel < config.dst.count, sample channel = other channel) :
    call.mixFrame buffer frame sample = call.mixFrame buffer frame other := by
  funext index
  simp only [mixFrame]
  split
  next inside => rw [same _ (by omega)]
  next => rfl

theorem emit_mixBuf (state : InstanceState) (reads : List Nat) (sample : Nat → Int) :
    (call.emit state reads sample).mixBuf = call.mixFrame state.mixBuf state.doff sample := rfl

theorem sampleFrame_ahead (later : InstanceState) (index : Nat)
    (ahead : call.dst + (later.doff + 1) * config.dst.count ≤ index) :
    (call.sampleFrame kind later).mixBuf index = later.mixBuf index := by
  cases kind with
  | linearSampler =>
    simp only [sampleFrame]
    split
    · rw [negativeFrame, emit_mixBuf, mixFrame_ahead _ _ _ index ahead]
    · split
      · rw [pairFrame, emit_mixBuf, mixFrame_ahead _ _ _ index ahead]
      · rw [singleFrame, emit_mixBuf, mixFrame_ahead _ _ _ index ahead]
  | pointSampler =>
    simp only [sampleFrame]
    rw [singleFrame, emit_mixBuf, mixFrame_ahead _ _ _ index ahead]

theorem enter_loaded (negative : state.soff < 0) (channel : Nat)
    (inside : channel < config.dst.count) :
    (call.enter .linearSampler state).filterData (config.dst.count + channel) =
      config.read call.src (channel / config.dstPerSrc) := by
  simp only [enter]
  rw [if_pos negative]
  simp only [loadFirst]
  rw [if_pos (by omega), Nat.add_sub_cancel_left]

theorem sampleFrame_mixBuf (typed : call.Typed state) (forward : call.Forward kind state)
    {frame : Nat} (sampled : call.Sampled kind state frame) {later : InstanceState}
    (soff : later.soff = call.position state frame)
    (filterData : later.filterData = (call.enter kind state).filterData) :
    (call.sampleFrame kind later).mixBuf = call.mixFrame later.mixBuf later.doff
      (call.sampleValue kind state (call.position state frame)) := by
  cases kind with
  | linearSampler =>
    simp only [sampleFrame, soff]
    split
    next negative =>
      have before : state.soff < 0 := by
        by_contra inside
        have here := sampled.nonneg typed forward (Int.not_lt.mp inside)
        omega
      rw [negativeFrame, emit_mixBuf]
      refine mixFrame_congr _ _ fun channel inside => ?_
      simp only [sampleValue, if_pos negative, soff, filterData]
      rw [enter_loaded before channel inside, enter_filterData _ _ _ channel inside]
    next inside =>
      split
      next ahead =>
        rw [pairFrame, emit_mixBuf]
        refine mixFrame_congr _ _ fun channel _ => ?_
        simp only [sampleValue, if_neg inside, if_pos ahead, soff]
      next past =>
        rw [singleFrame, emit_mixBuf]
        refine mixFrame_congr _ _ fun channel _ => ?_
        simp only [sampleValue, if_neg inside, if_neg past, soff]
  | pointSampler =>
    simp only [sampleFrame]
    rw [singleFrame, emit_mixBuf]
    refine mixFrame_congr _ _ fun channel _ => ?_
    simp only [sampleValue, soff]

theorem Untouched.sampleFrame {later : InstanceState} (untouched : call.Untouched state later) :
    call.Untouched state (call.sampleFrame kind later) := by
  intro index beyond
  rw [(call.sampleFrame_advances kind later).1] at beyond
  rw [sampleFrame_ahead later index beyond]
  rw [Nat.succ_mul] at beyond
  exact untouched index (by omega)

theorem sampleFrame_unchanged_iff (typed : call.Typed state) (near : call.Near kind state)
    (holding : Holding config state) (scaler : call.scaleType = .ltUnity)
    (quiet : call.amplitudeScale < Gain.muteThreshold 15) {frame : Nat}
    (sampled : call.Sampled kind state frame) {later : InstanceState}
    (doff : later.doff = state.doff + frame) (soff : later.soff = call.position state frame)
    (filterData : later.filterData = (call.enter kind state).filterData)
    (untouched : call.Untouched state later) :
    call.Unchanged state (call.sampleFrame kind later) ↔
      call.Unchanged state later ∧
        ∀ channel < config.dst.count, call.Unheard kind state frame channel := by
  simp only [Unchanged]
  rw [(call.sampleFrame_advances kind later).1,
    sampleFrame_mixBuf typed near.1 sampled soff filterData,
    mixFrame_keeps_iff _ _ _ _ untouched, scaler]
  refine and_congr_right fun _ => forall_congr' fun channel => imp_congr_right fun inside => ?_
  obtain ⟨lower, upper⟩ := holding.words (call.place state frame channel)
  rw [doff]
  exact mixSample_eq_self_iff lower upper
    (sampleValue_short holding (near.2 frame sampled) inside) quiet

theorem sampled_mixBuf_iff (typed : call.Typed state) (near : call.Near kind state)
    (holding : Holding config state) (scaler : call.scaleType = .ltUnity)
    (quiet : call.amplitudeScale < Gain.muteThreshold 15) {total : Nat}
    (frames : ∀ frame, frame < total ↔ call.Sampled kind state frame) :
    ((call.sampleFrame kind)^[total] (call.enter kind state)).mixBuf = state.mixBuf ↔
      ∀ frame < total, ∀ channel < config.dst.count, call.Unheard kind state frame channel := by
  have entered : call.Typed (call.enter kind state) := typed.enter
  have start : (call.enter kind state).mixBuf = state.mixBuf := by
    cases kind with
    | linearSampler =>
      simp only [enter]
      split
      · rfl
      · rfl
    | pointSampler => rfl
  have untouched : ∀ pass ≤ total,
      call.Untouched state ((call.sampleFrame kind)^[pass] (call.enter kind state)) :=
    iterate_keeps (call.Untouched state) (fun pass _ kept => kept.sampleFrame)
      (fun index _ => congrFun start index)
  have step : ∀ pass < total,
      (call.Unchanged state
        (call.sampleFrame kind ((call.sampleFrame kind)^[pass] (call.enter kind state))) ↔
      call.Unchanged state ((call.sampleFrame kind)^[pass] (call.enter kind state)) ∧
        ∀ channel < config.dst.count, call.Unheard kind state pass channel) := by
    intro pass before
    obtain ⟨doff, soff⟩ := (call.sampleFrame_advances kind).iterate entered pass
    rw [enter_doff] at doff
    rw [position_enter] at soff
    exact sampleFrame_unchanged_iff typed near holding scaler quiet ((frames pass).mp before)
      doff soff (iterate_filterData (sampleFrame_filterData call kind) pass _)
      (untouched pass (Nat.le_of_lt before))
  have final := iterate_holds_iff (call.Unchanged state) _ step
  have first : call.Unchanged state (call.enter kind state) := fun index _ => congrFun start index
  constructor
  · intro same
    exact (final.mp fun index _ => congrFun same index).2
  · intro unheard
    have unchanged := final.mpr ⟨first, unheard⟩
    funext index
    rcases Nat.lt_or_ge index (call.dst +
        ((call.sampleFrame kind)^[total] (call.enter kind state)).doff * config.dst.count)
      with below | beyond
    · exact unchanged index below
    · exact untouched total (Nat.le_refl _) index beyond

theorem leave_mixBuf (later : InstanceState) :
    (call.leave kind later).2.mixBuf = later.mixBuf := by
  cases kind with
  | linearSampler => exact (finish_memory call later).1
  | pointSampler => rfl

theorem muted_finalFrame_mixBuf (skipped : InstanceState) :
    (call.muted.finalFrame skipped).mixBuf = skipped.mixBuf := by
  have silent : call.muted.scaleType = .muted := rfl
  by_cases hit : skipped.doff < call.muted.dstFrames ∧ skipped.soff = call.muted.send
  · rw [finalFrame, if_pos hit, if_pos silent]
  · rw [finalFrame, if_neg hit]

theorem muted_afterSkip_mixBuf (skipped : InstanceState) :
    (call.muted.afterSkip kind skipped).2.mixBuf = skipped.mixBuf := by
  cases kind with
  | linearSampler =>
    simp only [afterSkip]
    rw [(finish_memory call.muted _).1, muted_finalFrame_mixBuf]
  | pointSampler => rfl

theorem muted_mix_mixBuf (asserts : call.Asserts kind state) (buffer : Nat → Int) :
    (∃ skipped, call.muted.mix kind state = some skipped ∧ skipped.2.mixBuf = buffer) ↔
      (call.fracStepSize = 0 → ¬ call.Room (call.limit kind) state) ∧ state.mixBuf = buffer := by
  rw [muted_mix asserts]
  by_cases room : call.Room (call.limit kind) state
  · rw [if_pos room, skip]
    by_cases zero : call.fracStepSize = 0
    · rw [if_pos zero]
      simp [zero, room]
    · rw [if_neg zero]
      simp [muted_afterSkip_mixBuf, zero]
  · rw [if_neg room]
    simp [muted_afterSkip_mixBuf, room]

-- Below the threshold, the muted instance leaves the same buffer as scaling and mixing every
-- sample where it returns and no place that is mixed would change.
theorem mute_threshold_iff (bitCount : Nat) (value : Int) (scale : Nat) {config : Config}
    (call : Instance config) (kind : MixerKind) (state : InstanceState) :
    (1 ≤ bitCount → bitCount ≤ 28 → -2 ^ bitCount ≤ value → value ≤ 2 ^ bitCount - 1 →
      scale ≤ Gain.muteThreshold bitCount →
        (scaleSample .ltUnity value scale = 0 ↔ 0 ≤ value ∨ scale = 0)) ∧
      (call.Asserts kind state → call.Typed state → call.Near kind state →
        Holding config state → call.scaleType = .ltUnity →
        call.amplitudeScale < Gain.muteThreshold 15 →
          ((∃ scaled skipped, call.mix kind state = some scaled ∧
              call.muted.mix kind state = some skipped ∧
                skipped.2.mixBuf = scaled.2.mixBuf) ↔
            (call.fracStepSize = 0 → ¬ call.Room (call.limit kind) state) ∧
              ∀ frame, call.Sampled kind state frame → ∀ channel < config.dst.count,
                call.Unheard kind state frame channel)) := by
  constructor
  · intro _ high lower upper below
    exact scale_eq_zero_iff bitCount value scale high lower upper below
  · intro asserts typed near holding scaler quiet
    have audible : call.scaleType ≠ .muted := by
      rw [scaler]
      decide
    obtain ⟨total, mixed, frames⟩ := mix_sampled asserts typed audible near.1
    have buffer := sampled_mixBuf_iff typed near holding scaler quiet frames
    simp only [frames] at buffer
    rw [← buffer, @eq_comm _ _ state.mixBuf, ← muted_mix_mixBuf asserts]
    simp only [mixed, Option.some.injEq, exists_and_left, exists_eq_left', leave_mixBuf]

theorem quiet_positive_sample_unheard :
    let call : Instance ⟨.mono, .int16, .mono⟩ :=
      ⟨.ltUnity, false, 0, 1, [(9 : Int16)], 4096, 4096, 8190⟩
    let state : InstanceState := ⟨fun _ => 0, fun _ => 0, 0, 0, [], []⟩
    scaleSample .ltUnity 9 8190 = 0 ∧
      ∃ scaled skipped, call.mix .linearSampler state = some scaled ∧
        call.muted.mix .linearSampler state = some skipped ∧
          skipped.2.mixBuf = scaled.2.mixBuf := by
  intro call state
  have both := mute_threshold_iff 15 9 8190 call .linearSampler state
  refine ⟨(both.1 (by decide) (by decide) (by decide) (by decide) (by decide)).mpr
    (.inl (by decide)), ?_⟩
  have first : ∀ frame, call.Sampled .linearSampler state frame → frame = 0 := by
    intro frame sampled
    have room := sampled.1
    simp only [call, state] at room
    omega
  refine (both.2 (by unfold Asserts; decide)
    ⟨by decide, by decide, by decide, by decide⟩ ⟨?_, ?_⟩ (.cleared rfl rfl) rfl
    (by decide)).mpr ⟨by decide, ?_⟩
  · intro frame room
    simp only [call, state] at room
    omega
  · intro frame sampled
    rw [first frame sampled]
    decide
  · intro frame sampled channel inside
    have only : channel = 0 := by
      simp only [Channels.count] at inside
      omega
    rw [first frame sampled, only]
    unfold Unheard
    decide

theorem quiet_negative_sample_heard :
    (scaleSample .ltUnity (-1) 8190 = -1 ∧ 8190 ≤ Gain.muteThreshold 15) ∧
      ∃ (call : Instance ⟨.mono, .int16, .mono⟩) (state : InstanceState),
        call.Asserts .linearSampler state ∧ call.Typed state ∧ call.fracStepSize ≠ 0 ∧
          Holding ⟨.mono, .int16, .mono⟩ state ∧ call.scaleType = .ltUnity ∧
            call.amplitudeScale < Gain.muteThreshold 15 ∧
              (call.mix .linearSampler state).map (fun scaled => scaled.2.mixBuf 0) = some (-1) ∧
                (call.muted.mix .linearSampler state).map (fun skipped => skipped.2.mixBuf 0) =
                  some 0 := by
  refine ⟨by decide, ⟨.ltUnity, false, 0, 1, [(-1 : Int16)], 4096, 4096, 8190⟩,
    ⟨fun _ => 0, fun _ => 0, 0, 0, [], []⟩, by unfold Asserts; decide,
    ⟨by decide, by decide, by decide, by decide⟩, by decide,
    (.cleared rfl rfl), rfl, by decide,
    by decide +kernel, by decide +kernel⟩

end Instance

end MojoMedia.Mixers
