import MojoMedia.Shared.Sweep
import MojoMedia.Audio.LinearSampler

set_option autoImplicit false

namespace MojoMedia.Mixers

open MachineInt Sweep

theorem interpolate_zero (a b : Int) (lower : -0x8000 ≤ a) (upper : a ≤ 0x7fff) :
    interpolate a b 0 = a := by
  have one : (fracOne : Int) = 4096 := rfl
  have product : s32 (a * 4096) = a * 4096 := s32_of_lt _ (by omega) (by omega)
  simp only [interpolate, ptsFractionalBits, one, Int.natCast_zero, Int.mul_zero, Int.sub_zero]
  rw [show s32 0 = 0 from rfl, Int.add_zero, product, product]
  omega

theorem interpolate_comm (a b : Int) (alpha beta : Nat) (total : alpha + beta = fracOne) :
    interpolate a b alpha = interpolate b a beta := by
  have first : (fracOne : Int) - alpha = beta := by omega
  have second : (fracOne : Int) - beta = alpha := by omega
  rw [interpolate, interpolate, first, second, Int.add_comm]

namespace Config

variable (config : Config)

theorem sourceIndex_of_nonneg {soff : Int} (nonneg : 0 ≤ soff) (upper : soff < 2 ^ 31) :
    config.sourceIndex soff = soff.toNat / fracOne * config.src.count := by
  have one : fracOne = 4096 := rfl
  simp only [sourceIndex, one]
  cases config.src with
  | mono =>
    simp only [Channels.count]
    omega
  | stereo =>
    simp only [Channels.count]
    omega

theorem readFrom_sourceIndex (src : config.Buffer) {soff : Int} (nonneg : 0 ≤ soff)
    (upper : soff < 2 ^ 31) (channel : Nat) :
    config.readFrom src (config.sourceIndex soff) channel =
      config.readFrame src (soff.toNat / fracOne) channel := by
  rw [config.sourceIndex_of_nonneg nonneg upper, readFrom, readFrame]

theorem readFrom_sourceIndex_next (src : config.Buffer) {soff : Int} (nonneg : 0 ≤ soff)
    (upper : soff < 2 ^ 31) (channel : Nat) :
    config.readFrom src (config.sourceIndex soff + config.src.count) channel =
      config.readFrame src (soff.toNat / fracOne + 1) channel := by
  rw [config.sourceIndex_of_nonneg nonneg upper, readFrom, readFrame, Nat.succ_mul]

end Config

theorem toNat_emod_fracOne {position : Int} (nonneg : 0 ≤ position) :
    (position % fracOne).toNat = position.toNat % fracOne := by
  have one : fracOne = 4096 := rfl
  rw [one]
  omega

-- The signal at a position relative to the start of the source. `saved` is the frame before it.
def signal (config : Config) (src : config.Buffer) (saved : Nat → Int) (position : Int)
    (channel : Nat) : Int :=
  let frame := position.toNat / fracOne
  if position < 0 then
    interpolate (config.readFrame src 0 channel) (saved channel) (-position).toNat
  else if position.toNat % fracOne = 0 then config.readFrame src frame channel
  else
    interpolate (config.readFrame src frame channel) (config.readFrame src (frame + 1) channel)
      (position.toNat % fracOne)

def MixState.cursor (state : MixState) : Cursor (Nat → Int) :=
  ⟨state.mixBuf, state.dstOffset, state.fracSrcOffset⟩

def MixState.moveTo (state : MixState) (cursor : Cursor (Nat → Int)) : MixState :=
  { state with
    mixBuf := cursor.out
    dstOffset := cursor.frame
    fracSrcOffset := cursor.position }

@[simp] theorem MixState.cursor_moveTo (state : MixState) (cursor : Cursor (Nat → Int)) :
    (state.moveTo cursor).cursor = cursor := rfl

@[simp] theorem MixState.moveTo_dstOffset (state : MixState) (cursor : Cursor (Nat → Int)) :
    (state.moveTo cursor).dstOffset = cursor.frame := rfl

@[simp] theorem MixState.moveTo_fracSrcOffset (state : MixState) (cursor : Cursor (Nat → Int)) :
    (state.moveTo cursor).fracSrcOffset = cursor.position := rfl

@[simp] theorem MixState.moveTo_sampler (state : MixState) (cursor : Cursor (Nat → Int)) :
    (state.moveTo cursor).sampler = state.sampler := rfl

@[simp] theorem MixState.moveTo_moveTo (state : MixState) (first second : Cursor (Nat → Int)) :
    (state.moveTo first).moveTo second = state.moveTo second := rfl

theorem skip_eq {step frames frame : Nat} {limit offset : Int} (positive : 0 < step)
    (before : offset < limit) (small : limit - offset + step ≤ 2 ^ 32) (lower : -2 ^ 31 ≤ offset)
    (final : offset + count step frames (limit - 1) frame offset * step < 2 ^ 31) :
    let srcAvail := u32 (u32 (u32 (limit - offset).toNat + step) + (2 ^ 32 - 1)) / step
    let avail := min srcAvail (frames - frame)
    avail = count step frames (limit - 1) frame offset ∧
      s32 (offset + (u32 (count step frames (limit - 1) frame offset * step) : Nat)) =
        offset + count step frames (limit - 1) frame offset * step := by
  have rounded : u32 (u32 (u32 (limit - offset).toNat + step) + (2 ^ 32 - 1)) =
      (limit - 1 - offset + step).toNat := by
    simp only [u32]
    omega
  have fewer : count step frames (limit - 1) frame offset * step ≤
      (limit - 1 - offset + step).toNat :=
    Nat.le_trans (Nat.mul_le_mul_right _ (Nat.min_le_left _ _)) (Nat.div_mul_le_self _ _)
  refine ⟨by rw [rounded]; rfl, ?_⟩
  generalize count step frames (limit - 1) frame offset = passed at fewer final
  rw [u32_of_lt _ (by omega), Int.natCast_mul]
  have nonneg : 0 ≤ (passed : Int) * step :=
    Int.mul_nonneg (Int.natCast_nonneg _) (Int.natCast_nonneg _)
  exact s32_of_lt _ (by omega) final

namespace MixArgs

variable {config : Config} (args : MixArgs config)

def writeValue (value : Int → Nat → Int) (frame : Nat) (position : Int) (mixBuf : Nat → Int) :
    Nat → Int :=
  if args.scaler = .muted then mixBuf else args.writeFrame mixBuf frame (value position)

def write (saved : Nat → Int) : Nat → Int → (Nat → Int) → Nat → Int :=
  args.writeValue (signal config args.src saved)

theorem writeValue_muted (value : Int → Nat → Int) (silent : args.scaler = .muted) :
    args.writeValue value = fun _ _ mixBuf => mixBuf := by
  funext frame position mixBuf
  rw [writeValue, if_pos silent]

theorem writeFrame_congr (mixBuf : Nat → Int) (frame : Nat) (sample other : Nat → Int)
    (same : ∀ channel < config.dst.count, sample channel = other channel) :
    args.writeFrame mixBuf frame sample = args.writeFrame mixBuf frame other := by
  funext index
  simp only [writeFrame]
  split
  next inside => rw [same _ (by omega)]
  next => rfl

structure Ready (state : MixState) : Prop where
  room : state.dstOffset < args.dstFrames
  whole : fracOne ∣ args.fracSrcFrames
  source : fracOne ≤ args.fracSrcFrames
  short : args.fracSrcFrames < 2 ^ 31
  positive : 0 < args.fracStepSize
  near : -(fracOne : Int) < state.fracSrcOffset
  start : state.fracSrcOffset < 2 ^ 31
  bounded : Bounded args.fracStepSize args.dstFrames (args.fracSrcFrames - fracOne) (2 ^ 31)
    state.dstOffset state.fracSrcOffset

variable {args} {state : MixState}

theorem Ready.send_eq (ready : args.Ready state) :
    args.send = (args.fracSrcFrames : Int) - fracOne := by
  have short := ready.short
  have source := ready.source
  exact s32_of_lt _ (by omega) (by omega)

theorem Ready.distance_le (ready : args.Ready state)
    (before : state.fracSrcOffset < args.send) :
    args.send - state.fracSrcOffset + args.fracStepSize ≤ 2 ^ 32 := by
  have one : fracOne = 4096 := rfl
  have send := ready.send_eq
  have near := ready.near
  have short := ready.short
  obtain ⟨frames, whole⟩ := ready.whole
  have first := ready.bounded.first ready.room (by omega)
  rw [one] at near send whole
  omega

theorem emit_eq (state : MixState) (value : Int → Nat → Int) (sample : Nat → Int)
    (audible : args.scaler ≠ .muted)
    (lower : -2 ^ 31 ≤ state.fracSrcOffset + args.fracStepSize)
    (upper : state.fracSrcOffset + args.fracStepSize < 2 ^ 31)
    (same : ∀ channel < config.dst.count,
      sample channel = value state.fracSrcOffset channel) :
    args.emit state sample =
      state.moveTo (state.cursor.advance (args.writeValue value) args.fracStepSize) := by
  have written := args.writeFrame_congr state.mixBuf state.dstOffset _ _ same
  simp only [emit, MixState.moveTo, MixState.cursor, Cursor.advance, writeValue, if_neg audible,
    written, s32_of_lt _ lower upper]

theorem negativeLoop_eq (fuel : Nat) (state : MixState) (saved : Nat → Int)
    (audible : args.scaler ≠ .muted) (enough : args.dstFrames - state.dstOffset = fuel)
    (room : state.dstOffset < args.dstFrames) (negative : state.fracSrcOffset < 0)
    (near : -(fracOne : Int) < state.fracSrcOffset)
    (bounded : Bounded args.fracStepSize args.dstFrames (-1) (2 ^ 31) state.dstOffset
      state.fracSrcOffset)
    (loaded : ∀ channel < config.dst.count,
      state.sampler.filterData (config.dst.count + channel) =
        config.readFrame args.src 0 channel)
    (kept : ∀ channel < config.dst.count, state.sampler.filterData channel = saved channel) :
    args.negativeLoop fuel state =
      state.moveTo (sweep (args.write saved) args.fracStepSize args.dstFrames (-1)
        state.cursor) := by
  induction fuel generalizing state with
  | zero => omega
  | succ fuel ih =>
    have one : (fracOne : Int) = 4096 := rfl
    have below := bounded.first room (by omega)
    have emitted := emit_eq state (signal config args.src saved) (fun channel =>
        interpolate (state.sampler.filterData (config.dst.count + channel))
          (state.sampler.filterData channel) (-state.fracSrcOffset).toNat)
      audible (by omega) below (by
        intro channel inside
        rw [signal, if_pos negative, loaded channel inside, kept channel inside])
    rw [negativeLoop, emitted, ← write,
      sweep_next _ _ _ _ state.cursor room (show state.fracSrcOffset ≤ -1 by omega)]
    generalize advanced : state.cursor.advance (args.write saved) args.fracStepSize = next
    have frame : (state.moveTo next).dstOffset = state.dstOffset + 1 := by rw [← advanced]; rfl
    have position : (state.moveTo next).fracSrcOffset =
        state.fracSrcOffset + args.fracStepSize := by rw [← advanced]; rfl
    by_cases again : (state.moveTo next).dstOffset < args.dstFrames ∧
        (state.moveTo next).fracSrcOffset < 0
    · have later : Bounded args.fracStepSize args.dstFrames (-1) (2 ^ 31)
          (state.moveTo next).dstOffset (state.moveTo next).fracSrcOffset := by
        rw [frame, position]
        exact bounded.advance
      rw [if_pos again, ih (state.moveTo next) (by omega) again.1 again.2 (by omega) later
        loaded kept]
      rfl
    · rw [if_neg again]
      rw [MixState.moveTo_dstOffset, MixState.moveTo_fracSrcOffset] at again
      rw [sweep_done _ _ _ _ _ (by omega)]

theorem mainLoop_eq (fuel : Nat) (state : MixState) (saved : Nat → Int)
    (audible : args.scaler ≠ .muted) (enough : args.dstFrames - state.dstOffset ≤ fuel)
    (inside : state.dstOffset < args.dstFrames → 0 ≤ state.fracSrcOffset)
    (bounded : Bounded args.fracStepSize args.dstFrames (args.send - 1) (2 ^ 31) state.dstOffset
      state.fracSrcOffset) :
    args.mainLoop fuel state =
      state.moveTo (sweep (args.write saved) args.fracStepSize args.dstFrames (args.send - 1)
        state.cursor) := by
  induction fuel generalizing state with
  | zero =>
    rw [sweep_done _ _ _ _ _ (by simp only [MixState.cursor]; omega)]
    rfl
  | succ fuel ih =>
    rw [mainLoop]
    by_cases go : state.dstOffset < args.dstFrames ∧ state.fracSrcOffset < args.send
    · obtain ⟨room, before⟩ := go
      have nonneg := inside room
      have below := bounded.first room (by omega)
      have emitted := emit_eq state (signal config args.src saved) (fun channel =>
          interpolate (config.readFrom args.src (config.sourceIndex state.fracSrcOffset) channel)
            (config.readFrom args.src
              (config.sourceIndex state.fracSrcOffset + config.src.count) channel)
            (state.fracSrcOffset % fracOne).toNat)
        audible (by omega) below (by
          intro channel _
          rw [signal, if_neg (by omega), config.readFrom_sourceIndex _ nonneg (by omega),
            config.readFrom_sourceIndex_next _ nonneg (by omega), toNat_emod_fracOne nonneg]
          split
          next onFrame =>
            rw [onFrame]
            obtain ⟨lower, upper⟩ := config.read_bounds args.src _
            exact interpolate_zero _ _ lower upper
          next => rfl)
      rw [if_pos ⟨room, before⟩]
      dsimp only
      rw [emitted, ← write,
        sweep_next _ _ _ _ state.cursor room (show state.fracSrcOffset ≤ args.send - 1 by omega)]
      generalize advanced : state.cursor.advance (args.write saved) args.fracStepSize = next
      have frame : next.frame = state.dstOffset + 1 := by rw [← advanced]; rfl
      have position : next.position = state.fracSrcOffset + args.fracStepSize := by
        rw [← advanced]; rfl
      rw [ih (state.moveTo next) (by rw [MixState.moveTo_dstOffset]; omega)
        (fun _ => by rw [MixState.moveTo_fracSrcOffset]; omega) ?_]
      · rfl
      · simp only [MixState.moveTo, frame, position]
        exact bounded.advance
    · rw [if_neg go, sweep_done _ _ _ _ _ (by simp only [MixState.cursor]; omega)]
      rfl

def carried (args : MixArgs config) (state : MixState) : LinearSampler :=
  if args.scaler ≠ .muted ∧ state.fracSrcOffset < 0 then args.loadFirst state.sampler
  else state.sampler

theorem carried_filterData (state : MixState) (channel : Nat)
    (inside : channel < config.dst.count) :
    (args.carried state).filterData channel = state.sampler.filterData channel := by
  unfold carried
  split
  · simp only [loadFirst]
    rw [if_neg (by omega)]
  · rfl

theorem mixBody_eq (ready : args.Ready state) (audible : args.scaler ≠ .muted) :
    args.mixBody state =
      ({ state with sampler := args.carried state }).moveTo
        (sweep (args.write state.sampler.filterData) args.fracStepSize args.dstFrames
          (args.send - 1) state.cursor) := by
  have send := ready.send_eq
  have source := ready.source
  have bounded := ready.bounded
  rw [← send] at bounded
  by_cases negative : state.fracSrcOffset < 0
  · have sampler : args.carried state = args.loadFirst state.sampler := by
      rw [carried, if_pos ⟨audible, negative⟩]
    have first := negativeLoop_eq (args.dstFrames - state.dstOffset)
      { state with sampler := args.loadFirst state.sampler } state.sampler.filterData audible rfl
      ready.room negative ready.near (bounded.mono (Nat.le_refl _) (by omega))
      (by
        intro channel inside
        simp only [loadFirst]
        rw [if_pos (by omega), Nat.add_sub_cancel_left])
      (by
        intro channel inside
        simp only [loadFirst]
        rw [if_neg (by omega)])
    rw [show ({ state with sampler := args.loadFirst state.sampler } : MixState).cursor =
      state.cursor from rfl] at first
    simp only [mixBody, if_pos negative]
    rw [first, sampler]
    have stopped := sweep_stops (args.write state.sampler.filterData) (args.fracStepSize : Int)
      args.dstFrames (-1) state.cursor
    have further := le_sweep_frame (args.write state.sampler.filterData)
      (args.fracStepSize : Int) args.dstFrames (-1) state.cursor
    obtain ⟨-, middle⟩ := bounded_sweep (args.write state.sampler.filterData)
      (args.fracStepSize : Int) args.dstFrames args.dstFrames (-1) (args.send - 1) (2 ^ 31)
      state.cursor (bounded.mono (Nat.le_refl _) (by omega)) ready.start (Nat.le_refl _) (by omega)
    have offset : state.cursor.frame = state.dstOffset := rfl
    rw [mainLoop_eq _ _ state.sampler.filterData audible
      (by rw [MixState.moveTo_dstOffset]; omega)
      (by rw [MixState.moveTo_dstOffset, MixState.moveTo_fracSrcOffset]; omega) middle,
      MixState.cursor_moveTo, MixState.moveTo_moveTo]
    rw [sweep_absorb _ _ _ _ _ _ _ (Nat.le_refl _) (by omega)]
  · have sampler : args.carried state = state.sampler := by
      rw [carried, if_neg (by simp [negative])]
    simp only [mixBody, if_neg negative, sampler]
    rw [mainLoop_eq _ state state.sampler.filterData audible (Nat.le_refl _)
      (fun _ => Int.not_lt.mp negative) (bounded.mono (Nat.le_refl _) (by omega))]

theorem skipMuted_eq (ready : args.Ready state) (silent : args.scaler = .muted) :
    args.skipMuted state =
      state.moveTo (sweep (args.write state.sampler.filterData) args.fracStepSize args.dstFrames
        (args.send - 1) state.cursor) := by
  have send := ready.send_eq
  have near := ready.near
  have one : (fracOne : Int) = 4096 := rfl
  have bounded := ready.bounded
  rw [← send] at bounded
  obtain ⟨final, -⟩ := bounded_sweep (args.write state.sampler.filterData) (args.fracStepSize : Int)
    args.dstFrames args.dstFrames (args.send - 1) args.send (2 ^ 31) state.cursor bounded
    ready.start (Nat.le_refl _) (by omega)
  rw [write, args.writeValue_muted _ silent,
    sweep_count _ _ _ _ ready.positive] at final
  rw [write, args.writeValue_muted _ silent, sweep_count _ _ _ _ ready.positive, skipMuted]
  by_cases go : state.dstOffset < args.dstFrames ∧ state.fracSrcOffset < args.send
  · obtain ⟨room, before⟩ := go
    obtain ⟨counted, moved⟩ := @skip_eq _ args.dstFrames state.dstOffset _ _ ready.positive before
      (ready.distance_le before) (by omega) final
    rw [if_pos ⟨room, before⟩]
    dsimp only
    rw [counted, moved]
    rfl
  · have none : count args.fracStepSize args.dstFrames (args.send - 1) state.dstOffset
        state.fracSrcOffset = 0 := count_done _ _ _ _ _ ready.positive (by omega)
    rw [if_neg go, MixState.cursor, none]
    simp [MixState.moveTo]

theorem produced_eq (ready : args.Ready state) :
    (if args.scaler = .muted then args.skipMuted state else args.mixBody state) =
      ({ state with sampler := args.carried state }).moveTo
        (sweep (args.write state.sampler.filterData) args.fracStepSize args.dstFrames
          (args.send - 1) state.cursor) := by
  by_cases silent : args.scaler = .muted
  · have sampler : args.carried state = state.sampler := by
      rw [carried, if_neg (by simp [silent])]
    rw [if_pos silent, skipMuted_eq ready silent, sampler]
  · rw [if_neg silent, mixBody_eq ready silent]

theorem sampleFinal_eq (state : MixState) (saved : Nat → Int) (nonneg : 0 ≤ args.send)
    (whole : args.send.toNat % fracOne = 0)
    (stopped : args.dstFrames ≤ state.dstOffset ∨ args.send - 1 < state.fracSrcOffset)
    (positive : 0 < args.fracStepSize)
    (bounded : Bounded args.fracStepSize args.dstFrames args.send (2 ^ 31) state.dstOffset
      state.fracSrcOffset) :
    args.sampleFinal state =
      state.moveTo (sweep (args.write saved) args.fracStepSize args.dstFrames args.send
        state.cursor) := by
  by_cases last : state.dstOffset < args.dstFrames ∧ state.fracSrcOffset = args.send
  · obtain ⟨room, atSend⟩ := last
    have below := bounded.first room (by omega)
    rw [sampleFinal, if_pos ⟨room, atSend⟩,
      sweep_next _ _ _ _ state.cursor room (show state.fracSrcOffset ≤ args.send by omega),
      sweep_done _ _ _ _ _ (by simp only [Cursor.advance, MixState.cursor]; omega)]
    by_cases silent : args.scaler = .muted
    · rw [if_pos silent, s32_of_lt _ (by omega) below]
      simp only [MixState.moveTo, MixState.cursor, Cursor.advance, write, writeValue,
        if_pos silent]
    · rw [if_neg silent]
      refine emit_eq state (signal config args.src saved) _ silent (by omega) below ?_
      intro channel _
      rw [signal, if_neg (by omega), if_pos (by rw [atSend]; exact whole),
        config.readFrom_sourceIndex _ (by omega) (by omega)]
  · rw [sampleFinal, if_neg last, sweep_done _ _ _ _ _ (by simp only [MixState.cursor]; omega)]
    rfl

theorem mix_spec (ready : args.Ready state) :
    let final := sweep (args.write state.sampler.filterData) args.fracStepSize args.dstFrames
      args.send state.cursor
    (args.mix state).2.cursor = final ∧
      ((args.mix state).1 = true ↔ args.send ≤ final.position ∧ final.frame < args.dstFrames) ∧
      ∀ channel < config.dst.count, (args.mix state).2.sampler.filterData channel =
        if args.send ≤ final.position then
          config.readFrame args.src (args.send.toNat / fracOne) channel
        else state.sampler.filterData channel := by
  intro final
  have send := ready.send_eq
  have source := ready.source
  have one : fracOne = 4096 := rfl
  have bounded := ready.bounded
  have nonneg : 0 ≤ args.send := by omega
  rw [← send] at bounded
  have whole : args.send.toNat % fracOne = 0 := by
    have divides := ready.whole
    rw [one] at divides ⊢
    omega
  have stopped := sweep_stops (args.write state.sampler.filterData) (args.fracStepSize : Int)
    args.dstFrames (args.send - 1) state.cursor
  obtain ⟨-, middle⟩ := bounded_sweep (args.write state.sampler.filterData)
    (args.fracStepSize : Int) args.dstFrames args.dstFrames (args.send - 1) args.send (2 ^ 31)
    state.cursor bounded ready.start (Nat.le_refl _) (by omega)
  have mixed : args.sampleFinal
      (if args.scaler = .muted then args.skipMuted state else args.mixBody state) =
      ({ state with sampler := args.carried state }).moveTo final := by
    rw [produced_eq ready, sampleFinal_eq _ state.sampler.filterData nonneg whole stopped
      ready.positive middle, MixState.cursor_moveTo, MixState.moveTo_moveTo,
      sweep_absorb _ _ _ _ _ _ _ (Nat.le_refl _) (by omega)]
  simp only [mix, mixed, MixState.moveTo_fracSrcOffset, MixState.moveTo_dstOffset,
    MixState.moveTo_sampler]
  by_cases ended : args.send ≤ final.position
  · simp only [if_pos ended]
    refine ⟨rfl, by simp [ended], ?_⟩
    intro channel inside
    simp only [saveLast, if_pos inside]
    exact config.readFrom_sourceIndex _ nonneg (s32_lt _) channel
  · simp only [if_neg ended]
    refine ⟨rfl, by simp [ended], ?_⟩
    intro channel inside
    exact carried_filterData state channel inside

end MixArgs

end MojoMedia.Mixers
