import MojoMedia.Audio.ProcessMix
import MojoMedia.Audio.SamplerInstances
import MojoMedia.Shared.Loops

set_option autoImplicit false

namespace MojoMedia.Mixers

open MachineInt Loops Audio

namespace Instance

variable {config : Config} (call : Instance config) (kind : MixerKind)

def mix (state : InstanceState) : Option (Bool × InstanceState) :=
  match kind with
  | .linearSampler => call.linearMix state
  | .pointSampler => call.pointMix state

def Asserts (state : InstanceState) : Prop :=
  match kind with
  | .linearSampler =>
    state.doff < call.dstFrames ∧ fracOne ≤ call.fracSrcFrames ∧
      call.fracSrcFrames ≤ 2 ^ 31 - 1 ∧ (0 ≤ state.soff ∨ -state.soff < fracOne)
  | .pointSampler =>
    call.fracSrcFrames ≤ 2 ^ 31 - 1 ∧ state.soff < s32 call.fracSrcFrames ∧ 0 ≤ state.soff

structure Typed (state : InstanceState) : Prop where
  frames : call.dstFrames < 2 ^ 32
  step : call.fracStepSize < 2 ^ 32
  lower : -2 ^ 31 ≤ state.soff
  upper : state.soff < 2 ^ 31

def limit : Int :=
  match kind with
  | .linearSampler => call.send
  | .pointSampler => s32 call.fracSrcFrames

def last : Int :=
  match kind with
  | .linearSampler => call.send
  | .pointSampler => s32 call.fracSrcFrames - 1

def position (state : InstanceState) (frame : Nat) : Int :=
  s32 (state.soff + frame * call.fracStepSize)

def Sampled (state : InstanceState) (frame : Nat) : Prop :=
  state.doff + frame < call.dstFrames ∧
    (∀ earlier < frame, call.position state earlier < call.limit kind) ∧
      call.position state frame ≤ call.last kind

def Forward (state : InstanceState) : Prop :=
  ∀ frame : Nat, state.doff + frame + 1 < call.dstFrames →
    (∀ earlier ≤ frame, call.position state earlier < call.limit kind) →
      0 ≤ call.position state frame → 0 ≤ call.position state (frame + 1)

def sampleFrame (state : InstanceState) : InstanceState :=
  match kind with
  | .linearSampler =>
    if state.soff < 0 then call.negativeFrame state
    else if state.soff < call.send then call.pairFrame state
    else call.singleFrame state
  | .pointSampler => call.singleFrame state

def enter (state : InstanceState) : InstanceState :=
  match kind with
  | .linearSampler => if state.soff < 0 then call.loadFirst state else state
  | .pointSampler => state

def leave (state : InstanceState) : Bool × InstanceState :=
  match kind with
  | .linearSampler => call.finish state
  | .pointSampler => (decide (s32 call.fracSrcFrames ≤ state.soff), state)

def Advances (body : InstanceState → InstanceState) : Prop :=
  ∀ state, (body state).doff = state.doff + 1 ∧
    (body state).soff = s32 (state.soff + call.fracStepSize)

theorem negativeFrame_advances : call.Advances call.negativeFrame := fun _ => ⟨rfl, rfl⟩

theorem pairFrame_advances : call.Advances call.pairFrame := fun _ => ⟨rfl, rfl⟩

theorem singleFrame_advances : call.Advances call.singleFrame := fun _ => ⟨rfl, rfl⟩

theorem sampleFrame_advances : call.Advances (call.sampleFrame kind) := by
  intro state
  cases kind with
  | linearSampler =>
    simp only [sampleFrame]
    split
    · exact ⟨rfl, rfl⟩
    · split
      · exact ⟨rfl, rfl⟩
      · exact ⟨rfl, rfl⟩
  | pointSampler => exact ⟨rfl, rfl⟩

@[simp] theorem enter_doff (state : InstanceState) : (call.enter kind state).doff = state.doff := by
  cases kind with
  | linearSampler =>
    simp only [enter]
    split
    · rfl
    · rfl
  | pointSampler => rfl

@[simp] theorem enter_soff (state : InstanceState) : (call.enter kind state).soff = state.soff := by
  cases kind with
  | linearSampler =>
    simp only [enter]
    split
    · rfl
    · rfl
  | pointSampler => rfl

variable {call kind} {state : InstanceState}

theorem Typed.position_zero (typed : call.Typed state) : call.position state 0 = state.soff := by
  rw [position, Int.natCast_zero, Int.zero_mul, Int.add_zero]
  exact s32_of_lt _ typed.lower typed.upper

theorem position_succ (frame : Nat) :
    call.position state (frame + 1) = s32 (call.position state frame + call.fracStepSize) := by
  rw [position, position, s32_s32_add, Int.natCast_succ, Int.add_mul, Int.one_mul, Int.add_assoc]

theorem Advances.iterate {body : InstanceState → InstanceState} (advances : call.Advances body)
    (typed : call.Typed state) (frame : Nat) :
    (body^[frame] state).doff = state.doff + frame ∧
      (body^[frame] state).soff = call.position state frame := by
  induction frame with
  | zero => exact ⟨rfl, typed.position_zero.symm⟩
  | succ frame ih =>
    rw [Function.iterate_succ_apply', (advances _).1, (advances _).2, ih.1, ih.2]
    exact ⟨rfl, (position_succ frame).symm⟩

theorem Asserts.linear_send (asserts : call.Asserts .linearSampler state) :
    call.send = call.fracSrcFrames - fracOne := by
  obtain ⟨-, source, short, -⟩ := asserts
  have one : fracOne = 4096 := rfl
  exact s32_of_lt _ (by omega) (by omega)

theorem Asserts.send_nonneg (asserts : call.Asserts .linearSampler state) : 0 ≤ call.send := by
  have source := asserts.2.1
  rw [asserts.linear_send]
  omega

theorem Asserts.point_limit (asserts : call.Asserts .pointSampler state) :
    s32 call.fracSrcFrames = call.fracSrcFrames := by
  obtain ⟨short, -, -⟩ := asserts
  exact s32_of_lt _ (by omega) (by omega)

def Room (call : Instance config) (limit : Int) (state : InstanceState) : Prop :=
  state.doff < call.dstFrames ∧ state.soff < limit

instance (limit : Int) : DecidablePred (call.Room limit) :=
  fun state => inferInstanceAs (Decidable (state.doff < call.dstFrames ∧ state.soff < limit))

theorem Typed.enter (typed : call.Typed state) : call.Typed (call.enter kind state) :=
  ⟨typed.frames, typed.step, by rw [enter_soff]; exact typed.lower,
    by rw [enter_soff]; exact typed.upper⟩

@[simp] theorem position_enter (frame : Nat) :
    call.position (call.enter kind state) frame = call.position state frame := by
  rw [position, position, enter_soff]

theorem Advances.room_iff {body : InstanceState → InstanceState} (advances : call.Advances body)
    (typed : call.Typed state) (limit : Int) (frame : Nat) :
    call.Room limit (body^[frame] state) ↔
      state.doff + frame < call.dstFrames ∧ call.position state frame < limit := by
  obtain ⟨doff, soff⟩ := advances.iterate typed frame
  rw [Room, doff, soff]

theorem room_falls {body : InstanceState → InstanceState} (advances : call.Advances body)
    (limit : Int) (state : InstanceState) (room : call.Room limit state) :
    call.dstFrames - (body state).doff < call.dstFrames - state.doff := by
  have before := room.1
  rw [(advances state).1]
  omega

theorem negativeLoop_passes (room : state.doff < call.dstFrames) :
    ∃ count, Passes (call.Room 0) (call.sampleFrame .linearSampler)
      (call.enter .linearSampler state) count
      (if state.soff < 0 then call.negativeLoop (call.loadFirst state) else state) := by
  by_cases negative : state.soff < 0
  · have unfolds : ∀ state, call.negativeLoop state =
        if call.Room 0 (call.negativeFrame state) then call.negativeLoop (call.negativeFrame state)
        else call.negativeFrame state := by
      intro state
      rw [negativeLoop]
      rfl
    obtain ⟨count, ran⟩ := do_passes call.negativeLoop (fun state => call.dstFrames - state.doff)
      unfolds
      (fun state more => by
        have moved := (call.negativeFrame_advances state).1
        have before := more.1
        omega)
      (call.loadFirst state) ⟨room, negative⟩
    refine ⟨count, ?_⟩
    rw [if_pos negative, enter, if_pos negative]
    refine ran.congr fun pass before => ?_
    simp only [sampleFrame]
    rw [if_pos (ran.held pass before).2]
  · refine ⟨0, ?_⟩
    rw [if_neg negative, enter, if_neg negative]
    exact .none fun more => negative more.2

theorem pairLoop_passes (call : Instance config) (state : InstanceState) :
    ∃ count, Passes (call.Room call.send) call.pairFrame state count (call.pairLoop state) := by
  refine while_passes call.pairLoop (fun state => call.dstFrames - state.doff) ?_
    (room_falls call.pairFrame_advances call.send) state
  intro state
  rw [pairLoop]
  rfl

theorem pointLoop_passes (call : Instance config) (state : InstanceState) :
    ∃ count, Passes (call.Room (s32 call.fracSrcFrames)) call.singleFrame state count
      (call.pointLoop state) := by
  refine while_passes call.pointLoop (fun state => call.dstFrames - state.doff) ?_
    (room_falls call.singleFrame_advances _) state
  intro state
  rw [pointLoop]
  rfl

theorem position_later {middle : InstanceState} {first : Nat}
    (reached : middle.soff = call.position state first) (frame : Nat) :
    call.position middle frame = call.position state (frame + first) := by
  rw [position, reached, position, s32_s32_add, position]
  congr 1
  push_cast
  ring

theorem Typed.later (typed : call.Typed state) {middle : InstanceState} {first : Nat}
    (reached : middle.soff = call.position state first) : call.Typed middle :=
  ⟨typed.frames, typed.step, by rw [reached]; exact le_s32 _, by rw [reached]; exact s32_lt _⟩

theorem pairLoop_nonneg (typed : call.Typed state) (forward : call.Forward .linearSampler state)
    (nonneg : 0 ≤ call.send) {first more : Nat} {middle final : InstanceState}
    (entered : Passes (call.Room 0) (call.sampleFrame .linearSampler)
      (call.enter .linearSampler state) first middle)
    (ran : Passes (call.Room call.send) call.pairFrame middle more final) :
    ∀ pass < more, 0 ≤ (call.pairFrame^[pass] middle).soff := by
  obtain ⟨doff, soff⟩ :=
    (call.sampleFrame_advances .linearSampler).iterate typed.enter first
  rw [← entered.final_eq, enter_doff] at doff
  rw [← entered.final_eq, position_enter] at soff
  have later := typed.later soff
  have inside : ∀ pass < more, middle.doff + pass < call.dstFrames ∧
      call.position state (pass + first) < call.send := by
    intro pass before
    rw [← position_later soff, ← call.pairFrame_advances.room_iff later]
    exact ran.held pass before
  intro pass before
  rw [(call.pairFrame_advances.iterate later pass).2, position_later soff]
  induction pass with
  | zero =>
    have past := entered.stopped
    rw [← entered.final_eq, Room, soff] at past
    rw [Nat.zero_add]
    have room := (inside 0 before).1
    omega
  | succ pass ih =>
    have room := (inside (pass + 1) before).1
    rw [Nat.add_right_comm]
    refine forward (pass + first) (by omega) ?_ (ih (by omega))
    intro earlier soon
    by_cases early : earlier < first
    · have held := entered.held earlier early
      rw [(call.sampleFrame_advances .linearSampler).room_iff typed.enter, position_enter] at held
      exact Int.lt_of_lt_of_le held.2 nonneg
    · obtain ⟨further, rfl⟩ := Nat.exists_eq_add_of_le' (Nat.not_lt.mp early)
      exact (inside further (by omega)).2

theorem linearBody_passes (asserts : call.Asserts .linearSampler state)
    (typed : call.Typed state) (forward : call.Forward .linearSampler state) :
    ∃ count, Passes (call.Room call.send) (call.sampleFrame .linearSampler)
      (call.enter .linearSampler state) count (call.linearBody state) := by
  have nonneg := asserts.send_nonneg
  obtain ⟨first, entered⟩ := negativeLoop_passes asserts.1
  obtain ⟨more, ran⟩ := pairLoop_passes call
    (if state.soff < 0 then call.negativeLoop (call.loadFirst state) else state)
  have positions := pairLoop_nonneg typed forward nonneg entered ran
  refine ⟨more + first, entered.append (ran.congr fun pass before => ?_) fun state early => ?_⟩
  · simp only [sampleFrame]
    rw [if_neg (Int.not_lt.mpr (positions pass before)), if_pos (ran.held pass before).2]
  · exact ⟨early.1, Int.lt_of_lt_of_le early.2 nonneg⟩

theorem le_position (frame : Nat) : -2 ^ 31 ≤ call.position state frame := le_s32 _

theorem sampled_iff_lt {count : Nat}
    (held : ∀ frame, frame < count ↔ ∀ earlier ≤ frame,
      state.doff + earlier < call.dstFrames ∧ call.position state earlier < call.send)
    (frame : Nat) :
    call.Sampled .linearSampler state frame ↔
      frame < count ∨ frame = count ∧ state.doff + count < call.dstFrames ∧
        call.position state count = call.send := by
  constructor
  · rintro ⟨room, inside, reaches⟩
    simp only [limit, last] at inside reaches
    rcases Nat.lt_trichotomy frame count with before | rfl | past
    · exact .inl before
    · refine .inr ⟨rfl, room, ?_⟩
      by_contra missed
      refine absurd ((held frame).mpr fun earlier soon => ?_) (Nat.lt_irrefl _)
      rcases Nat.eq_or_lt_of_le soon with rfl | sooner
      · omega
      · have before := inside earlier sooner
        omega
    · refine absurd ((held count).mpr fun earlier soon => ?_) (Nat.lt_irrefl _)
      have before := inside earlier (by omega)
      omega
  · rintro (before | ⟨rfl, room, hit⟩)
    · have here := (held frame).mp before
      refine ⟨(here frame (Nat.le_refl _)).1, fun earlier soon => (here earlier (by omega)).2, ?_⟩
      exact Int.le_of_lt (here frame (Nat.le_refl _)).2
    · refine ⟨room, fun earlier soon => ?_, Int.le_of_eq hit⟩
      exact ((held earlier).mp soon earlier (Nat.le_refl _)).2

theorem finalFrame_sampled (typed : call.Typed state) (audible : call.scaleType ≠ .muted)
    (nonneg : 0 ≤ call.send) {count : Nat} {produced : InstanceState}
    (ran : Passes (call.Room call.send) (call.sampleFrame .linearSampler)
      (call.enter .linearSampler state) count produced) :
    ∃ total, call.finalFrame produced =
        (call.sampleFrame .linearSampler)^[total] (call.enter .linearSampler state) ∧
      ∀ frame, frame < total ↔ call.Sampled .linearSampler state frame := by
  obtain ⟨doff, soff⟩ :=
    (call.sampleFrame_advances .linearSampler).iterate typed.enter count
  rw [← ran.final_eq, enter_doff] at doff
  rw [← ran.final_eq, position_enter] at soff
  have held := fun frame => ran.lt_count_iff frame
  simp only [(call.sampleFrame_advances .linearSampler).room_iff typed.enter, position_enter,
    enter_doff] at held
  by_cases hit : produced.doff < call.dstFrames ∧ produced.soff = call.send
  · refine ⟨count + 1, ?_, ?_⟩
    · rw [finalFrame, if_pos hit, if_neg audible, Function.iterate_succ_apply', ← ran.final_eq]
      simp only [sampleFrame]
      rw [if_neg (by omega), if_neg (by omega)]
    · intro frame
      rw [sampled_iff_lt held]
      omega
  · refine ⟨count, ?_, ?_⟩
    · rw [finalFrame, if_neg hit, ran.final_eq]
    · intro frame
      rw [sampled_iff_lt held]
      omega

theorem point_sampled_iff (frame : Nat) :
    call.Sampled .pointSampler state frame ↔ ∀ earlier ≤ frame,
      state.doff + earlier < call.dstFrames ∧
        call.position state earlier < s32 call.fracSrcFrames := by
  simp only [Sampled, limit, last]
  constructor
  · rintro ⟨room, inside, reaches⟩ earlier soon
    rcases Nat.eq_or_lt_of_le soon with rfl | sooner
    · omega
    · exact ⟨by omega, inside earlier sooner⟩
  · intro held
    obtain ⟨room, before⟩ := held frame (Nat.le_refl _)
    exact ⟨room, fun earlier soon => (held earlier (Nat.le_of_lt soon)).2, by omega⟩

theorem pointLoop_sampled (typed : call.Typed state) :
    ∃ total, call.pointLoop state =
        (call.sampleFrame .pointSampler)^[total] (call.enter .pointSampler state) ∧
      ∀ frame, frame < total ↔ call.Sampled .pointSampler state frame := by
  obtain ⟨total, ran⟩ := pointLoop_passes call state
  refine ⟨total, ran.final_eq, fun frame => ?_⟩
  rw [ran.lt_count_iff, point_sampled_iff]
  simp only [call.singleFrame_advances.room_iff typed]

theorem le_last {position : Int} (before : position < call.limit kind) :
    position ≤ call.last kind := by
  cases kind with
  | linearSampler => exact Int.le_of_lt before
  | pointSampler => exact Int.le_sub_one_of_lt before

theorem Sampled.nonneg (typed : call.Typed state) (forward : call.Forward kind state)
    (start : 0 ≤ state.soff) {frame : Nat} (sampled : call.Sampled kind state frame) :
    0 ≤ call.position state frame := by
  induction frame with
  | zero =>
    rw [typed.position_zero]
    exact start
  | succ frame ih =>
    obtain ⟨room, inside, -⟩ := sampled
    refine forward frame room (fun earlier soon => inside earlier (by omega)) (ih ?_)
    exact ⟨by omega, fun earlier soon => inside earlier (by omega),
      le_last (inside frame (Nat.lt_succ_self _))⟩

theorem mix_sampled (asserts : call.Asserts kind state) (typed : call.Typed state)
    (audible : call.scaleType ≠ .muted) (forward : call.Forward kind state) :
    ∃ total, call.mix kind state =
        some (call.leave kind ((call.sampleFrame kind)^[total] (call.enter kind state))) ∧
      ∀ frame, frame < total ↔ call.Sampled kind state frame := by
  cases kind with
  | linearSampler =>
    obtain ⟨count, ran⟩ := linearBody_passes asserts typed forward
    obtain ⟨total, sampled, frames⟩ := finalFrame_sampled typed audible asserts.send_nonneg ran
    refine ⟨total, ?_, frames⟩
    rw [← sampled]
    simp only [mix, linearMix, if_neg audible, Option.map_some, leave]
  | pointSampler =>
    obtain ⟨total, sampled, frames⟩ := pointLoop_sampled typed
    refine ⟨total, ?_, frames⟩
    rw [← sampled]
    simp only [mix, pointMix, if_neg audible, Option.map_some, leave]

end Instance

end MojoMedia.Mixers
