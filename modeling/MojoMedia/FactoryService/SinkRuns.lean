import MojoMedia.FactoryService.SinkTimeline

set_option autoImplicit false

namespace MojoMedia

open MachineInt

def initialTransform : LinearTransform := { scale := .reduced 0 1 }

-- Where the transform of a sink can be, with a clock at `now`.
structure FrameRate.Placed (frameRate : FrameRate) (now : Int64) (rate : SinkRate)
    (transform : LinearTransform) : Prop where
  scale : transform.scale = frameRate.scale rate
  started : transform.aZero.toInt ≤ now.toInt + 30000000
  reach : frameRate.InReach transform.aZero.toInt transform.bZero.toInt
  positive : 0 ≤ transform.aZero.toInt

structure SinkSeam.Smooth (seam : SinkSeam) : Prop where
  noEarlier : seam.before.aZero.toInt ≤ seam.after.aZero.toInt
  starts : ∀ pts, seam.startPts = some pts → seam.after.bZero = pts
  continues : seam.startPts = none →
    seam.after.bZero.toInt = seam.before.forwardExact seam.after.aZero

namespace MediaSink

structure Sound (sink : MediaSink) (now : Int64) : Prop where
  passed : sink.failed = false
  waiting : sink.ready = false → sink.frameRate = none ∧ sink.producerState.isPrepared = false ∧
    sink.firstPts = kUnknownPts ∧ sink.rate = .stopped
  absent : sink.frameRate = none →
    sink.transform = initialTransform ∧ sink.statusTransform = none
  placed : ∀ frameRate, sink.frameRate = some frameRate →
    frameRate.Placed now sink.rate sink.transform
  packets : ∀ frameRate, sink.frameRate = some frameRate →
    sink.firstPts ≠ kUnknownPts → frameRate.InReach 0 sink.firstPts.toInt
  reported : ∀ quad, sink.statusTransform = some quad →
    ∃ frameRate, sink.frameRate = some frameRate ∧
      quad = frameRate.reported sink.rate sink.transform.aZero sink.transform.bZero
  shown : sink.rate = .normal → ∀ frameRate, sink.frameRate = some frameRate →
    sink.statusTransform.isSome
  unplayed : sink.producerState ≠ .playing

structure Follows (sink : MediaSink) (now : Int64) (moved : MediaSink × Option TimelineQuad) :
    Prop where
  sound : moved.1.Sound now
  same : moved.2 = none → moved.1.transform = sink.transform
  told : ∀ quad, moved.2 = some quad → quad.targetDelta ≠ 0 ∧
    quad.transform = moved.1.transform ∧
    SinkSeam.Smooth
      { before := sink.transform, after := moved.1.transform, startPts := sink.startPts }

end MediaSink

namespace FrameRate

variable {frameRate : FrameRate}

theorem InReach.later {earlier later frames : Int} (reach : frameRate.InReach earlier frames)
    (order : earlier ≤ later) : frameRate.InReach later frames := by
  have wider : (frameRate.frames : Int) * (2 ^ 61 + earlier) ≤
      frameRate.frames * (2 ^ 61 + later) :=
    Int.mul_le_mul_of_nonneg_left (by omega) frameRate.frames_pos.le
  exact ⟨reach.1, reach.2.trans wider⟩

theorem Placed.forward_reach {now time : Int64} {rate : SinkRate} {transform : LinearTransform}
    (placed : frameRate.Placed now rate transform) (order : transform.aZero.toInt ≤ time.toInt) :
    frameRate.InReach time.toInt (transform.forwardExact time) := by
  unfold LinearTransform.forwardExact
  rw [placed.scale]
  obtain ⟨low, high⟩ := placed.reach
  cases rate with
  | stopped =>
    rw [scale_stopped]
    simpa using placed.reach.later order
  | normal =>
    rw [frames_eq]
    have positive := frameRate.frames_pos
    have elapsed : 0 ≤ (time.toInt - transform.aZero.toInt) * frameRate.frames :=
      Int.mul_nonneg (by omega) positive.le
    have rounded := Int.mul_ediv_self_le
      (x := (time.toInt - transform.aZero.toInt) * frameRate.frames) (k := 10 ^ 9) (by decide)
    have forward : 0 ≤ (time.toInt - transform.aZero.toInt) * frameRate.frames / 10 ^ 9 :=
      Int.ediv_nonneg elapsed (by decide)
    constructor <;> linarith

theorem Placed.forward {now time : Int64} {rate : SinkRate} {transform : LinearTransform}
    (placed : frameRate.Placed now rate transform) (order : transform.aZero.toInt ≤ time.toInt)
    (soon : time.toInt ≤ lastStart) :
    transform.doForwardTransform time = some (.ofInt (transform.forwardExact time)) ∧
      inS64 (transform.forwardExact time) := by
  have inside : inS64 (transform.forwardExact time) := by
    obtain ⟨low, high⟩ := (placed.forward_reach order).bounds frameRate soon
    unfold inS64
    omega
  have valid : transform.scale.denominator ≠ 0 := by
    rw [placed.scale]
    exact frameRate.scale_denominator rate
  have start := placed.reach.bounds frameRate (by omega)
  refine ⟨?_, inside⟩
  rw [LinearTransform.forward_eq _ _ valid, LinearTransform.answer, if_pos]
  refine ⟨inside, ?_⟩
  unfold LinearTransform.forwardTurnedDown turnedDown
  omega

end FrameRate

namespace MediaSink

variable {sink : MediaSink} {now : Int64}

theorem startLocalTime_toInt (clock : 0 ≤ now.toInt ∧ now.toInt ≤ 2 ^ 61) :
    (startLocalTime now).toInt = now.toInt + 30000000 := by
  have delay : (30000000 : Int64).toInt = 30000000 := by decide
  rw [startLocalTime, Int64.toInt_add, delay]
  exact s64_of_lt _ (by omega) (by omega)

theorem startMediaTime_reach (sound : sink.Sound now) {frameRate : FrameRate}
    (rated : sink.frameRate = some frameRate) (clock : 0 ≤ now.toInt ∧ now.toInt ≤ 2 ^ 61) :
    ∃ referenceOffset, sink.startMediaTime (startLocalTime now) = some referenceOffset ∧
      frameRate.InReach (startLocalTime now).toInt referenceOffset.toInt ∧
      (∀ pts, sink.startPts = some pts → referenceOffset = pts) ∧
      (sink.startPts = none →
        referenceOffset.toInt = sink.transform.forwardExact (startLocalTime now)) := by
  have start := startLocalTime_toInt clock
  have placed := sound.placed frameRate rated
  cases starts : sink.startPts with
  | some pts =>
    have known : sink.firstPts ≠ kUnknownPts ∧ sink.firstPts = pts := by
      unfold startPts at starts
      split at starts
      next fresh => exact ⟨fresh.2, Option.some.inj starts⟩
      next => cases starts
    have reach := sound.packets frameRate rated known.1
    rw [known.2] at reach
    refine ⟨pts, by rw [startMediaTime, starts], reach.later (by omega), ?_, nofun⟩
    intro other same
    exact Option.some.inj same
  | none =>
    have order : sink.transform.aZero.toInt ≤ (startLocalTime now).toInt := by
      have started := placed.started
      omega
    have soon : (startLocalTime now).toInt ≤ FrameRate.lastStart := by
      unfold FrameRate.lastStart
      omega
    obtain ⟨given, inside⟩ := placed.forward order soon
    refine ⟨.ofInt (sink.transform.forwardExact (startLocalTime now)),
      by rw [startMediaTime, starts, given], ?_, nofun, fun _ => toInt_ofInt _ inside⟩
    rw [toInt_ofInt _ inside]
    exact placed.forward_reach order

theorem setRate_follows (sound : sink.Sound now) {frameRate : FrameRate}
    (rated : sink.frameRate = some frameRate) (clock : 0 ≤ now.toInt ∧ now.toInt ≤ 2 ^ 61) :
    sink.Follows now (sink.setRate frameRate now) := by
  have start := startLocalTime_toInt clock
  have placed := sound.placed frameRate rated
  have soon : (startLocalTime now).toInt ≤ FrameRate.lastStart := by
    unfold FrameRate.lastStart
    omega
  obtain ⟨referenceOffset, media, reach, starts, continues⟩ :=
    startMediaTime_reach sound rated clock
  have status := @frameRate.presentationQuad_quad sink.targetRate _ (startLocalTime now) _ reach soon
  have exact := frameRate.framesPerTick_exact sink.targetRate
  have normal : (framesPerTick frameRate.framesPerSecond).2 = true :=
    frameRate.framesPerTick_exact .normal
  have moved : sink.setRate frameRate now =
      ({ sink with
          flushed := false
          transform :=
            { scale := frameRate.scale sink.targetRate
              aZero := startLocalTime now
              bZero := referenceOffset }
          statusTransform :=
            some (frameRate.reported sink.targetRate (startLocalTime now) referenceOffset)
          rate := sink.targetRate
          failed := false },
        some (frameRate.quad sink.targetRate (startLocalTime now) referenceOffset)) := by
    unfold FrameRate.quad FrameRate.scale at status
    simp only [setRate, media, status, exact, normal, sound.passed]
    rfl
  rw [moved]
  constructor
  case sound =>
    refine
      { sound with
        passed := rfl
        absent := ?_
        placed := ?_
        reported := ?_
        waiting := ?_
        shown := ?_ }
    · intro unready
      cases rated.symm.trans (sound.waiting unready).1
    · intro none
      cases rated.symm.trans none
    · intro other same
      obtain rfl := Option.some.inj (rated.symm.trans same)
      have positive : 0 ≤ (startLocalTime now).toInt := by omega
      exact ⟨rfl, start.le, reach, positive⟩
    · intro quad same
      obtain rfl := Option.some.inj same
      exact ⟨frameRate, rated, rfl⟩
    · exact fun _ _ _ => rfl
  case same => nofun
  case told =>
    intro quad same
    obtain rfl := Option.some.inj same
    refine ⟨frameRate.scale_denominator sink.targetRate, frameRate.quad_transform _ _ _, ?_⟩
    refine ⟨?_, starts, continues⟩
    have started := placed.started
    change sink.transform.aZero.toInt ≤ (startLocalTime now).toInt
    omega

theorem Sound.stays (sound : sink.Sound now) : sink.Follows now (sink, none) :=
  ⟨sound, fun _ => rfl, nofun⟩

theorem maybeSetRate_follows (sound : sink.Sound now)
    (clock : 0 ≤ now.toInt ∧ now.toInt ≤ 2 ^ 61) :
    sink.Follows now (sink.maybeSetRate now) := by
  unfold maybeSetRate
  split
  next => exact sound.stays
  next due =>
    split
    next rated =>
      have kept : Sound { sink with rate := sink.targetRate } now := by
        refine ⟨sound.passed, ?_, sound.absent, ?_, sound.packets, ?_, ?_, sound.unplayed⟩
        · intro unready
          exact absurd (.inl (sound.waiting unready).2.1) due
        · intro frameRate same
          cases rated.symm.trans same
        · intro quad same
          cases (sound.absent rated).2.symm.trans same
        · intro _ frameRate same
          cases rated.symm.trans same
      exact ⟨kept, fun _ => rfl, nofun⟩
    next frameRate rated => exact setRate_follows sound rated clock

theorem Sound.created (destination : SinkDestination) (now : Int64) :
    (MediaSink.created destination).Sound now := by
  cases destination with
  | nowhere => exact ⟨rfl, nofun, fun _ => ⟨rfl, rfl⟩, nofun, nofun, nofun, nofun, nofun⟩
  | audioServer =>
    refine ⟨rfl, ?_, fun _ => ⟨rfl, rfl⟩, nofun, nofun, nofun, nofun, nofun⟩
    exact fun _ => ⟨rfl, rfl, rfl, rfl⟩

theorem connected_follows (sound : sink.Sound now) (unready : sink.ready = false)
    (frameRate : FrameRate) (clock : 0 ≤ now.toInt ∧ now.toInt ≤ 2 ^ 61) :
    sink.Follows now (sink.connected frameRate now) := by
  obtain ⟨unrated, unprepared, unknown, stopped⟩ := sound.waiting unready
  obtain ⟨unmoved, unreported⟩ := sound.absent unrated
  have connected : Sound { sink with frameRate := some frameRate, ready := true } now := by
    refine ⟨sound.passed, nofun, nofun, ?_, ?_, ?_, ?_, sound.unplayed⟩
    · intro other same
      obtain rfl := Option.some.inj same
      change frameRate.Placed now sink.rate sink.transform
      rw [unmoved, stopped]
      have zero : initialTransform.aZero.toInt = 0 ∧ initialTransform.bZero.toInt = 0 := by
        decide
      refine ⟨frameRate.scale_stopped.symm, by omega, ?_, zero.1.ge⟩
      rw [zero.1, zero.2]
      exact frameRate.inReach_zero
    · intro other same known
      exact absurd unknown known
    · intro quad same
      cases unreported.symm.trans same
    · intro moving
      cases stopped.symm.trans moving
  obtain ⟨kept, same, told⟩ := maybeSetRate_follows connected clock
  exact ⟨kept, same, told⟩

theorem Sound.wait {time : Int64} (sound : sink.Sound now) (order : now ≤ time) :
    sink.Sound time := by
  refine { sound with placed := ?_ }
  intro frameRate rated
  have placed := sound.placed frameRate rated
  have started := placed.started
  have passed := Int64.le_iff_toInt_le.mp order
  exact { placed with started := by omega }

theorem Sound.packet (sound : sink.Sound now) (ready : sink.ready = true) (pts : Int64)
    (inReach : ∀ frameRate, sink.frameRate = some frameRate → pts ≠ kUnknownPts →
      frameRate.InReach 0 pts.toInt) : (sink.packet pts).Sound now := by
  refine { sound with waiting := ?_, packets := ?_ }
  · intro unready
    cases ready.symm.trans unready
  · intro frameRate rated known
    simp only [MediaSink.packet] at known ⊢
    split at known
    next first =>
      rw [if_pos first]
      exact inReach frameRate rated known
    next later =>
      rw [if_neg later]
      exact sound.packets frameRate rated later

theorem Sound.flush (sound : sink.Sound now) : sink.flush.Sound now := by
  refine { sound with waiting := ?_, packets := ?_ }
  · intro unready
    obtain ⟨unrated, unprepared, -, stopped⟩ := sound.waiting unready
    exact ⟨unrated, unprepared, rfl, stopped⟩
  · intro frameRate rated known
    exact absurd rfl known

theorem Sound.refused (sound : sink.Sound now) : sink.refused.Sound now := by
  refine { sound with waiting := ?_, unplayed := nofun }
  intro unready
  obtain ⟨unrated, -, unknown, stopped⟩ := sound.waiting unready
  exact ⟨unrated, rfl, unknown, stopped⟩

theorem statusChanged_follows (sound : sink.Sound now) (ready : sink.ready = true)
    {state : MediaState} (unplayed : state ≠ .playing)
    (clock : 0 ≤ now.toInt ∧ now.toInt ≤ 2 ^ 61) :
    sink.Follows now (sink.statusChanged state now) := by
  have changed : ∀ targetRate,
      Sound { sink with producerState := state, targetRate := targetRate } now := by
    intro targetRate
    refine { sound with waiting := ?_, unplayed := unplayed }
    intro unready
    cases ready.symm.trans unready
  simp only [statusChanged]
  split
  next =>
    obtain ⟨kept, same, told⟩ := maybeSetRate_follows (changed .stopped) clock
    exact ⟨kept, same, told⟩
  next => exact ⟨changed sink.targetRate, fun _ => rfl, nofun⟩

theorem setTarget_follows (sound : sink.Sound now) (targetRate : SinkRate)
    (clock : 0 ≤ now.toInt ∧ now.toInt ≤ 2 ^ 61) :
    sink.Follows now ({ sink with targetRate := targetRate }.maybeSetRate now) := by
  have changed : Sound { sink with targetRate := targetRate } now := { sound with }
  obtain ⟨kept, same, told⟩ := maybeSetRate_follows changed clock
  exact ⟨kept, same, told⟩

theorem Sound.reportedState_playing (sound : sink.Sound now)
    (playing : sink.reportedState = .playing) : sink.rate = .normal := by
  unfold reportedState at playing
  split at playing
  next moving =>
    cases rate : sink.rate with
    | stopped => exact absurd rate moving.2
    | normal => rfl
  next => exact absurd playing sound.unplayed

theorem reportedState_paused (paused : sink.reportedState = .paused) : sink.rate = .stopped := by
  unfold reportedState at paused
  split at paused
  next => cases paused
  next still =>
    cases rate : sink.rate with
    | stopped => rfl
    | normal =>
      rw [rate] at still
      exact absurd ⟨paused, by decide⟩ still

theorem Sound.reported_scale (sound : sink.Sound now) {quad : TimelineQuad}
    (told : sink.statusTransform = some quad) : quad.transform.scale = ⟨sink.rate.slope, 1⟩ := by
  obtain ⟨frameRate, -, rfl⟩ := sound.reported quad told
  rw [frameRate.reported_transform]

end MediaSink

theorem RateControl.setCurrentQuad_transform (control : RateControl) {quad : TimelineQuad}
    (valid : quad.targetDelta ≠ 0) (now : Int64) :
    (control.setCurrentQuad quad now).1.currentTransform = quad.transform := by
  rw [setCurrentQuad, if_neg valid, TimelineQuad.transform]
  split
  next => rfl
  next zero =>
    have positive := toNat_pos quad.targetDelta valid
    have none : quad.referenceDelta = 0 := not_not.mp zero
    have still : Ratio.reduced 0 quad.targetDelta = ⟨0, 1⟩ := by
      rw [Ratio.reduced, if_pos valid]
      rfl
    rw [none, still]
    rfl

namespace SinkPlayback

def history (playback : SinkPlayback) : List LinearTransform :=
  initialTransform :: playback.seams.map SinkSeam.after

structure Sound (playback : SinkPlayback) : Prop where
  sink : playback.sink.Sound playback.now
  clock : 0 ≤ playback.now.toInt ∧ playback.now.toInt ≤ 2 ^ 61
  delivered : ∃ earlier, playback.history =
    earlier ++ playback.track.currentTransform :: playback.quads.map TimelineQuad.transform
  latest : playback.history.getLast? = some playback.sink.transform
  valid : ∀ quad ∈ playback.quads, quad.targetDelta ≠ 0
  smooth : ∀ seam ∈ playback.seams, seam.Smooth

variable {playback : SinkPlayback}

theorem Sound.move (sound : playback.Sound) {moved : MediaSink × Option TimelineQuad}
    (follows : playback.sink.Follows playback.now moved) : (playback.move moved).Sound := by
  obtain ⟨earlier, delivered⟩ := sound.delivered
  unfold SinkPlayback.move
  split
  next unsent =>
    refine { sound with sink := follows.sound, latest := ?_ }
    rw [follows.same unsent]
    exact sound.latest
  next quad sent =>
    obtain ⟨valid, same, smooth⟩ := follows.told quad sent
    constructor
    case sink => exact follows.sound
    case clock => exact sound.clock
    case delivered =>
      refine ⟨earlier, ?_⟩
      unfold history at delivered ⊢
      rw [List.map_append, ← List.cons_append, delivered]
      simp [same]
    case latest =>
      unfold history
      rw [List.map_append, ← List.cons_append, List.map_singleton, List.getLast?_concat]
    case valid =>
      intro other member
      rcases List.mem_append.mp member with before | last
      · exact sound.valid other before
      · rw [List.mem_singleton.mp last]
        exact valid
    case smooth =>
      intro other member
      rcases List.mem_append.mp member with before | last
      · exact sound.smooth other before
      · rw [List.mem_singleton.mp last]
        exact smooth

theorem Sound.created (destination : SinkDestination) :
    (SinkPlayback.created destination).Sound := by
  have clock : 0 ≤ (0 : Int64).toInt ∧ (0 : Int64).toInt ≤ 2 ^ 61 := by decide
  refine ⟨.created destination 0, clock, ⟨[], rfl⟩, ?_, nofun, nofun⟩
  cases destination <;> rfl

theorem Sound.setCurrentQuad {quad : TimelineQuad} {rest : List TimelineQuad}
    (sound : playback.Sound) (sent : playback.quads = quad :: rest) :
    Sound
      { playback with
        quads := rest
        track := (playback.track.setCurrentQuad quad playback.now).1 } := by
  obtain ⟨earlier, delivered⟩ := sound.delivered
  have valid : quad.targetDelta ≠ 0 := sound.valid quad (by simp [sent])
  refine
    { sound with
      delivered := ⟨earlier ++ [playback.track.currentTransform], ?_⟩
      valid := ?_ }
  · rw [RateControl.setCurrentQuad_transform _ valid]
    change playback.history = _
    rw [delivered, sent]
    simp
  · intro other member
    exact sound.valid other (by simp [sent, member])

-- The local clock stays below 2^61 ticks, and so does each time stamp.
def InRange (playback : SinkPlayback) : Event → Prop
  | .wait time => time.toInt ≤ 2 ^ 61
  | .packet pts => ∀ frameRate ∈ playback.sink.frameRate,
    pts ≠ MediaSink.kUnknownPts → frameRate.InReach 0 pts.toInt
  | _ => True

instance (playback : SinkPlayback) : (event : Event) → Decidable (playback.InRange event)
  | .wait time => inferInstanceAs (Decidable (time.toInt ≤ 2 ^ 61))
  | .packet pts => inferInstanceAs (Decidable (∀ frameRate ∈ playback.sink.frameRate,
    pts ≠ MediaSink.kUnknownPts → frameRate.InReach 0 pts.toInt))
  | .refused | .connected _ | .play | .pause | .status _ | .flush | .setCurrentQuad =>
    inferInstanceAs (Decidable True)

theorem step_sound (playback : SinkPlayback) (event : Event) (next : SinkPlayback)
    (sound : playback.Sound) (inRange : playback.InRange event)
    (taken : playback.step event = some next) : next.Sound := by
  cases event with
  | wait time =>
    simp only [step, Option.ite_none_right_eq_some, Option.some.injEq] at taken
    obtain ⟨order, rfl⟩ := taken
    have passed := Int64.le_iff_toInt_le.mp order
    have clock : 0 ≤ time.toInt ∧ time.toInt ≤ 2 ^ 61 := ⟨sound.clock.1.trans passed, inRange⟩
    exact { sound with sink := sound.sink.wait order, clock := clock }
  | refused =>
    simp only [step, Option.ite_none_left_eq_some, Option.some.injEq] at taken
    obtain ⟨-, rfl⟩ := taken
    exact { sound with sink := sound.sink.refused }
  | connected frameRate =>
    simp only [step, Option.ite_none_left_eq_some, Option.some.injEq, not_or,
      Bool.not_eq_true] at taken
    obtain ⟨unready, rfl⟩ := taken
    exact sound.move (MediaSink.connected_follows sound.sink unready.1 frameRate sound.clock)
  | play =>
    obtain rfl := Option.some.inj taken
    exact sound.move (MediaSink.setTarget_follows sound.sink .normal sound.clock)
  | pause =>
    obtain rfl := Option.some.inj taken
    exact sound.move (MediaSink.setTarget_follows sound.sink .stopped sound.clock)
  | status state =>
    simp only [step, Option.ite_none_right_eq_some, Option.some.injEq] at taken
    obtain ⟨⟨ready, unplayed⟩, rfl⟩ := taken
    exact sound.move (MediaSink.statusChanged_follows sound.sink ready unplayed sound.clock)
  | packet pts =>
    simp only [step, Option.ite_none_right_eq_some, Option.some.injEq] at taken
    obtain ⟨ready, rfl⟩ := taken
    exact { sound with sink := sound.sink.packet ready pts inRange }
  | flush =>
    simp only [step, Option.ite_none_right_eq_some, Option.some.injEq] at taken
    obtain ⟨-, rfl⟩ := taken
    exact { sound with sink := sound.sink.flush }
  | setCurrentQuad =>
    simp only [step] at taken
    split at taken
    next => cases taken
    next quad rest sent =>
      obtain rfl := Option.some.inj taken
      exact sound.setCurrentQuad sent

-- No conversion of a running sink fails. The track goes through the transforms of the sink in
-- order, each of which goes on from the one before or starts at a packet. What is reported is at
-- no time a tick and a frame away from the frames. It moves while the state that is reported is
-- playing, and stands while it is paused.
theorem status_tells_position (destination : SinkDestination) (events : List Event)
    (final : SinkPlayback) (inRange : Runs.Meets step InRange (created destination) events)
    (reached : Runs.run step (created destination) events = some final) :
    final.sink.failed = false ∧
    (∃ earlier, final.history =
      earlier ++ final.track.currentTransform :: final.quads.map TimelineQuad.transform) ∧
    final.history.getLast? = some final.sink.transform ∧
    (∀ seam ∈ final.seams, seam.Smooth) ∧
    (∀ quad, final.sink.statusTransform = some quad →
      ∃ frameRate, final.sink.frameRate = some frameRate ∧
        ∀ time, frameRate.Within (final.sink.transform.forwardExact time)
          (quad.transform.forwardExact time)) ∧
    (final.sink.reportedState = .playing → ∀ frameRate, final.sink.frameRate = some frameRate →
      ∃ quad, final.sink.statusTransform = some quad ∧ quad.transform.scale = ⟨1, 1⟩) ∧
    (final.sink.reportedState = .paused → ∀ quad, final.sink.statusTransform = some quad →
      quad.transform.scale = ⟨0, 1⟩) := by
  have sound := Runs.invariant_of_step step InRange Sound step_sound (created destination) final
    events (.created destination) inRange reached
  refine ⟨sound.sink.passed, sound.delivered, sound.latest, sound.smooth, ?_, ?_, ?_⟩
  · intro quad told
    obtain ⟨frameRate, rated, rfl⟩ := sound.sink.reported quad told
    refine ⟨frameRate, rated, ?_⟩
    intro time
    have placed := sound.sink.placed frameRate rated
    have transform : (frameRate.quad final.sink.rate final.sink.transform.aZero
        final.sink.transform.bZero).transform = final.sink.transform := by
      rw [frameRate.quad_transform, ← placed.scale]
    have soon : final.sink.transform.aZero.toInt ≤ FrameRate.lastStart := by
      have started := placed.started
      have clock := sound.clock.2
      unfold FrameRate.lastStart
      omega
    rw [← transform]
    exact frameRate.reported_within final.sink.rate _ _ placed.reach soon time
  · intro playing frameRate rated
    have moving := sound.sink.reportedState_playing playing
    obtain ⟨quad, told⟩ := Option.isSome_iff_exists.mp (sound.sink.shown moving frameRate rated)
    refine ⟨quad, told, ?_⟩
    rw [sound.sink.reported_scale told, moving]
    rfl
  · intro paused quad told
    rw [sound.sink.reported_scale told, MediaSink.reportedState_paused paused]
    rfl

-- A playback that starts at the first packet, and is paused while the clock goes on. The track
-- has not been told of the pause.
theorem status_tells_position_paused :
    let events : List Event :=
      [.wait 1000000000, .connected ⟨44100, by decide, by decide⟩, .packet 7, .status .paused,
        .play, .setCurrentQuad, .wait 3000000000, .pause]
    ∃ final, Runs.run step (created .audioServer) events = some final ∧
      final.sink.failed = false ∧
      final.sink.statusTransform.map TimelineQuad.referenceOffset = some 2000158730 ∧
      final.track.currentTransform.scale = ⟨441, 10000000⟩ ∧
      ∀ quad, final.sink.statusTransform = some quad → quad.transform.scale = ⟨0, 1⟩ := by
  intro events
  have meets : Runs.Meets step InRange (created .audioServer) events := by decide +kernel
  have paused : ((Runs.run step (created .audioServer) events).map fun final =>
      (final.sink.reportedState, final.sink.statusTransform.map TimelineQuad.referenceOffset,
        final.track.currentTransform.scale)) =
      some (.paused, some 2000158730, ⟨441, 10000000⟩) := by decide +kernel
  obtain ⟨final, reached, values⟩ := Option.map_eq_some_iff.mp paused
  simp only [Prod.mk.injEq] at values
  obtain ⟨state, offset, scale⟩ := values
  obtain ⟨passed, -, -, -, -, -, stands⟩ :=
    status_tells_position .audioServer events final meets reached
  exact ⟨final, reached, passed, offset, scale, stands state⟩

end SinkPlayback

end MojoMedia
