import MojoMedia.FrameworkFfmpeg.DemuxWorker

set_option autoImplicit false

namespace MojoMedia.FfmpegDemuxImpl

open Runs Histories Framework

open FfmpegDemux (kNotSeeking)

variable {impl next : FfmpegDemuxImpl} {event : Event}

def Holds (impl : FfmpegDemuxImpl) (seek : Nat) : Prop :=
  impl.demux.seekPosition ≠ kNotSeeking ∧ impl.seekCallback = some seek ∨
    impl.worker.callback = some seek

def NothingLost (impl : FfmpegDemuxImpl) : Prop :=
  impl.worker ≠ .failed ∧
    ∀ seek < (positions impl.history).length, .called seek ∈ impl.history ∨ impl.Holds seek

-- No seek comes while another waits for the worker, none is to the position that stands for no
-- seek, and there is a packet for every request.
def Answerable (impl : FfmpegDemuxImpl) : Event → Prop
  | .seek position => impl.demux.seekPosition = kNotSeeking ∧ position ≠ kNotSeeking
  | .pullPacket frame => HasNext impl.demux frame
  | _ => True

instance (impl : FfmpegDemuxImpl) (event : Event) : Decidable (Answerable impl event) :=
  match event with
  | .seek _ => inferInstanceAs (Decidable (_ ∧ _))
  | .pullPacket frame => inferInstanceAs (Decidable (HasNext impl.demux frame))
  | .requestPacket | .wake | .seekFrame _ | .seekCallback | .supply => .isTrue trivial

theorem holds_seek {position : Int} {seek : Nat}
    (earlier : seek < (positions impl.history).length) :
    (impl.seek position).Holds seek ↔ impl.worker.callback = some seek := by
  constructor
  · rintro (⟨-, slot⟩ | taken)
    · have latest : (positions impl.history).length = seek := Option.some.inj slot
      omega
    · exact taken
  · exact .inr

theorem holds_sought (inv : Inv impl) {position : Int} :
    (impl.seek position).Holds (positions impl.history).length ↔ position ≠ kNotSeeking := by
  constructor
  · rintro (⟨seeking, -⟩ | taken)
    · exact seeking
    · have asked := (inv.workerUncalled _ taken).asked
      omega
  · intro seeking
    exact .inl ⟨seeking, rfl⟩

theorem nothingLost_seek (inv : Inv impl) (position : Int) :
    NothingLost (impl.seek position) ↔
      NothingLost impl ∧ Answerable impl (.seek position) := by
  have length : (positions (impl.seek position).history).length =
      (positions impl.history).length + 1 := length_positions_sought impl.history position
  have called (seek : Nat) :
      .called seek ∈ (impl.seek position).history ↔ .called seek ∈ impl.history := by
    simp [FfmpegDemuxImpl.seek]
  constructor
  · rintro ⟨running, answered⟩
    have seeking : position ≠ kNotSeeking := by
      rcases answered (positions impl.history).length (by omega) with done | holds
      · have asked := inv.called _ ((called _).mp done)
        omega
      · exact (holds_sought inv).mp holds
    have free : impl.demux.seekPosition = kNotSeeking := by
      by_contra waits
      obtain ⟨seek, slot, -⟩ := inv.slot waits
      obtain ⟨uncalled, apart⟩ := inv.slotUncalled seek slot
      have asked := uncalled.asked
      rcases answered seek (by omega) with done | holds
      · exact uncalled.uncalled ((called seek).mp done)
      · exact apart ((holds_seek asked).mp holds)
    refine ⟨⟨running, fun seek asked => ?_⟩, free, seeking⟩
    rcases answered seek (by omega) with done | holds
    · exact .inl ((called seek).mp done)
    · exact .inr (.inr ((holds_seek asked).mp holds))
  · rintro ⟨⟨running, answered⟩, free, seeking⟩
    refine ⟨running, fun seek asked => ?_⟩
    rcases Nat.lt_or_eq_of_le (Nat.le_of_lt_succ (length ▸ asked)) with earlier | rfl
    · rcases answered seek earlier with done | ⟨waits, -⟩ | taken
      · exact .inl ((called seek).mpr done)
      · exact absurd free waits
      · exact .inr (.inr taken)
    · exact .inr ((holds_sought inv).mpr seeking)

theorem nothingLost_kept (moments : List Moment)
    (others : ∀ seek, .called seek ∉ moments) (length : positions moments = [])
    (grown : next.history = impl.history ++ moments)
    (worker : next.worker = .failed ↔ impl.worker = .failed)
    (held : ∀ seek, next.Holds seek ↔ impl.Holds seek) :
    NothingLost next ↔ NothingLost impl := by
  have asked : positions next.history = positions impl.history := by
    rw [grown, positions, List.filterMap_append]
    exact (congrArg (positions impl.history ++ ·) length).trans (List.append_nil _)
  have called (seek : Nat) : .called seek ∈ next.history ↔ .called seek ∈ impl.history := by
    simp [grown, others seek]
  simp only [NothingLost, asked, called, held, ne_eq, worker]

theorem holds_swap (waiting : impl.worker = .waiting) (seek : Nat) :
    impl.swap.Holds seek ↔ impl.Holds seek := by
  have idle : impl.worker.callback = none := by rw [waiting]; rfl
  by_cases seeking : impl.demux.seekPosition = kNotSeeking
  · simp [Holds, swap, seeking, callback_proceed, idle]
  · have taken : impl.swap.worker.callback = impl.seekCallback := by
      simp [swap, seeking, Worker.callback]
    have free : impl.swap.demux.seekPosition = kNotSeeking := rfl
    simp [Holds, taken, free, seeking, idle]

theorem nothingLost_swap (waiting : impl.worker = .waiting) :
    NothingLost impl.swap ↔ NothingLost impl := by
  have running : impl.swap.worker ≠ .failed := by
    by_cases seeking : impl.demux.seekPosition = kNotSeeking
    · cases pending : impl.demux.packetRequested <;> simp [swap, seeking, proceed, pending]
    · simp [swap, seeking]
  exact nothingLost_kept [] (by simp) rfl (List.append_nil _).symm
    (iff_of_false running (by simp [waiting])) (holds_swap waiting)

theorem nothingLost_call (inv : Inv impl) {packetRequested : Bool} {seekCallback : Option Nat}
    (calling : impl.worker = .calling packetRequested seekCallback) :
    NothingLost (impl.call packetRequested seekCallback) ↔ NothingLost impl := by
  obtain ⟨callee, rfl, performed⟩ := inv.calling packetRequested seekCallback calling
  have running : (impl.call packetRequested (some callee)).worker ≠ .failed := by
    cases packetRequested <;> simp [call, proceed]
  have held : impl.worker.callback = some callee := by rw [calling]; rfl
  have answered (seek : Nat) :
      (.called seek ∈ (impl.call packetRequested (some callee)).history ∨
        (impl.call packetRequested (some callee)).Holds seek) ↔
      (.called seek ∈ impl.history ∨ impl.Holds seek) := by
    simp only [call, Holds, callback_proceed, held, List.mem_append, List.mem_singleton,
      Moment.called.injEq, Option.some.injEq, reduceCtorEq, or_false]
    rw [or_assoc, or_comm (a := seek = callee), eq_comm (a := seek)]
  have asked : positions (impl.call packetRequested (some callee)).history =
      positions impl.history := by
    simp [call, positions]
  simp only [NothingLost, answered, asked]
  exact and_congr_left fun _ => iff_of_true running (by simp [calling])

theorem nothingLost_pull (inv : Inv impl) (pulling : impl.worker = .pulling)
    (frame : Option AvPacket) :
    NothingLost (impl.pullPacket frame) ↔ NothingLost impl ∧ HasNext impl.demux frame := by
  have idle : impl.demux.supplying = none := by
    have quiet : ¬ impl.demux.supplying.isSome := by simp [← inv.supplying, pulling]
    simpa using quiet
  have holds (seek : Nat) : (impl.pullPacket frame).Holds seek ↔ impl.Holds seek := by
    have before : impl.worker.callback = none := by rw [pulling]; rfl
    have after : (impl.pullPacket frame).worker.callback = none := by
      rcases pulled_worker impl frame with supplying | failed
      · rw [supplying]; rfl
      · rw [failed]; rfl
    have position : (impl.pullPacket frame).demux.seekPosition = impl.demux.seekPosition :=
      (pullPacket_asked impl.demux frame).1
    simp only [Holds, before, after, position]
    exact Iff.rfl
  have runs : (impl.pullPacket frame).worker ≠ .failed ↔ HasNext impl.demux frame := by
    rw [← pulled_iff impl.demux idle frame, pullPacket]
    dsimp only
    split
    next pulled => exact iff_of_true (by simp) pulled
    next failed => exact iff_of_false (fun runs => runs rfl) failed
  have running : impl.worker ≠ .failed := by simp [pulling]
  simp only [NothingLost, holds, runs, running, ne_eq, not_false_eq_true, true_and]
  exact and_comm

theorem nothingLost_step (inv : Inv impl) (taken : impl.step event = some next) :
    NothingLost next ↔ NothingLost impl ∧ Answerable impl event := by
  cases took_of_step taken with
  | seek position => exact nothingLost_seek inv position
  | requestPacket =>
    refine Iff.trans ?_ (and_iff_left trivial).symm
    exact nothingLost_kept _ (by simp) rfl rfl Iff.rfl fun _ => Iff.rfl
  | wake waiting asked =>
    refine Iff.trans ?_ (and_iff_left trivial).symm
    exact nothingLost_swap waiting
  | seekFrame packetRequested seekPosition seekCallback result seeking =>
    refine Iff.trans ?_ (and_iff_left trivial).symm
    refine nothingLost_kept _ (by simp) rfl rfl ?_ fun seek => ?_
    · exact iff_of_false (by simp [seekFrame]) (by simp [seeking])
    · simp [Holds, seekFrame, seeking, Worker.callback]
  | seekCallback packetRequested seekCallback calling =>
    refine Iff.trans ?_ (and_iff_left trivial).symm
    exact nothingLost_call inv calling
  | pullPacket frame pulling => exact nothingLost_pull inv pulling frame
  | supply streamIndex packet supplying pulled =>
    refine Iff.trans ?_ (and_iff_left trivial).symm
    refine nothingLost_kept _ (by simp) rfl rfl ?_ fun seek => ?_
    · exact iff_of_false (by simp [supply]) (by simp [supplying])
    · simp [Holds, supply, supplying, Worker.callback]

def Worker.rank : Worker → Nat
  | .waiting | .failed => 0
  | .supplying => 1
  | .pulling => 2
  | .calling _ _ => 3
  | .seeking _ _ _ => 4

def work (impl : FfmpegDemuxImpl) : Nat :=
  impl.worker.rank +
    if impl.demux.packetRequested ∨ impl.demux.seekPosition ≠ kNotSeeking then 5 else 0

theorem rank_le (worker : Worker) : worker.rank ≤ 4 := by
  cases worker <;> simp [Worker.rank]

theorem work_le (impl : FfmpegDemuxImpl) : impl.work ≤ 9 := by
  have turn := rank_le impl.worker
  unfold work
  split <;> omega

theorem rank_proceed (packetRequested : Bool) : (proceed packetRequested).rank ≤ 2 := by
  cases packetRequested <;> simp [proceed, Worker.rank]

theorem work_lt (turn : next.worker.rank < impl.worker.rank)
    (requested : next.demux.packetRequested = impl.demux.packetRequested)
    (position : next.demux.seekPosition = impl.demux.seekPosition) : next.work < impl.work := by
  unfold work
  rw [requested, position]
  exact Nat.add_lt_add_right turn _

theorem work_decreases (impl : FfmpegDemuxImpl) (event : Event) (next : FfmpegDemuxImpl)
    (ofWorker : event.OfWorker) (taken : impl.step event = some next) : next.work < impl.work := by
  cases took_of_step taken with
  | seek position => exact ofWorker.elim
  | requestPacket => exact ofWorker.elim
  | wake waiting asked =>
    have turn := rank_le impl.swap.worker
    have nothing : impl.swap.work = impl.swap.worker.rank := by simp [work, swap]
    have much : impl.work = 5 := by simp only [work, waiting, Worker.rank, asked, if_true]
    omega
  | seekFrame packetRequested seekPosition seekCallback result seeking =>
    refine work_lt ?_ rfl rfl
    rw [seeking]
    exact Nat.lt_succ_self 3
  | seekCallback packetRequested seekCallback calling =>
    have before : impl.worker.rank = 3 := by rw [calling]; rfl
    cases seekCallback with
    | none => exact work_lt (before ▸ Nat.zero_lt_succ 2) rfl rfl
    | some seek =>
      have after := rank_proceed packetRequested
      exact work_lt (before ▸ Nat.lt_succ_of_le after) rfl rfl
  | pullPacket frame pulling =>
    obtain ⟨position, requested⟩ := pullPacket_asked impl.demux frame
    refine work_lt ?_ requested position
    rcases pulled_worker impl frame with worker | worker <;> simp [worker, pulling, Worker.rank]
  | supply streamIndex packet supplying pulled =>
    refine work_lt ?_ rfl rfl
    rw [supplying]
    exact Nat.zero_lt_one

theorem rest_cases (inv : Inv impl) (rest : AtRest step Event.OfWorker impl) :
    impl.worker = .failed ∨ impl.worker = .waiting ∧ impl.demux.packetRequested = false ∧
      impl.demux.seekPosition = kNotSeeking := by
  have stuck (event : Event) {next : FfmpegDemuxImpl} (ofWorker : event.OfWorker)
      (took : Took impl event next) : False := by
    have none := rest event ofWorker
    rw [step_of_took took] at none
    simp at none
  cases worker : impl.worker with
  | failed => exact .inl rfl
  | waiting =>
    have nothing : ¬ (impl.demux.packetRequested ∨ impl.demux.seekPosition ≠ kNotSeeking) :=
      fun asked => stuck .wake trivial (.wake worker asked)
    simpa using nothing
  | seeking => exact (stuck (.seekFrame 0) trivial (.seekFrame _ _ _ 0 worker)).elim
  | calling => exact (stuck .seekCallback trivial (.seekCallback _ _ worker)).elim
  | pulling => exact (stuck (.pullPacket none) trivial (.pullPacket none worker)).elim
  | supplying =>
    obtain ⟨⟨streamIndex, packet⟩, pulled⟩ := Option.isSome_iff_exists.mp (inv.supplying.mp worker)
    exact (stuck .supply trivial (.supply _ _ worker pulled)).elim

theorem rest_of_idle (waiting : impl.worker = .waiting)
    (unrequested : impl.demux.packetRequested = false)
    (free : impl.demux.seekPosition = kNotSeeking) : AtRest step Event.OfWorker impl := by
  intro event ofWorker
  cases event with
  | seek | requestPacket => exact ofWorker.elim
  | wake => exact if_neg fun enabled => by simp [unrequested, free] at enabled
  | seekFrame | seekCallback | pullPacket | supply => simp [step, waiting]

def Answered (history : List Moment) : Prop :=
  (∀ seek < (positions history).length, history.count (.called seek) = 1) ∧
    supplies history = requests history

theorem answered_at_rest (inv : Inv impl) (rest : AtRest step Event.OfWorker impl) :
    Answered impl.history ↔ NothingLost impl := by
  rcases rest_cases inv rest with failed | ⟨waiting, unrequested, free⟩
  · refine iff_of_false (fun answered => ?_) fun kept => kept.1 failed
    have owed := inv.owed
    simp only [failed, Worker.owed] at owed
    have equal := answered.2
    omega
  · have owed := inv.owed
    simp only [waiting, unrequested, Worker.owed, Bool.toNat_false, Nat.add_zero] at owed
    have unheld (seek : Nat) : ¬ impl.Holds seek := by
      simp [Holds, free, waiting, Worker.callback]
    have once (seek : Nat) :
        impl.history.count (.called seek) = 1 ↔ .called seek ∈ impl.history := by
      constructor
      · intro one
        exact List.count_pos_iff.mp (by omega)
      · exact inv.owes.count_eq_one fun before owes => owes.1
    simp only [Answered, NothingLost, once, unheld, or_false, owed.symm, and_true, waiting, ne_eq,
      reduceCtorEq, not_false_eq_true, true_and]

theorem nothingLost_create (streamCount : Nat) : NothingLost (create streamCount) := by
  refine ⟨by simp [create], fun seek asked => ?_⟩
  simp [create, positions] at asked

theorem nothingLost_of_run (streamCount : Nat) (events : List Event) (final : FfmpegDemuxImpl)
    (reached : run step (create streamCount) events = some final) :
    NothingLost final ↔ Meets step Answerable (create streamCount) events := by
  have good := good_iff_of_step step Answerable Inv NothingLost
    (fun _ _ _ inv taken => inv.step taken) (fun _ _ _ inv taken => nothingLost_step inv taken)
    (create streamCount) final events (inv_create streamCount) reached
  exact good.trans (and_iff_right (nothingLost_create streamCount))

-- Whatever the calls and the worker do, a callback is called once at most and after its seek, and
-- no supply is without its request. Left alone, the worker comes to rest, and everything has been
-- answered then if and only if all that came could be answered.
theorem answered_iff (streamCount : Nat) (events : List Event) (final : FfmpegDemuxImpl)
    (reached : run step (create streamCount) events = some final) :
    Always Owes final.history ∧
      (∃ later rest, (∀ event ∈ later, event.OfWorker) ∧ run step final later = some rest ∧
        AtRest step Event.OfWorker rest) ∧
      ∀ later rest, (∀ event ∈ later, event.OfWorker) → run step final later = some rest →
        later.length ≤ 9 ∧ (AtRest step Event.OfWorker rest →
          (Answered rest.history ↔
            Meets step Answerable (create streamCount) (events ++ later))) := by
  refine ⟨(inv_of_run streamCount events final reached).owes,
    comes_to_rest step Event.OfWorker work work_decreases final, ?_⟩
  intro later rest alone continued
  have short := length_le_of_decreases step Event.OfWorker work work_decreases final rest later
    alone continued
  refine ⟨Nat.le_trans short (work_le final), fun rests => ?_⟩
  have whole : run step (create streamCount) (events ++ later) = some rest := by
    rw [run_append, reached]
    exact continued
  have inv := inv_of_run streamCount (events ++ later) rest whole
  exact (answered_at_rest inv rests).trans (nothingLost_of_run streamCount _ rest whole)

def servedCalls : List Event :=
  [.seek 7000000, .requestPacket, .wake, .seekFrame 0, .requestPacket, .seekCallback,
    .pullPacket none, .seek 3000000, .supply]

theorem served_answered : ∃ final rest, run step (create 1) servedCalls = some final ∧
    run step final [.wake, .seekFrame (-1), .seekCallback, .pullPacket none, .supply] = some rest ∧
      Answered rest.history := by
  refine ⟨_, _, rfl, rfl, ?_⟩
  have whole := answered_iff 1 servedCalls _ rfl
  refine ((whole.2.2 [.wake, .seekFrame (-1), .seekCallback, .pullPacket none, .supply] _ ?_
    rfl).2 (rest_of_idle rfl rfl rfl)).mpr (by decide)
  simp [Event.OfWorker]

theorem first_seek_lost : ∃ final,
    run step (create 1) [.seek 7000000, .seek 3000000, .wake, .seekFrame 0, .seekCallback] =
        some final ∧ AtRest step Event.OfWorker final ∧
      (positions final.history).length = 2 ∧ final.history.count (.called 0) = 0 :=
  ⟨_, rfl, rest_of_idle rfl rfl rfl, by decide, by decide⟩

-- A seek to the position that stands for no seek is dropped with the next request.
example : ∃ final, run step (create 1)
    [.seek kNotSeeking, .requestPacket, .wake, .pullPacket none, .supply] = some final ∧
      final.seekCallback = none ∧ final.history.count (.called 0) = 0 :=
  ⟨_, rfl, by decide, by decide⟩

example : ∃ final, run step (create 1) [.requestPacket, .wake, .pullPacket none, .supply,
    .requestPacket, .wake, .pullPacket none] = some final ∧ final.worker = .failed :=
  ⟨_, rfl, by decide⟩

end MojoMedia.FfmpegDemuxImpl
