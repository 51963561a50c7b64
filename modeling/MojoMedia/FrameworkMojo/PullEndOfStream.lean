import MojoMedia.Shared.Histories
import MojoMedia.FrameworkMojo.PullDemand

set_option autoImplicit false

namespace MojoMedia.MojoPullModeProducer

open Runs Histories Framework

inductive Moment where
  | pulled (pull : Nat) (answer : Option Bool)
  | supplied (answers : List Bool)
  | signalled (demand : Demand)
  | flushed
  deriving Repr, DecidableEq

def answersSince (before after : MojoPullModeProducer) : List Bool :=
  (after.answers.drop before.answers.length).map fun answer => answer.2.endOfStream

def moments (before after : MojoPullModeProducer) : Happening → List Moment
  | .flush => [.flushed]
  | .event (.supplyPacket _) => [.supplied (answersSince before after), .signalled after.signalled]
  | .event (.pullPacket none) => [.pulled before.pulls (answersSince before after).head?]
  | .event .proceed =>
    match before.tasks with
    | .pull :: _ => [.pulled before.pulls (answersSince before after).head?]
    | .signal demand :: _ => [.signalled demand]
    | _ => []
  | _ => []

structure Watched where
  producer : MojoPullModeProducer := {}
  trace : List Moment := []
  deriving Repr, DecidableEq

def Watched.step (watched : Watched) (happening : Happening) : Option Watched :=
  (watched.producer.happen happening).map fun next =>
    { producer := next, trace := watched.trace ++ moments watched.producer next happening }

def Moment.Ends : Moment → Prop
  | .pulled _ answer => answer = some true
  | .supplied answers => true ∈ answers
  | _ => False

def Moment.Flushes (moment : Moment) : Prop := moment = .flushed

def Moment.Quiet : Moment → Prop
  | .pulled _ answer => answer = some true
  | .signalled demand => demand ≠ .positive
  | _ => True

def EndKept (before : List Moment) (moment : Moment) : Prop :=
  Since Moment.Ends Moment.Flushes before → moment.Quiet

def EndCached (producer : MojoPullModeProducer) : Prop :=
  producer.state ≠ .unprepared ∧ producer.pendingPulls = [] ∧
    producer.cachedPacket.map (·.endOfStream) = some true

def EndAnswers (producer : MojoPullModeProducer) : Happening → Prop
  | .event (.supplyPacket packet) =>
    packet.endOfStream = true ∧ 0 < producer.bindings ∧ producer.pendingPulls ≠ []
  | .event (.pullPacket none) => producer.EndCached
  | .event .proceed => producer.tasks.head? = some .pull ∧ producer.EndCached
  | _ => False

variable {producer : MojoPullModeProducer}

theorem pull_running (running : producer.state ≠ .ended) : producer.pull.state ≠ .ended := by
  unfold MojoPullModeProducer.pull
  dsimp only
  split
  · exact running
  · split
    · split
      next next taken =>
        rw [maybeHandlePullUnsafe, if_neg (by exact running)] at taken
        obtain ⟨packet, -, rfl⟩ := Option.map_eq_some_iff.mp taken
        exact running
      next => exact running
    · exact running

theorem pull_cases (running : producer.state ≠ .ended) :
    (producer.pull.answers = producer.answers ∧ ¬ producer.EndCached) ∨
      ∃ packet, producer.state ≠ .unprepared ∧ producer.pendingPulls = [] ∧
        producer.cachedPacket = some packet ∧
        producer.pull.answers = producer.answers ++ [(producer.pulls, createMediaPacket packet)] ∧
        producer.pull.tasks = [.signal .positive] := by
  unfold MojoPullModeProducer.pull
  dsimp only
  split
  next early => exact .inl ⟨rfl, fun ends => ends.1 early⟩
  next prepared =>
    split
    next idle =>
      simp only [maybeHandlePullUnsafe, if_neg running]
      cases cached : producer.cachedPacket with
      | none =>
        refine .inl ⟨rfl, ?_⟩
        rintro ⟨-, -, ends⟩
        rw [cached] at ends
        cases ends
      | some packet => exact .inr ⟨packet, prepared, idle, rfl, rfl, rfl⟩
    next busy => exact .inl ⟨rfl, fun ends => busy ends.2.1⟩

theorem answersSince_same {after : MojoPullModeProducer} (same : after.answers = producer.answers) :
    answersSince producer after = [] := by
  rw [answersSince, same, List.drop_length, List.map_nil]

theorem answersSince_one {after : MojoPullModeProducer} {pull : Nat} {packet : SharedPacket}
    (one : after.answers = producer.answers ++ [(pull, createMediaPacket packet)]) :
    answersSince producer after = [packet.endOfStream] := by
  rw [answersSince, one, List.drop_left]
  rfl

theorem pull_ends_iff (running : producer.state ≠ .ended) :
    (answersSince producer producer.pull).head? = some true ↔ producer.EndCached := by
  rcases pull_cases running with ⟨same, waits⟩ | ⟨packet, prepared, idle, cached, one, -⟩
  · rw [answersSince_same same]
    exact iff_of_false (by simp) waits
  · rw [answersSince_one one, List.head?_cons, Option.some.injEq]
    constructor
    · intro ends
      exact ⟨prepared, idle, by rw [cached, Option.map_some, ends]⟩
    · rintro ⟨-, -, ends⟩
      rw [cached] at ends
      exact Option.some.inj ends

theorem pull_tasks (running : producer.state ≠ .ended) (ends : producer.EndCached) :
    producer.pull.tasks = [.signal .positive] := by
  rcases pull_cases running with ⟨-, waits⟩ | ⟨packet, -, -, -, -, tasks⟩
  · exact absurd ends waits
  · exact tasks

theorem supplyPacket_cases (running : producer.state ≠ .ended) (packet : SharedPacket) :
    ((producer.supplyPacket packet).1.answers = producer.answers ∧
        ¬ (0 < producer.bindings ∧ producer.pendingPulls ≠ [])) ∨
      ∃ pull, 0 < producer.bindings ∧ producer.pendingPulls ≠ [] ∧
        (producer.supplyPacket packet).1.answers =
          producer.answers ++ [(pull, createMediaPacket packet)] ∧
        (producer.supplyPacket packet).2 = .positive := by
  unfold MojoPullModeProducer.supplyPacket
  split
  next unbound => exact .inl ⟨rfl, fun both => Nat.ne_of_gt both.1 unbound⟩
  next bound =>
    by_cases idle : producer.pendingPulls = []
    · rw [handlePendingPullsUnsafe_idle (by exact idle)]
      exact .inl ⟨rfl, fun both => both.2 idle⟩
    · obtain ⟨pull, rest, pending⟩ := List.exists_cons_of_ne_nil idle
      rw [handlePendingPullsUnsafe_waiting (by exact running) rfl (by exact pending)]
      exact .inr ⟨pull, Nat.pos_of_ne_zero bound, idle, rfl, rfl⟩

theorem supplyPacket_tasks (running : producer.state ≠ .ended) (packet : SharedPacket) :
    (producer.supplyPacket packet).1.tasks = producer.tasks := by
  unfold MojoPullModeProducer.supplyPacket
  split
  · rfl
  · by_cases idle : producer.pendingPulls = []
    · rw [handlePendingPullsUnsafe_idle (by exact idle)]
    · obtain ⟨pull, rest, pending⟩ := List.exists_cons_of_ne_nil idle
      rw [handlePendingPullsUnsafe_waiting (by exact running) rfl (by exact pending)]
      rfl

theorem supplyPacket_running (running : producer.state ≠ .ended) (packet : SharedPacket) :
    (producer.supplyPacket packet).1.state ≠ .ended := by
  unfold MojoPullModeProducer.supplyPacket
  split
  · change MediaState.unprepared ≠ .ended
    decide
  · by_cases idle : producer.pendingPulls = []
    · rw [handlePendingPullsUnsafe_idle (by exact idle)]
      exact running
    · obtain ⟨pull, rest, pending⟩ := List.exists_cons_of_ne_nil idle
      rw [handlePendingPullsUnsafe_waiting (by exact running) rfl (by exact pending)]
      exact running

theorem happen_running (running : producer.state ≠ .ended) {happening : Happening}
    {next : MojoPullModeProducer} (taken : producer.happen happening = some next) :
    next.state ≠ .ended := by
  rcases happen_cases taken with ⟨packet, -, rfl⟩ | ⟨-, rfl⟩ | ⟨-, demand, rest, -, rfl⟩ |
    ⟨-, rfl⟩ | ⟨-, unmoved⟩
  · exact supplyPacket_running running packet
  · exact pull_running running
  · exact running
  · exact running
  · rcases unmoved.state with same | paused
    · rwa [same]
    · rw [paused]
      decide

theorem moments_silent (next : MojoPullModeProducer) {happening : Happening}
    (silent : producer.IsSilent happening) :
    moments producer next happening = [] ∧ ¬ producer.EndAnswers happening := by
  cases happening with
  | flush => exact absurd silent id
  | event event =>
    cases event with
    | addBinding | closeBinding | getBuffer | releasePacket => exact ⟨rfl, id⟩
    | pullPacket toRelease =>
      cases toRelease with
      | none => exact absurd silent id
      | some packet => exact ⟨rfl, id⟩
    | supplyPacket packet => exact absurd silent id
    | proceed =>
      change producer.tasks.head? = _ at silent
      obtain ⟨rest, tasks⟩ := List.head?_eq_some_iff.mp silent
      constructor
      · simp only [moments, tasks]
      · rintro ⟨pulls, -⟩
        rw [silent] at pulls
        cases pulls

theorem moments_supply (packet : SharedPacket) :
    moments producer
        { (producer.supplyPacket packet).1 with
          signalled := (producer.supplyPacket packet).2
          supplied := producer.supplied ++ [packet] }
        (.event (.supplyPacket packet)) =
      [.supplied (answersSince producer (producer.supplyPacket packet).1),
        .signalled (producer.supplyPacket packet).2] := rfl

theorem append_moments_supply (trace : List Moment) (packet : SharedPacket) :
    trace ++ moments producer
        { (producer.supplyPacket packet).1 with
          signalled := (producer.supplyPacket packet).2
          supplied := producer.supplied ++ [packet] }
        (.event (.supplyPacket packet)) =
      trace ++ [.supplied (answersSince producer (producer.supplyPacket packet).1)] ++
        [.signalled (producer.supplyPacket packet).2] := List.append_cons _ _ _

theorem moments_pull (next : MojoPullModeProducer) {happening : Happening}
    (pulls : happening = .event (.pullPacket none) ∧ producer.tasks = [] ∨
      happening = .event .proceed ∧ producer.tasks.head? = some .pull) :
    moments producer next happening =
        [.pulled producer.pulls (answersSince producer next).head?] ∧
      (producer.EndAnswers happening ↔ producer.EndCached) := by
  rcases pulls with ⟨rfl, -⟩ | ⟨rfl, head⟩
  · exact ⟨rfl, Iff.rfl⟩
  · obtain ⟨rest, tasks⟩ := List.head?_eq_some_iff.mp head
    constructor
    · simp only [moments, tasks]
    · exact and_iff_right head

theorem not_ends {next : MojoPullModeProducer} {happening : Happening}
    (running : producer.state ≠ .ended) (other : ¬ producer.EndAnswers happening)
    (taken : producer.happen happening = some next) :
    ∀ moment ∈ moments producer next happening, ¬ moment.Ends := by
  rcases happen_cases taken with ⟨packet, rfl, rfl⟩ | ⟨pulls, rfl⟩ |
    ⟨rfl, demand, rest, tasks, rfl⟩ | ⟨rfl, rfl⟩ | ⟨silent, -⟩
  · rw [moments_supply]
    intro moment member
    rcases List.mem_cons.mp member with rfl | second
    · rcases supplyPacket_cases running packet with ⟨same, -⟩ | ⟨pull, bound, waiting, one, -⟩
      · rw [answersSince_same same]
        exact List.not_mem_nil
      · rw [answersSince_one one]
        intro ends
        exact other ⟨(List.mem_singleton.mp ends).symm, bound, waiting⟩
    · rw [List.mem_singleton.mp second]
      exact id
  · obtain ⟨shown, ends⟩ := moments_pull producer.pull pulls
    rw [shown]
    intro moment member
    rw [List.mem_singleton.mp member]
    intro answered
    exact other (ends.mpr ((pull_ends_iff running).mp answered))
  · simp only [moments, tasks]
    intro moment member
    rw [List.mem_singleton.mp member]
    exact id
  · intro moment member
    rw [List.mem_singleton.mp member]
    exact id
  · rw [(moments_silent _ silent).1]
    exact List.forall_mem_nil _

def Doomed (watched : Watched) : Prop :=
  ¬ Always EndKept watched.trace ∨
    Since Moment.Ends Moment.Flushes watched.trace ∧
      watched.producer.tasks = [.signal .positive]

theorem broken_of_positive {trace : List Moment}
    (ended : Since Moment.Ends Moment.Flushes trace) :
    ¬ Always EndKept (trace ++ [.signalled .positive]) := by
  intro always
  exact always trace (.signalled .positive) [] rfl ended rfl

theorem doomed_of_endAnswers {watched next : Watched} {happening : Happening}
    (running : watched.producer.state ≠ .ended) (ends : watched.producer.EndAnswers happening)
    (stepped : watched.step happening = some next) : Doomed next := by
  obtain ⟨after, taken, rfl⟩ := Option.map_eq_some_iff.mp stepped
  rcases happen_cases taken with ⟨packet, rfl, rfl⟩ | ⟨pulls, rfl⟩ | ⟨rfl, demand, rest, tasks, -⟩ |
    ⟨rfl, -⟩ | ⟨silent, -⟩
  · obtain ⟨last, bound, waiting⟩ := ends
    rcases supplyPacket_cases running packet with ⟨-, neither⟩ | ⟨pull, -, -, one, positive⟩
    · exact absurd ⟨bound, waiting⟩ neither
    · left
      rw [append_moments_supply, positive, answersSince_one one, last]
      exact broken_of_positive (since_concat.mpr (.inl (List.mem_singleton.mpr rfl)))
  · obtain ⟨shown, cached⟩ := moments_pull watched.producer.pull pulls
    have endCached := cached.mp ends
    refine .inr ⟨?_, pull_tasks running endCached⟩
    rw [shown, since_concat]
    exact .inl ((pull_ends_iff running).mpr endCached)
  · obtain ⟨pulls, -⟩ := ends
    rw [tasks] at pulls
    cases pulls
  · exact absurd ends id
  · exact absurd ends (moments_silent after silent).2

theorem Doomed.step {watched next : Watched} {happening : Happening}
    (running : watched.producer.state ≠ .ended) (doomed : Doomed watched)
    (between : happening = .flush → watched.producer.tasks = [])
    (stepped : watched.step happening = some next) : Doomed next := by
  obtain ⟨after, taken, rfl⟩ := Option.map_eq_some_iff.mp stepped
  rcases doomed with broken | ⟨ended, signals⟩
  · exact .inl fun always => broken always.of_append
  · rcases happen_cases taken with ⟨packet, rfl, rfl⟩ | ⟨pulls, -⟩ |
      ⟨rfl, demand, rest, tasks, rfl⟩ | ⟨rfl, -⟩ | ⟨silent, unmoved⟩
    · have still : Since Moment.Ends Moment.Flushes (watched.trace ++
          [.supplied (answersSince watched.producer (watched.producer.supplyPacket packet).1)]) :=
        since_concat.mpr (.inr ⟨ended, by simp [Moment.Flushes]⟩)
      by_cases positive : (watched.producer.supplyPacket packet).2 = .positive
      · left
        rw [append_moments_supply, positive]
        exact broken_of_positive still
      · right
        rw [append_moments_supply]
        exact ⟨since_concat.mpr (.inr ⟨still, by simp [Moment.Flushes]⟩),
          (supplyPacket_tasks running packet).trans signals⟩
    · rw [signals] at pulls
      simp at pulls
    · left
      rw [signals] at tasks
      cases tasks
      simp only [moments, signals]
      exact broken_of_positive ended
    · rw [between rfl] at signals
      cases signals
    · right
      rw [(moments_silent _ silent).1, List.append_nil]
      exact ⟨ended, (unmoved.tasks .positive (by rw [signals]; rfl)).trans signals⟩

def FlushedBetween (watched : Watched) (happening : Happening) : Prop :=
  happening = .flush → watched.producer.tasks = []

theorem step_running {watched next : Watched} {happening : Happening}
    (running : watched.producer.state ≠ .ended) (stepped : watched.step happening = some next) :
    next.producer.state ≠ .ended := by
  obtain ⟨after, taken, rfl⟩ := Option.map_eq_some_iff.mp stepped
  exact happen_running running taken

theorem doomed_run {watched final : Watched} (happenings : List Happening)
    (running : watched.producer.state ≠ .ended) (doomed : Doomed watched)
    (between : Meets Watched.step FlushedBetween watched happenings)
    (reached : run Watched.step watched happenings = some final) : Doomed final := by
  have kept := invariant_of_step Watched.step FlushedBetween
    (fun watched => watched.producer.state ≠ .ended ∧ Doomed watched)
    (fun _ _ _ invariant guarded stepped =>
      ⟨step_running invariant.1 stepped, invariant.2.step invariant.1 guarded stepped⟩)
    watched final happenings ⟨running, doomed⟩ between reached
  exact kept.2

def NeverEnds (watched : Watched) (happening : Happening) : Prop :=
  ¬ watched.producer.EndAnswers happening

theorem not_ends_run {watched final : Watched} (happenings : List Happening)
    (running : watched.producer.state ≠ .ended)
    (going : ∀ moment ∈ watched.trace, ¬ moment.Ends)
    (never : Meets Watched.step NeverEnds watched happenings)
    (reached : run Watched.step watched happenings = some final) :
    ∀ moment ∈ final.trace, ¬ moment.Ends := by
  have kept := invariant_of_step Watched.step NeverEnds
    (fun watched => watched.producer.state ≠ .ended ∧ ∀ moment ∈ watched.trace, ¬ moment.Ends)
    (by
      intro before happening after invariant guarded stepped
      refine ⟨step_running invariant.1 stepped, ?_⟩
      obtain ⟨next, taken, rfl⟩ := Option.map_eq_some_iff.mp stepped
      intro moment member
      rcases List.mem_append.mp member with earlier | now
      · exact invariant.2 moment earlier
      · exact not_ends invariant.1 guarded taken moment now)
    watched final happenings ⟨running, going⟩ never reached
  exact kept.2

theorem neverEnds_of_kept {watched final : Watched} (happenings : List Happening)
    (running : watched.producer.state ≠ .ended)
    (between : Meets Watched.step FlushedBetween watched happenings)
    (reached : run Watched.step watched happenings = some final)
    (returned : final.producer.tasks = []) (kept : Always EndKept final.trace) :
    Meets Watched.step NeverEnds watched happenings := by
  induction happenings generalizing watched with
  | nil => trivial
  | cons happening rest ih =>
    obtain ⟨next, stepped, later⟩ := (run_cons Watched.step watched final happening rest).mp reached
    have onwards := step_running running stepped
    refine ⟨?_, ?_⟩
    · intro ends
      have doomed := doomed_run rest onwards (doomed_of_endAnswers running ends stepped)
        (between.2 next stepped) later
      rcases doomed with broken | ⟨-, signals⟩
      · exact broken kept
      · rw [returned] at signals
        cases signals
    · intro other also
      cases stepped.symm.trans also
      exact ih onwards (between.2 next stepped) later

-- What is promised for the time after the end holds as long as no pull is answered with the end.
-- Each call that answers a pull so breaks it, once it has returned.
theorem end_kept (happenings : List Happening) (final : Watched)
    (reached : run Watched.step {} happenings = some final) :
    (Meets Watched.step NeverEnds {} happenings → Always EndKept final.trace) ∧
      (Meets Watched.step FlushedBetween {} happenings → final.producer.tasks = [] →
        Always EndKept final.trace → Meets Watched.step NeverEnds {} happenings) := by
  constructor
  · intro never before moment after split ended
    obtain ⟨mark, member, ends⟩ := ended.marked
    have none := not_ends_run happenings (by decide) (List.forall_mem_nil _) never reached mark
      (by rw [split]; exact List.mem_append_left _ member)
    exact absurd ends none
  · intro between returned kept
    exact neverEnds_of_kept happenings (by decide) between reached returned kept

def onePull : List Happening :=
  [.event .addBinding, .event (.pullPacket none), .event .getBuffer, .event .proceed,
    .event (.supplyPacket { pts := 1 })]

theorem onePull_kept : ∃ final, run Watched.step {} onePull = some final ∧
    Always EndKept final.trace := by
  refine ⟨_, rfl, (end_kept onePull _ rfl).1 ⟨id, ?_⟩⟩
  rintro _ ⟨⟩
  refine ⟨fun cached => cached.1 rfl, ?_⟩
  rintro _ ⟨⟩
  refine ⟨id, ?_⟩
  rintro _ ⟨⟩
  refine ⟨?_, ?_⟩
  · rintro ⟨pulls, -⟩
    cases pulls
  · rintro _ ⟨⟩
    refine ⟨?_, fun _ _ => trivial⟩
    rintro ⟨last, -⟩
    cases last

def endedPull : List Happening :=
  [.event .addBinding, .event (.pullPacket none), .event .getBuffer, .event .proceed,
    .event (.supplyPacket { pts := 1, endOfStream := true }), .event (.pullPacket none),
    .event .proceed]

theorem endedPull_not_kept : ∃ final, run Watched.step {} endedPull = some final ∧
    final.producer.tasks = [] ∧
    final.trace =
      [.pulled 0 none, .signalled .positive, .supplied [true], .signalled .positive,
        .pulled 1 none, .signalled .positive] ∧
    ¬ Always EndKept final.trace := by
  refine ⟨_, rfl, rfl, rfl, ?_⟩
  intro always
  have ended : Since Moment.Ends Moment.Flushes
      [.pulled 0 none, .signalled .positive, .supplied [true]] :=
    ⟨[.pulled 0 none, .signalled .positive], .supplied [true], [], rfl,
      List.mem_singleton.mpr rfl, List.forall_mem_nil _⟩
  exact always _ (.signalled .positive) [.pulled 1 none, .signalled .positive] rfl ended rfl

end MojoMedia.MojoPullModeProducer
