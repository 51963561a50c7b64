import MojoMedia.FrameworkMojo.MojoPullModeProducer

set_option autoImplicit false

namespace MojoMedia.MojoPullModeProducer

open Runs Framework

inductive Happening where
  | event (event : Event)
  | flush
  deriving Repr, DecidableEq

def happen (producer : MojoPullModeProducer) : Happening → Option MojoPullModeProducer
  | .event (.supplyPacket packet) =>
    if producer.signalled = .negative then none
    else
      let (next, demand) := producer.supplyPacket packet
      some { next with signalled := demand, supplied := producer.supplied ++ [packet] }
  | .event event => producer.step event
  | .flush => some { producer with signalled := .negative }

def IsSilent (producer : MojoPullModeProducer) : Happening → Prop
  | .flush | .event (.supplyPacket _) | .event (.pullPacket none) => False
  | .event .proceed => producer.tasks.head? = some .evaluate
  | _ => True

structure Unmoved (producer next : MojoPullModeProducer) : Prop where
  demand : next.demand = producer.demand
  cachedPacket : next.cachedPacket = producer.cachedPacket
  answers : next.answers = producer.answers
  state : next.state = producer.state ∨ next.state = .paused
  tasks : ∀ demand, producer.tasks.head? = some (.signal demand) → next.tasks = producer.tasks

variable {producer next : MojoPullModeProducer}

theorem unmoved_of_accepts (accepted : producer.accepts = true)
    (demand : next.demand = producer.demand)
    (cachedPacket : next.cachedPacket = producer.cachedPacket)
    (answers : next.answers = producer.answers)
    (state : next.state = producer.state ∨ next.state = .paused) : Unmoved producer next := by
  refine ⟨demand, cachedPacket, answers, state, ?_⟩
  intro demand signals
  simp only [accepts, Bool.and_eq_true, decide_eq_true_eq] at accepted
  rw [accepted.1] at signals
  cases signals

theorem proceed_cases (taken : producer.happen (.event .proceed) = some next) :
    (∃ demand rest, producer.tasks = .signal demand :: rest ∧
      next = { producer with signalled := demand, tasks := rest }) ∨
    (producer.tasks.head? = some .pull ∧ next = producer.pull) ∨
    (producer.IsSilent (.event .proceed) ∧ Unmoved producer next) := by
  simp only [happen, step, proceed] at taken
  split at taken
  next => cases taken
  next rest tasks =>
    cases taken
    refine .inr (.inr ⟨?_, rfl, rfl, rfl, .inl rfl, ?_⟩)
    · rw [IsSilent, tasks, List.head?_cons]
    · intro demand signals
      rw [tasks] at signals
      cases signals
  next demand rest tasks =>
    cases taken
    exact .inl ⟨demand, rest, tasks, rfl⟩
  next rest tasks =>
    cases taken
    exact .inr (.inl ⟨by rw [tasks, List.head?_cons], rfl⟩)

theorem happen_cases {happening : Happening} (taken : producer.happen happening = some next) :
    (∃ packet, happening = .event (.supplyPacket packet) ∧
      next =
        { (producer.supplyPacket packet).1 with
          signalled := (producer.supplyPacket packet).2
          supplied := producer.supplied ++ [packet] }) ∨
    ((happening = .event (.pullPacket none) ∧ producer.tasks = [] ∨
        happening = .event .proceed ∧ producer.tasks.head? = some .pull) ∧
      next = producer.pull) ∨
    (happening = .event .proceed ∧ ∃ demand rest, producer.tasks = .signal demand :: rest ∧
      next = { producer with signalled := demand, tasks := rest }) ∨
    (happening = .flush ∧ next = { producer with signalled := .negative }) ∨
    (producer.IsSilent happening ∧ Unmoved producer next) := by
  cases happening with
  | flush =>
    cases taken
    exact .inr (.inr (.inr (.inl ⟨rfl, rfl⟩)))
  | event event =>
    cases event with
    | supplyPacket packet =>
      simp only [happen] at taken
      split at taken
      · cases taken
      · cases taken
        exact .inl ⟨packet, rfl, rfl⟩
    | addBinding =>
      cases taken
      exact .inr (.inr (.inr (.inr ⟨trivial, rfl, rfl, rfl, .inl rfl, fun _ _ => rfl⟩)))
    | closeBinding =>
      simp only [happen, step] at taken
      split at taken
      · cases taken
        exact .inr (.inr (.inr (.inr ⟨trivial, rfl, rfl, rfl, .inl rfl, fun _ _ => rfl⟩)))
      · cases taken
    | getBuffer =>
      simp only [happen, step] at taken
      split at taken
      next accepted =>
        cases taken
        refine .inr (.inr (.inr (.inr ⟨trivial, unmoved_of_accepts accepted rfl rfl rfl ?_⟩)))
        unfold MojoPullModeProducer.getBuffer
        split
        · exact .inr rfl
        · exact .inl rfl
      next => cases taken
    | pullPacket toRelease =>
      simp only [happen, step] at taken
      split at taken
      next accepted =>
        cases taken
        cases toRelease with
        | none =>
          simp only [accepts, Bool.and_eq_true, decide_eq_true_eq] at accepted
          exact .inr (.inl ⟨.inl ⟨rfl, accepted.1⟩, rfl⟩)
        | some packet =>
          exact .inr (.inr (.inr (.inr
            ⟨trivial, unmoved_of_accepts accepted rfl rfl rfl (.inl rfl)⟩)))
      next => cases taken
    | releasePacket toRelease =>
      simp only [happen, step] at taken
      split at taken
      next accepted =>
        cases taken
        exact .inr (.inr (.inr (.inr
          ⟨trivial, unmoved_of_accepts accepted rfl rfl rfl (.inl rfl)⟩)))
      next => cases taken
    | proceed =>
      rcases proceed_cases taken with ⟨signals, tasks⟩ | ⟨pulls, rfl⟩ | silent
      · exact .inr (.inr (.inl ⟨rfl, signals, tasks⟩))
      · exact .inr (.inl ⟨.inr ⟨rfl, pulls⟩, rfl⟩)
      · exact .inr (.inr (.inr (.inr silent)))

def PullChecks (producer : MojoPullModeProducer) : Prop :=
  producer.state ≠ .unprepared → producer.pull.cachedPacket = none

-- What `GetBuffer`, `PullPacket` and `SupplyPacket` assert about the cached packet, the demand and
-- the state.
def Checks (producer : MojoPullModeProducer) : Happening → Prop
  | .event .getBuffer => producer.cachedPacket = none
  | .event (.pullPacket none) => producer.PullChecks
  | .event .proceed => producer.tasks.head? = some .pull → producer.PullChecks
  | .event (.supplyPacket _) =>
    producer.demand ≠ .negative ∧ producer.state ≠ .ended ∧ producer.cachedPacket = none
  | _ => True

def IsSupply : Happening → Prop
  | .event (.supplyPacket _) => True
  | _ => False

structure Unsupplied (producer : MojoPullModeProducer) : Prop where
  demand : producer.demand = .negative
  cachedPacket : producer.cachedPacket = none

theorem Unsupplied.handled {next : MojoPullModeProducer} {pull : Nat}
    (unsupplied : Unsupplied producer) (taken : producer.maybeHandlePullUnsafe pull = some next) :
    Unsupplied next := by
  rw [maybeHandlePullUnsafe, unsupplied.cachedPacket, Option.map_none] at taken
  split at taken
  · cases taken
    exact ⟨unsupplied.demand, unsupplied.cachedPacket⟩
  · cases taken

theorem Unsupplied.pull (unsupplied : Unsupplied producer) : Unsupplied producer.pull := by
  obtain ⟨demand, cached⟩ := unsupplied
  unfold MojoPullModeProducer.pull
  dsimp only
  split
  · exact ⟨demand, cached⟩
  · split
    · split
      next next taken =>
        have counted : Unsupplied { producer with pulls := producer.pulls + 1 } := ⟨demand, cached⟩
        have handled := counted.handled taken
        exact ⟨handled.demand, handled.cachedPacket⟩
      next => exact ⟨demand, cached⟩
    · exact ⟨demand, cached⟩

theorem Unsupplied.happen (unsupplied : Unsupplied producer) {happening : Happening}
    (other : ¬ IsSupply happening) (taken : producer.happen happening = some next) :
    Unsupplied next := by
  rcases happen_cases taken with ⟨packet, rfl, -⟩ | ⟨-, rfl⟩ | ⟨-, demand, rest, -, rfl⟩ |
    ⟨-, rfl⟩ | ⟨-, unmoved⟩
  · exact absurd trivial other
  · exact unsupplied.pull
  · exact ⟨unsupplied.demand, unsupplied.cachedPacket⟩
  · exact ⟨unsupplied.demand, unsupplied.cachedPacket⟩
  · exact ⟨unmoved.demand.trans unsupplied.demand,
      unmoved.cachedPacket.trans unsupplied.cachedPacket⟩

theorem Unsupplied.checks_supplied (unsupplied : Unsupplied producer) (happening : Happening) :
    producer.Checks happening ↔ ¬ IsSupply happening := by
  cases happening with
  | flush => exact iff_of_true trivial id
  | event event =>
    cases event with
    | addBinding | closeBinding | releasePacket => exact iff_of_true trivial id
    | getBuffer => exact iff_of_true unsupplied.cachedPacket id
    | pullPacket toRelease =>
      cases toRelease with
      | none => exact iff_of_true (fun _ => unsupplied.pull.cachedPacket) id
      | some packet => exact iff_of_true trivial id
    | proceed => exact iff_of_true (fun _ _ => unsupplied.pull.cachedPacket) id
    | supplyPacket packet =>
      exact iff_of_false (fun checks => checks.1 unsupplied.demand) fun other => other trivial

-- The first packet that is supplied fails the assertion about the demand, which only
-- `SupplyPacket` itself writes.
theorem checks_iff (happenings : List Happening) (final : MojoPullModeProducer)
    (reached : run happen {} happenings = some final) :
    Meets happen Checks {} happenings ↔ ∀ happening ∈ happenings, ¬ IsSupply happening := by
  have agrees := meets_congr_of_run happen Checks (fun _ happening => ¬ IsSupply happening)
    Unsupplied (fun producer happening _ unsupplied _ => unsupplied.checks_supplied happening)
    (fun producer happening _ unsupplied other taken => unsupplied.happen other taken)
    {} final happenings ⟨rfl, rfl⟩ reached
  exact agrees.trans (meets_events_iff happen _ {} final happenings reached)

theorem unsupplied_checks : Meets happen Checks {}
    [.event .addBinding, .event .addBinding, .event (.pullPacket none), .event .getBuffer,
      .event .proceed, .event (.pullPacket none)] :=
  (checks_iff _ _ rfl).mpr (by simp [IsSupply])

theorem first_packet_fails : ∃ final,
    run happen {} [.event .addBinding, .event .getBuffer, .event .proceed,
      .event (.supplyPacket { pts := 1 })] = some final ∧
    ¬ Meets happen Checks {} [.event .addBinding, .event .getBuffer, .event .proceed,
      .event (.supplyPacket { pts := 1 })] := by
  refine ⟨_, rfl, ?_⟩
  rintro ⟨-, bound⟩
  obtain ⟨-, prepared⟩ := bound _ rfl
  obtain ⟨-, asked⟩ := prepared _ rfl
  obtain ⟨supplied, -⟩ := asked _ rfl
  exact supplied.1 rfl

end MojoMedia.MojoPullModeProducer
