import Mathlib.Data.List.Basic

set_option autoImplicit false

namespace Runs

universe u v

variable {State : Type u} {Event : Type v}

def run (step : State → Event → Option State) : State → List Event → Option State
  | state, [] => some state
  | state, event :: rest => (step state event).bind fun next => run step next rest

@[simp] theorem run_nil (step : State → Event → Option State) (state : State) :
    run step state [] = some state := rfl

theorem run_cons (step : State → Event → Option State) (state final : State)
    (event : Event) (rest : List Event) :
    run step state (event :: rest) = some final ↔
      ∃ next, step state event = some next ∧ run step next rest = some final := by
  simp [run, Option.bind_eq_some_iff]

theorem run_append (step : State → Event → Option State) (state : State)
    (first second : List Event) : run step state (first ++ second) =
      (run step state first).bind fun next => run step next second := by
  induction first generalizing state with
  | nil => rfl
  | cons event rest ih =>
    cases taken : step state event with
    | none => simp [run, taken]
    | some next => simp [run, taken, ih]

def Meets (step : State → Event → Option State) (guard : State → Event → Prop) :
    State → List Event → Prop
  | _, [] => True
  | state, event :: rest =>
    guard state event ∧ ∀ next, step state event = some next → Meets step guard next rest

instance decidableMeets (step : State → Event → Option State) (guard : State → Event → Prop)
    [∀ state event, Decidable (guard state event)] :
    ∀ state events, Decidable (Meets step guard state events)
  | _, [] => isTrue trivial
  | state, event :: rest =>
    match taken : step state event with
    | none => decidable_of_iff (guard state event) (by simp [Meets, taken])
    | some next =>
      have := decidableMeets step guard next rest
      decidable_of_iff (guard state event ∧ Meets step guard next rest)
        (by simp [Meets, taken])

theorem invariant_of_step (step : State → Event → Option State)
    (guard : State → Event → Prop) (invariant : State → Prop)
    (preserved : ∀ state event next, invariant state → guard state event →
      step state event = some next → invariant next)
    (state final : State) (events : List Event) (start : invariant state)
    (meets : Meets step guard state events) (reached : run step state events = some final) :
    invariant final := by
  induction events generalizing state with
  | nil =>
    obtain rfl : state = final := by simpa using reached
    exact start
  | cons event rest ih =>
    obtain ⟨next, taken, later⟩ := (run_cons step state final event rest).mp reached
    exact ih next (preserved state event next start meets.1 taken) (meets.2 next taken) later

theorem run_of_step (step : State → Event → Option State)
    (guard : State → Event → Prop) (invariant : State → Prop)
    (progress : ∀ state event, invariant state → guard state event →
      ∃ next, step state event = some next ∧ invariant next)
    (state : State) (events : List Event) (start : invariant state)
    (meets : Meets step guard state events) :
    ∃ final, run step state events = some final ∧ invariant final := by
  induction events generalizing state with
  | nil => exact ⟨state, rfl, start⟩
  | cons event rest ih =>
    obtain ⟨next, taken, kept⟩ := progress state event start meets.1
    obtain ⟨final, reached, done⟩ := ih next kept (meets.2 next taken)
    exact ⟨final, (run_cons step state final event rest).mpr ⟨next, taken, reached⟩, done⟩

theorem meets_of_forall (step : State → Event → Option State) (guard : State → Event → Prop)
    (state : State) (events : List Event)
    (always : ∀ state, ∀ event ∈ events, guard state event) : Meets step guard state events := by
  induction events generalizing state with
  | nil => trivial
  | cons event rest ih =>
    refine ⟨always state event (by simp), fun next _ => ih next ?_⟩
    intro other later member
    exact always other later (by simp [member])

theorem meets_events_iff (step : State → Event → Option State) (guard : Event → Prop)
    (state final : State) (events : List Event) (reached : run step state events = some final) :
    Meets step (fun _ event => guard event) state events ↔ ∀ event ∈ events, guard event := by
  constructor
  · intro meets
    induction events generalizing state with
    | nil => exact List.forall_mem_nil _
    | cons event rest ih =>
      obtain ⟨next, taken, later⟩ := (run_cons step state final event rest).mp reached
      exact List.forall_mem_cons.mpr ⟨meets.1, ih next later (meets.2 next taken)⟩
  · intro guarded
    exact meets_of_forall step _ state events fun _ event member => guarded event member

theorem meets_congr (step : State → Event → Option State) (first second : State → Event → Prop)
    (invariant : State → Prop)
    (same : ∀ state event, invariant state → (first state event ↔ second state event))
    (preserved : ∀ state event next, invariant state → second state event →
      step state event = some next → invariant next)
    (state : State) (events : List Event) (start : invariant state) :
    Meets step first state events ↔ Meets step second state events := by
  induction events generalizing state with
  | nil => exact Iff.rfl
  | cons event rest ih =>
    have here := same state event start
    constructor
    · rintro ⟨guarded, meets⟩
      refine ⟨here.mp guarded, fun next taken => (ih next ?_).mp (meets next taken)⟩
      exact preserved state event next start (here.mp guarded) taken
    · rintro ⟨guarded, meets⟩
      refine ⟨here.mpr guarded, fun next taken => (ih next ?_).mpr (meets next taken)⟩
      exact preserved state event next start guarded taken

theorem meets_congr_of_run (step : State → Event → Option State)
    (first second : State → Event → Prop) (invariant : State → Prop)
    (same : ∀ state event next, invariant state → step state event = some next →
      (first state event ↔ second state event))
    (preserved : ∀ state event next, invariant state → second state event →
      step state event = some next → invariant next)
    (state final : State) (events : List Event) (start : invariant state)
    (reached : run step state events = some final) :
    Meets step first state events ↔ Meets step second state events := by
  induction events generalizing state with
  | nil => exact Iff.rfl
  | cons event rest ih =>
    obtain ⟨next, taken, later⟩ := (run_cons step state final event rest).mp reached
    have only {other : State} (also : step state event = some other) : other = next :=
      Option.some.inj (also.symm.trans taken)
    have here := same state event next start taken
    constructor
    · rintro ⟨guarded, meets⟩
      have kept := preserved state event next start (here.mp guarded) taken
      refine ⟨here.mp guarded, fun other also => ?_⟩
      exact only also ▸ (ih next kept later).mp (meets next taken)
    · rintro ⟨guarded, meets⟩
      have kept := preserved state event next start guarded taken
      refine ⟨here.mpr guarded, fun other also => ?_⟩
      exact only also ▸ (ih next kept later).mpr (meets next taken)

theorem meets_and (step : State → Event → Option State) (first second : State → Event → Prop)
    (state : State) (events : List Event) :
    Meets step (fun state event => first state event ∧ second state event) state events ↔
      Meets step first state events ∧ Meets step second state events := by
  induction events generalizing state with
  | nil => simp [Meets]
  | cons event rest ih =>
    simp only [Meets, ih]
    constructor
    · rintro ⟨⟨one, two⟩, later⟩
      exact ⟨⟨one, fun next taken => (later next taken).1⟩, two, fun next taken =>
        (later next taken).2⟩
    · rintro ⟨⟨one, early⟩, two, late⟩
      exact ⟨⟨one, two⟩, fun next taken => ⟨early next taken, late next taken⟩⟩

theorem invariant_of_run (step : State → Event → Option State) (invariant : State → Prop)
    (preserved : ∀ state event next, invariant state → step state event = some next →
      invariant next)
    (state final : State) (events : List Event) (start : invariant state)
    (reached : run step state events = some final) : invariant final := by
  apply invariant_of_step step (fun _ _ => True) invariant _ state final events start _ reached
  · intro before event after holds _ taken
    exact preserved before event after holds taken
  · exact meets_of_forall step _ state events fun _ _ _ => trivial

-- What is good stays so exactly under the guard, so the guard is met exactly when all is good.
theorem good_iff_of_step (step : State → Event → Option State) (guard : State → Event → Prop)
    (invariant good : State → Prop)
    (preserved : ∀ state event next, invariant state → step state event = some next →
      invariant next)
    (each : ∀ state event next, invariant state → step state event = some next →
      (good next ↔ good state ∧ guard state event))
    (state final : State) (events : List Event) (start : invariant state)
    (reached : run step state events = some final) :
    good final ↔ good state ∧ Meets step guard state events := by
  induction events generalizing state with
  | nil =>
    obtain rfl : state = final := by simpa using reached
    simp [Meets]
  | cons event rest ih =>
    obtain ⟨next, taken, later⟩ := (run_cons step state final event rest).mp reached
    have only (P : State → Prop) :
        (∀ other, step state event = some other → P other) ↔ P next := by
      simp [taken]
    rw [ih next (preserved state event next start taken) later,
      each state event next start taken, and_assoc, Meets, only]

variable (step : State → Event → Option State) (among : Event → Prop) (measure : State → Nat)

def AtRest (state : State) : Prop := ∀ event, among event → step state event = none

variable (decreases : ∀ state event next, among event → step state event = some next →
  measure next < measure state)

include decreases

theorem length_le_of_decreases (state final : State) (events : List Event)
    (only : ∀ event ∈ events, among event) (reached : run step state events = some final) :
    events.length ≤ measure state := by
  induction events generalizing state with
  | nil => exact Nat.zero_le _
  | cons event rest ih =>
    obtain ⟨next, taken, later⟩ := (run_cons step state final event rest).mp reached
    obtain ⟨first, others⟩ := List.forall_mem_cons.mp only
    have shorter := ih next others later
    have less := decreases state event next first taken
    rw [List.length_cons]
    omega

theorem comes_to_rest (state : State) : ∃ events final, (∀ event ∈ events, among event) ∧
    run step state events = some final ∧ AtRest step among final := by
  induction bound : measure state using Nat.strongRecOn generalizing state with
  | _ bound ih =>
    subst bound
    by_cases rest : AtRest step among state
    · exact ⟨[], state, List.forall_mem_nil _, rfl, rest⟩
    · simp only [AtRest, not_forall, Option.ne_none_iff_exists'] at rest
      obtain ⟨event, first, next, taken⟩ := rest
      obtain ⟨events, final, others, reached, rests⟩ :=
        ih _ (decreases state event next first taken) next rfl
      exact ⟨event :: events, final, List.forall_mem_cons.mpr ⟨first, others⟩,
        (run_cons step state final event events).mpr ⟨next, taken, reached⟩, rests⟩

omit decreases in
theorem length_add_of_drops (invariant : State → Prop)
    (preserved : ∀ state event next, invariant state → among event →
      step state event = some next → invariant next)
    (drops : ∀ state event next, invariant state → among event →
      step state event = some next → measure state = measure next + 1)
    (state final : State) (events : List Event) (start : invariant state)
    (only : ∀ event ∈ events, among event) (reached : run step state events = some final) :
    events.length + measure final = measure state := by
  induction events generalizing state with
  | nil =>
    obtain rfl : state = final := by simpa using reached
    exact Nat.zero_add _
  | cons event rest ih =>
    obtain ⟨next, taken, later⟩ := (run_cons step state final event rest).mp reached
    obtain ⟨first, others⟩ := List.forall_mem_cons.mp only
    have shorter := ih next (preserved state event next start first taken) others later
    have less := drops state event next start first taken
    rw [List.length_cons]
    omega

end Runs
